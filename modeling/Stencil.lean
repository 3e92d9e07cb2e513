import Stencil.Disk.Basic
import Stencil.Machine.Datum
import Stencil.Machine.Pool
import Stencil.Main
import Stencil.Proofs.Template.Balance
import Stencil.Proofs.Template.Literal
import Stencil.Proofs.Template.Origin
import Stencil.Proofs.Template.Preservation
import Stencil.Proofs.Template.Legible
import Stencil.Proofs.Template.Placement
import Stencil.Proofs.Template.Strings
import Stencil.Proofs.Command.Output
import Stencil.Proofs.Run.Lineage
import Stencil.Proofs.Run.Refusal
import Stencil.Proofs.Eval.Calm
import Stencil.Proofs.Run.Activity
import Stencil.Proofs.Run.Failure
import Stencil.Proofs.Run.Raise
import Stencil.Proofs.Command.Plain
import Stencil.Proofs.Template.Header
import Stencil.Proofs.Template.Seam
import Stencil.Proofs.Template.Segmentation
import Stencil.Proofs.Path.Basic
import Stencil.Proofs.Module.Visit
import Stencil.Proofs.Module.History
import Stencil.Proofs.Run.Traceback
import Stencil.Proofs.Number.Double
import Stencil.Proofs.Value.Entries
import Stencil.Proofs.Context.Basic
import Stencil.Proofs.Path.Join
import Stencil.Proofs.Run.Sibling
import Stencil.Proofs.Script.Clauses
import Stencil.Proofs.Run.Reading
import Stencil.Proofs.Template.Ascent
