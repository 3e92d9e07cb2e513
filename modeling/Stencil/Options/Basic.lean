import Stencil.Eval.Operator
import Stencil.Template.Segment

/-!
# Options

The delimiters that a template is compiled with, which have to differ. Options are given as such,
not at all, or as a mapping of names to values in which unknown names do not matter.

## Main definitions

* `Options` — delimiters that differ.
* `Options.ofEntries` — the options in a mapping, or what is wrong with it.
* `Options.coerce` — options in any of the forms in which they are given.
-/

namespace Stencil

/-- Delimiters that differ. -/
structure Options where
  delimiters : Delimiters
  start_ne_stop : delimiters.start ≠ delimiters.stop

/-- What is wrong with an option. -/
inductive OptionIssue where
  | notText (field : Text)
  | tooShort (field : Text)
  | notDistinct
  deriving DecidableEq, Repr, Inhabited

namespace OptionIssue

/-- Where it is, what kind of fault it is, and in words. -/
def report : OptionIssue → List Text × Text × Text
  | notText field => ([field], "string_type", "Input should be a valid string")
  | tooShort field => ([field], "string_too_short", "String should have at least 1 character")
  | notDistinct => ([], "value_error", "Value error, start_delim and end_delim must differ")

/-- What is said about options with so many faults. -/
def summary (count : Nat) : Text :=
  Text.ofNat count ++ " validation error" ++ (if count = 1 then ([] : Text) else "s") ++
    " for RenderOptions"

end OptionIssue

namespace Options

/-- The options of a template for which none are given. -/
def standard : Options := ⟨Delimiters.standard, by decide⟩

instance : Inhabited Options := ⟨standard⟩

/-- The delimiter that a mapping names, or the standard one. -/
def field (es : Entries) (id standard : Text) : Except OptionIssue Text :=
  match es.getText? id with
  | none => .ok standard
  | some (.str []) => .error (.tooShort id)
  | some (.str t) => .ok t
  | some _ => .error (.notText id)

/-- The options with these delimiters, or what is wrong with them. -/
def ofTexts (start stop : Text) : Except (List OptionIssue) Options :=
  match Delimiters.ofTexts? start stop with
  | some d => if h : d.start ≠ d.stop then .ok ⟨d, h⟩ else .error [.notDistinct]
  | none =>
    .error ((if start.isEmpty then [.tooShort "start_delim"] else []) ++
      if stop.isEmpty then [.tooShort "end_delim"] else [])

/-- The options in a mapping, or everything that is wrong with it. -/
def ofEntries (es : Entries) : Except (List OptionIssue) Options :=
  match field es "start_delim" Delimiters.standard.start,
    field es "end_delim" Delimiters.standard.stop with
  | .ok start, .ok stop => ofTexts start stop
  | .error e, .ok _ | .ok _, .error e => .error [e]
  | .error e, .error e' => .error [e, e']

/-- Says what is wrong with options. -/
def refuse {α : Type} (issues : List OptionIssue) : Proc α :=
  Proc.raise { Thrown.plain .validationError [.str (OptionIssue.summary issues.length)] with
    detail := .issues (issues.map OptionIssue.report) }

/-- Options or what is wrong with them, as a process. -/
def orRefuse (options : Except (List OptionIssue) Options) : Proc Options :=
  match options with
  | .ok o => return o
  | .error issues => refuse issues

/-- Pairs out of values that hold two values each. -/
def pairs (index : Nat) : List Value → Proc Entries
  | [] => return []
  | v :: vs => do
    match v.items? (← Proc.heap) with
    | none =>
      Proc.error .typeError ("cannot convert dictionary update sequence element #" ++
        Text.ofNat index ++ " to a sequence")
    | some [key, value] =>
      Eval.checkKey key
      return (key, value) :: (← pairs (index + 1) vs)
    | some items =>
      Proc.error .valueError ("dictionary update sequence element #" ++ Text.ofNat index ++
        " has length " ++ Text.ofNat items.length ++ "; 2 is required")

/-- The entries that a value has or that it holds as pairs. -/
def entriesOf (v : Value) : Proc Entries := do
  match v with
  | .dict r => return (← Proc.heap).dict r
  | v => return Entries.ofPairs (← pairs 0 (← Eval.items v))

/-- How options are given. -/
inductive Given where
  | options (o : Options)
  | value (v : Value)

/-- Options in any of the forms in which they are given; nothing stands for the standard ones. -/
def coerce : Given → Proc Options
  | .options o => return o
  | .value .none => return standard
  | .value v => do orRefuse (ofEntries (← entriesOf v))

end Options

end Stencil
