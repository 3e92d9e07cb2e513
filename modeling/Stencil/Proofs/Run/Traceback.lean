import Stencil.Proofs.Run.Failure
import Stencil.Proofs.Run.Raise
import Stencil.Proofs.Template.Line

/-!
# Tracebacks

An error that leaves the outermost run has a traceback in which there is one place for each call that
was going on when it was raised: the body of a template, a function, a list that was made in a loop.
The place is that of the node at work, the one that called, or for the innermost call the one that
failed, and its line is the one in the template on which the row of the node begins.

## Main definitions

* `Code.NamesLine` — code names a line of a template.
* `Run.Traced` — what the traceback of an error says.

## Main results

* `Run.tracebacks_name_lines` — what the tracebacks of errors say that have not been raised again.
-/

namespace Stencil

open Script

variable {α β γ : Type} {K : Code → Prop} {A : Replies} {D : Path} {m m' n n' : Machine} {r : Ref}
  {p : Proc α} {q : Proc γ} {o : Outcome α} {o' : Outcome γ} {ls : List Layer} {d : Delimiters}
  {mode : Mode}

/-! ## Lines of templates -/

/-- Code names a line of a template for a row: the template is in the file that the code says it comes
from, and if it has no carriage returns, the line is counted by the line feeds before the piece of it
that the row is made of. -/
def Code.NamesLine (A : Replies) (D : Path) (c : Code) (row : Nat) : Prop :=
  ∃ path mode octets text d source, A (.read (D.join path) mode) (.ok octets) ∧
    Text.decode? octets = some text ∧ Template.compile d mode text = .ok source ∧
    c.file = (D.join path).text ∧ ((13 : CodePoint) ∉ text → ∃ o made,
      (Template.origins d text)[Template.rowIn source.rows.length row]? = some o ∧
      source.rows[Template.rowIn source.rows.length row]? = some made ∧
      o.before ++ o.piece <+: text ∧ Origin.Makes o.piece made ∧
      c.lineAt row = 1 + o.before.lineFeeds)

/-- The code of a template names its lines. -/
theorem Code.IsTemplate.namesLine {c : Code} (h : c.IsTemplate A D) (row : Nat) :
    c.NamesLine A D row := by
  obtain ⟨read, decoded, compiled, written⟩ := h
  rename_i path mode octets text d parts body
  have made : Template.compile d mode text = .ok (Source.ofParts parts) := by
    rw [Template.compile, compiled]
    rfl
  refine ⟨path, mode, octets, text, d, _, read, decoded, made, rfl, fun ht => ?_⟩
  obtain ⟨o, row', ho, hrow, within, makes, hline⟩ := Template.line_exact made ht row
  refine ⟨o, row', ho, hrow, within, makes, ?_⟩
  rw [Code.lineAt, hline, if_neg (by omega)]

namespace Run

/-- What the traceback of an error says that leaves a process. The error has been raised inside layers
for the first time. Its traceback has a place for each call of code among the layers, in their order:
that of a node of the code that is at work, and goes on as the call that comes next or as what raises
the error. The line of the place is that of the template, if the code is a template's. -/
inductive Traced (A : Replies) (D : Path) (p : Proc α) (m : Machine) (r : Ref) (m' : Machine) : Prop
  | intro {ls : List Layer} {τ : Standing} {γ : Type} {q : Proc γ} {n n' : Machine}
      (part : Exec.Part (Code.IsRun A D) A ls ⟨none, none⟩ p m (.raised r) m' τ q n (.raised r) n')
      (origin : n'.IsNew n r ∨ (∀ m, q m = .done (.raised r) m) ∧ ¬ n.Raised r)
      (calls : (sitesOf ls).map Prod.fst = callsOf ls)
      (traceback : (n'.heap.thrown? r).isSome → ∃ e, m'.heap.thrown? r = some e ∧
        e.traceback = (sitesOf ls).map placeOf)
      (nodes : ∀ above c spot below, ls = above ++ .place c spot :: below → spot ∈ c.spots ∧
        ∃ (τ₁ : Standing) (β : Type) (w : Proc β) (n₁ : Machine) (o₁ : Outcome β) (n₂ : Machine),
          spot.Does w ∧
          Exec.Part (Code.IsRun A D) A (above ++ [.place c spot]) ⟨none, none⟩ p m (.raised r) m'
            τ₁ w n₁ o₁ n₂ ∧
          Exec.Part (Code.IsRun A D) A below τ₁ w n₁ o₁ n₂ τ q n (.raised r) n')
      (lines : ∀ site ∈ sitesOf ls, site.1.lines = [] ∨ site.1.NamesLine A D site.2.row)

/-- An error that leaves a process and has not been raised again within it is traced. -/
theorem traced_of_told (told : Told (Code.IsRun A D) A ⟨none, none⟩ p m (.raised r) m')
    (hr : ¬ Reraised (Code.IsRun A D) A ⟨none, none⟩ p m (.raised r) m' r) : Traced A D p m r m' := by
  cases told.comes r rfl with
  | reraised h => exact absurd h hr
  | handled handling => cases handling
  | raised h =>
    obtain @⟨ls, τ, γ, q, n, n', part, outside, origin, traceback⟩ := h
    have framed : Framed (Code.IsRun A D) none ls none := outside ▸ part.framed
    have calls : (sitesOf ls).map Prod.fst = callsOf ls := framed.sites_eq
    have first : n'.IsNew n r ∨ (∀ m, q m = .done (.raised r) m) ∧ ¬ n.Raised r := by
      cases origin with
      | new new => exact .inl new
      | again h =>
        exact .inr ⟨h, fun before => hr ⟨ls, τ, γ, q, n, n', part, outside, before⟩⟩
    refine .intro part first calls (fun hs => ?_) (fun above c spot below hs => ?_)
      fun site hsite => ?_
    · obtain ⟨e, he⟩ := Option.isSome_iff_exists.1 hs
      obtain ⟨e', he'⟩ := Option.isSome_iff_exists.1 (part.within.ends.stays r hs)
      have new : e.traceback = [] := by
        obtain ⟨-, e₁, he₁, htb⟩ | ⟨h, before⟩ := first
        · exact Option.some.inj (he.symm.trans he₁) ▸ htb
        · obtain ⟨-, rfl⟩ := (Proc.goes_of_done (h n)).1 part.goes_inner
          exact Decidable.byContradiction fun hne => before ⟨e, he, hne⟩
      exact ⟨e', he', by rw [traceback e e' he he', new, List.append_nil]⟩
    · refine ⟨framed.mem_spots ?_, part.split hs⟩
      rw [hs]
      simp [sitesOf, Layer.site?]
    · have known : Code.IsRun A D site.1 := framed.known (calls ▸ List.mem_map_of_mem hsite)
      exact known.imp_right fun h => h.namesLine _

/-- A template is run from outside, and includes others, in any mode. The traceback of an error that
leaves it names the lines of templates at which calls were going on, unless it has been raised again
after it had been raised before. -/
theorem tracebacks_name_lines (limit depth fuel : Nat) {path : Path} {context : Value}
    (known : m.heap.Knows (Code.IsRun A m.directory))
    (h : (start (Interp.ofFuel grant limit depth fuel) .none path d mode context).Goes A m
      (.raised r) m') :
    Traced A m.directory (start (Interp.ofFuel grant limit depth fuel) .none path d mode context) m r
      m' ∨
    Reraised (Code.IsRun A m.directory) A ⟨none, none⟩
      (start (Interp.ofFuel grant limit depth fuel) .none path d mode context) m (.raised r) m' r := by
  have derives : (Interp.ofFuel grant limit depth fuel).Derives (Code.IsRun A m.directory) A
      m.directory := Interp.derives_run (fun _ h => h) limit depth fuel
  have exec := derivable_start derives (fun _ h => h) m ⟨known, rfl⟩ _ m' h
  by_cases hr : Reraised (Code.IsRun A m.directory) A ⟨none, none⟩
      (start (Interp.ofFuel grant limit depth fuel) .none path d mode context) m (.raised r) m' r
  · exact .inr hr
  · exact .inl (traced_of_told exec.told hr)

/-- The traceback of the exception with which `main` ends on a disk. -/
def traceback? (mode : Mode) (d : Disk) : Option (List (Text × Int)) :=
  match (hosted mode granting).finish Disk.answer d with
  | (.raised r, m, _) => (m.heap.thrown? r).map Thrown.traceback
  | _ => none

/-- On the disk `failing`, the error of a template that is included leaves the outermost run. -/
theorem tracebacks_name_lines_of_failing : ∃ r m',
    (hosted .blocking).Goes (fun _ _ => True) granting (.raised r) m' ∧
    (m'.heap.thrown? r).map Thrown.traceback =
      some [(("/main" : Text), (1 : Int)), (("/a" : Text), (1 : Int))] ∧
    (Traced (fun _ _ => True) granting.directory (hosted .blocking) granting r m' ∨
      Reraised (Code.IsRun (fun _ _ => True) granting.directory) (fun _ _ => True) ⟨none, none⟩
        (hosted .blocking) granting (.raised r) m' r) := by
  obtain ⟨moves, hc, -⟩ :=
    Step.exists_course_of_finish Disk.answer (hosted .blocking granting) failing
  have told : traceback? .blocking failing =
      some [(("/main" : Text), (1 : Int)), (("/a" : Text), (1 : Int))] := by decide +kernel
  rw [traceback?] at told
  generalize (hosted .blocking granting).finish Disk.answer failing = last at hc told
  obtain ⟨o, m', after⟩ := last
  cases o with
  | raised r =>
    have goes : (hosted .blocking).Goes (fun _ _ => True) granting (.raised r) m' :=
      ⟨moves, fun _ _ _ _ => trivial, hc⟩
    have known : granting.heap.Knows (Code.IsRun (fun _ _ => True) granting.directory) := by
      intro r o f hr hf
      obtain ⟨rfl, rfl⟩ : r = 0 ∧ o = .dict writer := by
        rcases r with _ | r
        · exact ⟨rfl, (Option.some.inj hr).symm⟩
        · cases hr
      cases hf
    exact ⟨r, m', goes, told, tracebacks_name_lines Interp.rounds Interp.maxDepth
      (Interp.maxDepth + 1) known goes⟩
  | _ => cases told

/-- A template without functions that includes nothing, and raises an error again that it has caught. -/
def reraising : Text :=
  "%\x7b\ntry:\n    raise ValueError('x')\nexcept ValueError as e:\n    raise e\n\x7d%"

/-- An error that is raised again has a place in its traceback for each time that it has been raised,
though there is one call only in which that happens. -/
theorem errors_raised_again_have_places_from_before :
    (Template.compile Delimiters.standard .blocking reraising).toOption.map Source.text =
      some ("write('')\ntry:\n    raise ValueError('x')\nexcept ValueError as e:\n    raise e\n" ++
        "write('')\n" : Text) ∧
    ∀ mode, traceback? mode (templatesOn [("main", reraising)]) =
      some [(("/main" : Text), (5 : Int)), (("/main" : Text), (3 : Int))] := by
  refine ⟨by decide +kernel, fun mode => ?_⟩
  cases mode <;> decide +kernel

end Run

end Stencil
