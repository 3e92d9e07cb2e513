import Stencil.Proofs.Procedure.Construct
import Stencil.Proofs.Template.Evaluation
import Stencil.Proofs.Template.Print
import Stencil.Run.Template

/-!
# Compiling preserves meaning

A template that is printed from a tree, compiled, constructed and invoked does what the tree does.

## Main definitions

* `Tree.procedure` — the procedure of a tree, made of its statements without any script.
* `Tree.invoke` — such a procedure is called, and the tree is evaluated.

## Main results

* `Tree.construct_source` — the rows of a tree are constructed to the procedure of the tree.
* `Tree.compile_preserves` — a template does what its tree does.
-/

namespace Stencil

open Script

namespace Text

theorem surrogates?_eq_none {excused : CodePoint → Bool} {t : Text} (n : Nat)
    (h : ∀ c ∈ t, c.isSurrogate = false) : surrogates? excused n t = none := by
  induction t generalizing n with
  | nil => rfl
  | cons c t ih =>
    rw [surrogates?, h c List.mem_cons_self]
    exact ih (n + 1) fun d hd => h d (List.mem_cons_of_mem _ hd)

end Text

namespace Tree

/-- The statements of a whole tree. -/
def statements (tree : Tree) : List Stmt := (tree.statements? 0 0).getD []

/-- The procedure of a tree. -/
def procedure (I : Interp) (tree : Tree) (names : List Value) (file : Text) : Proc Procedure := do
  Procedure.refuseRepeated names
  let body ← Procedure.bounded tree.statements
  Procedure.ofStatements I body ((tree.lines 1).map Int.ofNat) names .blocking file

/-- The procedure of a tree is called: in an activation of its function, the tree is evaluated. -/
def invoke (I : Interp) (tree : Tree) (p : Procedure) (caller : Caller) (args : List Value) :
    Proc Value := do
  if args.length = p.names.length then
    I.enter caller
    match p.function with
    | .function r =>
      match (← Proc.heap).get? r with
      | some (.function c) =>
        let scope ← c.enter args []
        match ← tree.run I 0 0 (c.frame caller scope) with
        | .give v => return v
        | _ => return .none
      | _ => return .none
    | _ => return .none
  else
    Proc.error .typeError (p.file ++ ": expected " ++ Text.ofNat p.names.length ++
      " arguments, got " ++ Text.ofNat args.length)

variable {tree : Tree}

theorem statements?_eq_some (h : (tree.statements? 0 0).isSome) :
    tree.statements? 0 0 = some tree.statements := by
  obtain ⟨stmts, hs⟩ := Option.isSome_iff_exists.1 h
  rw [statements, hs, Option.getD_some]

theorem statements_ne_nil (h : (tree.statements? 0 0).isSome) : tree.statements ≠ [] := by
  have hs := statements?_eq_some h
  intro hnil
  rw [hnil] at hs
  cases tree with
  | literal t => simp [statements?] at hs
  | simple t code rest =>
    simp only [statements?] at hs
    split at hs <;> simp at hs
  | block t head body clauses rest =>
    simp only [statements?] at hs
    split at hs <;> simp at hs

/-- The rows of a tree are read as its statements. -/
theorem parse_file (hv : tree.Valid) (hl : tree.Legible) (hu : tree.Upright 0)
    (h : (tree.statements? 0 0).isSome) (hn : tree.nesting < Terminals.maxIndents) (file : Text)
    (moved : Nat → Int) :
    Procedure.parse file moved (tree.source 0) = Procedure.bounded tree.statements := by
  have plain {c : CodePoint} (hc : c ∈ tree.source 0) : IsPlain c := isPlain_source tree hv hc
  have encodable : (tree.source 0).unencodable? = none := by
    rw [Text.unencodable?, Text.surrogates?_eq_none 0 fun c hc => (plain hc).2.2]
    rfl
  have noZero : (0 : CodePoint) ∉ tree.source 0 := fun hc => (plain hc).1 rfl
  unfold Procedure.parse
  simp only [encodable, noZero, ↓reduceIte, parse_source hv hl hu (statements?_eq_some h) hn]

theorem construct_source (hv : tree.Valid) (hl : tree.Legible) (hu : tree.Upright 0)
    (h : (tree.statements? 0 0).isSome) (hn : tree.nesting < Terminals.maxIndents) (I : Interp)
    (names : List Value) (file : Text) :
    Procedure.construct I (tree.source 0) ((tree.lines 1).map Int.ofNat) names .blocking file =
      tree.procedure I names file := by
  unfold Procedure.construct procedure
  rw [parse_file hv hl hu h hn]

/-- A procedure that executes the statements of a tree evaluates the tree. -/
theorem invoke_of_executes {grant : Grant} {limit depth fuel : Nat} {p : Procedure} {m : Machine}
    (h : (tree.statements? 0 0).isSome) (hp : p.Executes tree.statements m) (caller : Caller)
    (args : List Value) :
    p.invoke (Interp.ofFuel grant limit depth (fuel + 1)) caller args m =
      tree.invoke (Interp.ofFuel grant limit depth fuel) p caller args m := by
  obtain ⟨r, params, globals, lines, file, hr, hm⟩ := hp
  unfold Procedure.invoke invoke
  split
  · simp only [Interp.ofFuel, hr, Eval.call]
    unfold Interp.enter
    split
    · rfl
    simp only [pure_bind]
    rw [Proc.bind_of_done (p := Proc.heap) (a := m.heap) rfl,
      Proc.bind_of_done (p := Proc.heap) (a := m.heap) rfl]
    simp only [hm]
    have run (c : Closure) (hc : c.body = tree.statements) (scope : Ref) :
        c.run (Interp.ofFuel grant limit depth fuel) caller scope = (do
          match ← tree.run (Interp.ofFuel grant limit depth fuel) 0 0 (c.frame caller scope) with
          | .give v => return v
          | _ => return .none) := by
      rw [Closure.run, hc, execAll_statements tree (statements?_eq_some h)] <;> rfl
    refine congrFun (bind_congr fun scope => ?_) m
    exact run _ rfl scope
  · rfl

/-- A template that is printed from a tree is compiled, and constructed and invoked it does what the
tree does: the construction is that of the procedure of the tree, and to call the function of plain
parameters that results is to evaluate the tree. -/
theorem compile_preserves (valid : tree.Valid) (legible : tree.Legible)
    (upright : tree.Upright 0) (whole : (tree.statements? 0 0).isSome)
    (nested : tree.nesting < Terminals.maxIndents) :
    ∃ s, Template.compile .standard .blocking tree.print = .ok s ∧
      (∀ I names file,
        Procedure.construct I s.text (s.lines.map Int.ofNat) names .blocking file =
          tree.procedure I names file) ∧
      ∀ grant limit depth fuel names file caller args, Procedure.PlainNames names →
        (do
          let p ← Procedure.construct (Interp.ofFuel grant limit depth (fuel + 1)) s.text
            (s.lines.map Int.ofNat) names .blocking file
          p.invoke (Interp.ofFuel grant limit depth (fuel + 1)) caller args) = (do
          let p ← tree.procedure (Interp.ofFuel grant limit depth (fuel + 1)) names file
          tree.invoke (Interp.ofFuel grant limit depth fuel) p caller args) := by
  refine ⟨_, compile_print valid legible (statements?_eq_some whole),
    construct_source valid legible upright whole nested, ?_⟩
  intro grant limit depth fuel names file caller args plain
  rw [construct_source valid legible upright whole nested]
  have executes : (tree.procedure (Interp.ofFuel grant limit depth (fuel + 1)) names file).Ensures
      fun p m => p.Executes tree.statements m := by
    have bounded : (Procedure.bounded tree.statements).Ensures fun body _ =>
        body = tree.statements := by
      unfold Procedure.bounded
      split
      · exact Proc.ensures_error
      · exact fun _ => rfl
    refine Proc.ensures_bind fun _ => bounded.bind ?_
    rintro body m rfl
    exact Procedure.ensures_ofStatements plain (statements_ne_nil whole) _ file m
  exact executes.bind_congr fun p m hp => invoke_of_executes whole hp caller args

/-- A section, a loop that goes on with a clause, and literal texts around them. -/
def loop : Tree :=
  .simple "a" "x = [1]" (.block "b" "for i in x:" (.literal "c")
    (.clause "else:" (.literal "") .done) (.literal "d"))

theorem valid_loop : loop.Valid := by
  have anew : Terminals.Scan.Anew [] := ⟨by simp, .inl rfl⟩
  have simple : Section "x = [1]" :=
    ⟨by decide, by decide, by decide, by decide,
      ⟨anew, 'x', " = [1]", rfl, by decide⟩, by decide +kernel⟩
  have head : Section "for i in x:" :=
    ⟨by decide, by decide, by decide, by decide,
      ⟨anew, 'f', "or i in x:", rfl, by decide⟩, by decide +kernel⟩
  have clause : Section "else:" :=
    ⟨by decide, by decide, by decide, by decide,
      ⟨anew, 'e', "lse:", rfl, by decide⟩, by decide +kernel⟩
  have notEnd : ¬Block.IsEnd (row "x = [1]") := by
    rintro ⟨rest, hrest, -⟩
    have first : some (0x78 : CodePoint) = some 0x65 := congrArg List.head? hrest
    exact absurd first (by decide)
  exact ⟨⟨by decide, by decide⟩, simple, notEnd, ⟨by decide, by decide⟩, head,
    ⟨by decide, by decide⟩, ⟨clause, ⟨by decide, by decide⟩, trivial⟩, ⟨by decide, by decide⟩⟩

theorem legible_loop : loop.Legible :=
  ⟨by decide, by decide, trivial, ⟨by decide, trivial, trivial⟩, trivial⟩

theorem upright_loop : loop.Upright 0 :=
  ⟨.inr rfl, trivial, ⟨trivial, trivial⟩, trivial⟩

/-- The template of a loop is compiled, constructed and invoked with `write`. -/
theorem compile_preserves_loop :
    loop.Valid ∧ loop.Legible ∧ loop.Upright 0 ∧ (loop.statements? 0 0).isSome = true ∧
    loop.nesting < Terminals.maxIndents ∧
    Procedure.PlainNames [.str "write"] ∧
    ∃ s, Template.compile .standard .blocking loop.print = .ok s ∧ ∀ file caller args,
      (do
        let p ← Procedure.construct Interp.standard s.text (s.lines.map Int.ofNat) [.str "write"]
          .blocking file
        p.invoke Interp.standard caller args) = (do
        let p ← loop.procedure Interp.standard [.str "write"] file
        loop.invoke (Interp.ofFuel Run.grant Interp.rounds Interp.maxDepth Interp.maxDepth) p caller
          args) := by
  have whole : (loop.statements? 0 0).isSome = true := by decide +kernel
  have nested : loop.nesting < Terminals.maxIndents := by decide
  have plain : Procedure.PlainNames [.str "write"] := ⟨["write"], rfl, by decide +kernel⟩
  obtain ⟨s, hs, -, invoked⟩ := compile_preserves valid_loop legible_loop upright_loop whole nested
  exact ⟨valid_loop, legible_loop, upright_loop, whole, nested, plain, s, hs, fun file caller args =>
    invoked Run.grant Interp.rounds Interp.maxDepth Interp.maxDepth _ file caller args plain⟩

end Tree

end Stencil
