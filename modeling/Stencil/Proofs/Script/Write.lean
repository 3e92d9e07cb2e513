import Stencil.Proofs.Script.Row
import Stencil.Script.Parse.Suite

/-!
# A call that writes a text

A line of four terminals, the name `write` and a string in parentheses, is one statement: the call
of that name with the text that the string denotes. An operand with nothing after it that continues
it is the same expression on every level of the grammar.

## Main definitions

* `Denotes` — a string token and the text that it stands for.
* `Parse.Operand`, `Parse.Ends` — nothing before an operand, and nothing after it, belongs to it.
* `Parse.writing` — the terminals of the call.

## Main results

* `Parse.expression_of_primary` — an operand on its own is an expression.
* `Parse.clause_writing` — the statement that the line holds.
-/

namespace Stencil.Script

/-- A string token stands for a text. -/
def Denotes (token value : Text) : Prop :=
  ∃ s, StringToken.ofText? token = some s ∧ s.isOctets = false ∧ s.isJoined = false ∧
    s.read? s.body = some value

/-- One reader after another, the first of which succeeds. -/
theorem bind_ok {σ ε α β : Type} {p : StateT σ (Except ε) α} {a : α} {s t : σ}
    (f : α → StateT σ (Except ε) β) (h : p s = .ok (a, t)) : (p >>= f) s = f a t := by
  simp [bind, StateT.bind, h, Except.bind]

namespace Parse

open Script.Parser

variable {c c' : Cursor} {n : Nat} {e : Expr}

/-! ## Operands -/

/-- Nothing comes next that stands before an operand. -/
structure Operand (c : Cursor) : Prop where
  awaited : word? "await" c = .ok (false, c)
  negated : word? "not" c = .ok (false, c)
  minus : op? "-" c = .ok (false, c)
  plus : op? "+" c = .ok (false, c)

/-- Nothing comes next that continues an expression. -/
structure Ends (c : Cursor) : Prop where
  product : c.rest.head?.bind productOp = none
  sum : c.rest.head?.bind sumOp = none
  comparison : comparisonOp? c = .ok (none, c)
  conjunction : word? "and" c = .ok (false, c)
  disjunction : word? "or" c = .ok (false, c)
  choice : word? "if" c = .ok (false, c)

theorem chain_ends {operator : Terminal → Option BinaryOp} {operand : Parser Expr} {start : Span}
    (h : c.rest.head?.bind operator = none) :
    chain operator operand start (n + 1) e c = .ok (e, c) := by
  unfold chain
  rw [bind_ok _ (p := peek) (a := c.rest.head?) rfl, h]
  rfl

theorem comparisons_ends {operand : Parser Expr} (h : comparisonOp? c = .ok (none, c)) :
    comparisons operand (n + 1) c = .ok ([], c) := by
  unfold comparisons
  rw [bind_ok _ h]
  rfl

theorem operands_ends {joint : Text} {operand : Parser Expr} (h : word? joint c = .ok (false, c)) :
    operands joint operand (n + 1) c = .ok ([], c) := by
  unfold operands
  rw [bind_ok _ h]
  rfl

theorem signed_of_operand {operand : Parser Expr} (hc : Operand c)
    (h : operand c = .ok (e, c')) : signed operand (n + 1) c = .ok (e, c') := by
  unfold signed
  rw [bind_ok _ (p := here) rfl, bind_ok _ hc.minus]
  simp only [Bool.false_eq_true, ↓reduceIte]
  rw [bind_ok _ hc.plus]
  simpa using h

/-- From the loosest operators to the tightest, none of them takes part. -/
theorem disjunction_of_primary (h : primary n c = .ok (e, c')) (hc : Operand c) (hc' : Ends c') :
    disjunction (n + 1) c = .ok (e, c') := by
  unfold disjunction
  simp only
  rw [bind_ok _ (p := here) rfl, bind_ok _ (a := e) (t := c') ?_,
    bind_ok _ (operands_ends hc'.disjunction)]
  · rfl
  rw [bind_ok _ (p := here) rfl, bind_ok _ (a := e) (t := c') ?_,
    bind_ok _ (operands_ends hc'.conjunction)]
  · rfl
  unfold negated
  rw [bind_ok _ (p := here) rfl, bind_ok _ hc.negated]
  simp only [Bool.false_eq_true, ↓reduceIte]
  rw [bind_ok _ (p := here) rfl, bind_ok _ (a := e) (t := c') ?_,
    bind_ok _ (comparisons_ends hc'.comparison)]
  · rfl
  rw [bind_ok _ (p := here) rfl, bind_ok _ (a := e) (t := c') ?_, chain_ends hc'.sum]
  rw [bind_ok _ (p := here) rfl, bind_ok _ (a := e) (t := c') ?_, chain_ends hc'.product]
  refine signed_of_operand hc ?_
  rw [bind_ok _ (p := here) rfl, bind_ok _ hc.awaited]
  simpa using h

/-- An operand on its own is an expression. -/
theorem expression_of_primary (h : primary n c = .ok (e, c')) (hc : Operand c) (hc' : Ends c') :
    expression (n + 2) c = .ok (e, c') := by
  unfold expression
  rw [bind_ok _ (p := here) rfl, bind_ok _ (disjunction_of_primary h hc hc'),
    bind_ok _ hc'.choice]
  rfl

/-! ## The string -/

section

variable {token value : Text} {span last : Span} {depth : Nat} {rest : List Terminal}

theorem stringPieces_of_denotes {self : Parser Expr} (h : Denotes token value) :
    stringPieces self ⟨.string, token, span, depth⟩ c = .ok ([.text value], c) := by
  obtain ⟨s, hs, ho, hj, hv⟩ := h
  simp only [stringPieces, hs, ho, hj, hv, Bool.false_eq_true, ↓reduceIte]
  rfl

/-- A string token with no other after it. -/
theorem strings_of_denotes {self : Parser Expr} {t : Terminal} (h : Denotes token value)
    (ht : t.kind ≠ .string) :
    strings self (n + 2) ⟨⟨.string, token, span, depth⟩ :: t :: rest, last⟩ =
      .ok ((false, [.text value]), ⟨t :: rest, span⟩) := by
  have ended : strings self (n + 1) ⟨t :: rest, span⟩ = .ok ((false, []), ⟨t :: rest, span⟩) := by
    unfold strings
    rw [bind_ok _ (p := peek) rfl]
    simp only [List.head?_cons, ht, ↓reduceIte]
    rfl
  have plain : (StringToken.ofText? token).any StringToken.isJoined = false := by
    obtain ⟨s, hs, -, hj, -⟩ := h
    simp [hs, hj]
  unfold strings
  rw [bind_ok _ (p := peek) rfl]
  simp only [List.head?_cons, ↓reduceIte]
  rw [bind_ok _ (p := take) rfl, bind_ok _ (stringPieces_of_denotes h), bind_ok _ ended]
  simp only [plain]
  rfl

variable {close : Span} {after : Nat}

/-- A string token before a closing parenthesis is a constant. -/
theorem expression_of_denotes (h : Denotes token value) :
    expression (n + 5) ⟨⟨.string, token, span, depth⟩ :: ⟨.op, ")", close, after⟩ :: rest, last⟩ =
      .ok (.const span (.str value), ⟨⟨.op, ")", close, after⟩ :: rest, span⟩) := by
  refine expression_of_primary ?_ ⟨rfl, rfl, rfl, rfl⟩ ⟨rfl, rfl, rfl, rfl, rfl, rfl⟩
  unfold primary
  rw [bind_ok _ (p := here) rfl, bind_ok _ (a := .const span (.str value))
    (t := ⟨⟨.op, ")", close, after⟩ :: rest, span⟩) ?_]
  · rfl
  unfold atom
  rw [bind_ok _ (p := here) rfl, bind_ok _ (p := peek) rfl]
  simp only [List.head?_cons]
  rw [bind_ok _ (strings_of_denotes h (by simp)), bind_ok _ (p := since _) rfl]
  simp [piecesText]
  rfl

end

/-! ## The call -/

/-- The terminals of a call of `write` with one string: the extents of the name, the parentheses
and the string. -/
def writing (name opening string closing : Span) (token : Text) : List Terminal :=
  [⟨.name, "write", name, 0⟩, ⟨.op, "(", opening, 1⟩, ⟨.string, token, string, 1⟩,
    ⟨.op, ")", closing, 0⟩]

/-- A call of `write` with a text. -/
def written (name string closing : Span) (value : Text) : Expr :=
  .call (name.through closing) (.name name "write") [.const string (.str value)] []

variable {token value : Text} {name opening string closing last : Span}

theorem primary_writing (h : Denotes token value) :
    primary (n + 6) ⟨writing name opening string closing token, last⟩ =
      .ok (written name string closing value, ⟨[], closing⟩) := by
  unfold primary writing
  rw [bind_ok _ (p := here) rfl, bind_ok _ (a := .name name "write")
    (t := ⟨[⟨.op, "(", opening, 1⟩, ⟨.string, token, string, 1⟩, ⟨.op, ")", closing, 0⟩],
      name⟩) rfl]
  unfold trailers
  rw [bind_ok _ (p := op? ".") (a := false) rfl]
  simp only [Bool.false_eq_true, ↓reduceIte]
  rw [bind_ok _ (p := op? "(") (a := true) rfl]
  simp only [↓reduceIte]
  rw [bind_ok _ (a := ([.const string (.str value)], [])) (t := ⟨[], closing⟩) ?_]
  · rfl
  unfold arguments
  rw [bind_ok _ (p := op? ")") (a := false) rfl]
  simp only [Bool.false_eq_true, ↓reduceIte]
  rw [bind_ok _ (p := get) rfl]
  refine (congrFun (if_neg (by simp [Terminal.isName])) _).trans ?_
  rw [bind_ok _ (expression_of_denotes h)]
  unfold moreArguments
  rfl

theorem expressions_writing (h : Denotes token value) :
    expressions (n + 8) ⟨writing name opening string closing token, last⟩ =
      .ok (written name string closing value, ⟨[], closing⟩) := by
  have operand : Operand ⟨writing name opening string closing token, last⟩ := ⟨rfl, rfl, rfl, rfl⟩
  have ends : Ends ⟨[], closing⟩ := ⟨rfl, rfl, rfl, rfl, rfl, rfl⟩
  unfold expressions
  rw [bind_ok _ (p := here) rfl, bind_ok _ (expression_of_primary (primary_writing h) operand ends)]
  rfl

theorem simple_writing (h : Denotes token value) :
    simple (n + 8) ⟨writing name opening string closing token, last⟩ =
      .ok (.expr (name.through closing) (written name string closing value), ⟨[], closing⟩) := by
  have assigned : assignment (n + 8) ⟨writing name opening string closing token, last⟩ =
      .ok (.expr (name.through closing) (written name string closing value), ⟨[], closing⟩) := by
    unfold assignment
    rw [bind_ok _ (p := here) rfl, bind_ok _ (expressions_writing h)]
    rfl
  unfold simple
  rw [bind_ok _ (p := here) rfl]
  exact assigned

/-- The line holds one statement, the call that writes the text. -/
theorem clause_writing (h : Denotes token value) :
    clause (n + 8) ⟨writing name opening string closing token, last⟩ =
      .ok (.simple [.expr (name.through closing) (written name string closing value)],
        ⟨[], closing⟩) := by
  have headless : head? (n + 8) ⟨writing name opening string closing token, last⟩ =
    .ok (none, ⟨writing name opening string closing token, last⟩) := rfl
  unfold clause
  rw [bind_ok _ (p := here) rfl, bind_ok _ headless]
  simp only
  rw [bind_ok _ (p := simples (n + 8) (n + 8)) (t := ⟨[], closing⟩) ?_]
  · rfl
  unfold simples
  rw [bind_ok _ (simple_writing h)]
  rfl

/-- The line on its own. -/
theorem lineClause_writing (h : Denotes token value) :
    lineClause ⟨.name, "write", name, 0⟩ (writing name opening string closing token).tail =
      .ok (.simple [.expr (name.through closing) (written name string closing value)]) := by
  have whole : clause 24 ⟨writing name opening string closing token, name⟩ =
      .ok (.simple [.expr (name.through closing) (written name string closing value)],
        ⟨[], closing⟩) := clause_writing h
  unfold lineClause onAll
  simp only [writing, List.tail_cons, List.length_cons, List.length_nil] at whole ⊢
  rw [whole]
  rfl

end Parse

end Stencil.Script
