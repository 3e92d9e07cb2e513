import Stencil.Proofs.Script.Write

/-!
# Statements from lines, one after another

What the reader of lines makes of a line of simple statements, of a head with its block, and of the
clauses that follow it. The heads of a compound statement with the statements of their blocks are
its arms; they make up one statement by the same rules wherever their lines come from.

## Main definitions

* `Arm` — a head with its extent and the statements of its block.
* `Arm.compound?` — the statement that a first arm and those after it make up.
* `Parse.Block` — the items of a block, whatever comes after it.
* `Parse.Arms` — the items of arms.

## Main results

* `Parse.statements_simple`, `Parse.statements_compound` — the statements that a line begins.
* `Parse.compound_of_arms` — a head, its block and the arms after it.
-/

namespace Stencil.Script

/-- The head goes on a compound statement. -/
def Head.isClause : Head → Bool
  | .otherBranch _ | .orelse | .handler .. | .final => true
  | _ => false

/-- The line goes on a compound statement. -/
def Clause.isContinuation : Clause → Bool
  | .simple _ => false
  | .opened _ head _ => head.isClause

/-- A head of a compound statement or of one of its clauses, with its block. -/
structure Arm where
  start : Span
  head : Head
  body : List Stmt

namespace Arm

open Parse

/-- What a branch does otherwise. -/
def alternatives? : List Arm → Option (List Stmt)
  | [] => some []
  | ⟨start, head, body⟩ :: rest =>
    match head with
    | .otherBranch test => (alternatives? rest).map fun no =>
      [.branch (extent start [body, no]) test body no]
    | .orelse => if rest.isEmpty then some body else none
    | _ => none

/-- The block of an arm with this head if it comes first, and the arms after it. -/
def optional (isHead : Head → Bool) : List Arm → List Stmt × List Arm
  | [] => ([], [])
  | ⟨start, head, body⟩ :: rest =>
    if isHead head then (body, rest) else ([], ⟨start, head, body⟩ :: rest)

/-- The head of a block that is executed otherwise. -/
def isOrelse : Head → Bool
  | .orelse => true
  | _ => false

/-- The head of a block that is executed on the way out. -/
def isFinal : Head → Bool
  | .final => true
  | _ => false

/-- The handlers that come first, and the arms after them. -/
def handlers : List Arm → List Handler × List Arm
  | [] => ([], [])
  | ⟨start, head, body⟩ :: rest =>
    match head with
    | .handler type id =>
      let (others, after) := handlers rest
      (.mk (extent start [body]) type id body :: others, after)
    | _ => ([], ⟨start, head, body⟩ :: rest)

/-- The statement that an arm and those after it make up, if they belong together. -/
def compound? (first : Arm) (arms : List Arm) : Option Stmt :=
  let start := first.start
  let body := first.body
  match first.head with
  | .branch test => (alternatives? arms).map fun no =>
    .branch (extent start [body, no]) test body no
  | .loop test =>
    let (orelse, rest) := optional isOrelse arms
    if rest.isEmpty then some (.loop (extent start [body, orelse]) test body orelse) else none
  | .each target source =>
    let (orelse, rest) := optional isOrelse arms
    if rest.isEmpty then some (.each (extent start [body, orelse]) target source body orelse)
    else none
  | .define suspending id params returns =>
    if arms.isEmpty then some (.define (extent start [body]) suspending id params returns body)
    else none
  | .attempt =>
    let (caught, rest) := handlers arms
    let (orelse, rest) := if caught.isEmpty then ([], rest) else optional isOrelse rest
    let (final, rest) := optional isFinal rest
    if !rest.isEmpty ∨ (caught.isEmpty ∧ final.isEmpty) then none
    else
      let span := extent start [body, lastHandled caught, orelse, final]
      some (.attempt span body caught orelse final)
  | .otherBranch _ | .orelse | .handler .. | .final => none

theorem isClause_of_compound? {first : Arm} {arms : List Arm} {s : Stmt}
    (h : compound? first arms = some s) : first.head.isClause = false := by
  obtain ⟨start, head, body⟩ := first
  cases head with
  | otherBranch => simp [compound?] at h
  | orelse => simp [compound?] at h
  | handler => simp [compound?] at h
  | final => simp [compound?] at h
  | _ => rfl

end Arm

namespace Parse

open Script.Parser

variable {n : Nat} {first : Terminal} {others : List Terminal} {items items' tail : List Item}
  {stmts rest body : List Stmt} {start : Span} {head : Head} {arms : List Arm}

/-! ## Lines of a block -/

/-- Nothing is left to read in a block. -/
def BlockEnds : List Item → Prop
  | .line .. :: _ | .indent _ :: _ => False
  | _ => True

theorem statements_end (h : BlockEnds items) : statements (n + 1) items = .ok ([], items) := by
  unfold statements
  rw [bind_ok _ (p := get) rfl]
  cases items with
  | nil => rfl
  | cons item items =>
    cases item with
    | line => exact h.elim
    | indent => exact h.elim
    | dedent => rfl
    | stop => rfl

theorem statements_simple (hw : clauseWords.any first.isWord = false)
    (hl : lineClause first others = .ok (.simple stmts))
    (hrest : statements n items = .ok (rest, items')) :
    statements (n + 1) (.line first others :: items) = .ok (stmts ++ rest, items') := by
  unfold statements
  rw [bind_ok _ (p := get) rfl]
  simp only [hw, Bool.false_eq_true, ↓reduceIte, hl]
  rw [bind_ok _ (t := .line first others :: items) (a := .simple stmts) rfl,
    bind_ok _ (p := skip) (t := items) rfl]
  simp only
  rw [bind_ok _ (a := stmts) (t := items) rfl, bind_ok _ hrest]
  rfl

theorem statements_compound {s : Stmt} (hw : clauseWords.any first.isWord = false)
    (hl : lineClause first others = .ok (.opened start head []))
    (hs : compound n start head [] items = .ok (s, tail))
    (hrest : statements n tail = .ok (rest, items')) :
    statements (n + 1) (.line first others :: items) = .ok (s :: rest, items') := by
  have single : (List.singleton <$> compound n start head []) items = .ok ([s], tail) := by
    simp [Functor.map, StateT.map, hs, bind, Except.bind, pure, Except.pure, List.singleton]
  unfold statements
  rw [bind_ok _ (p := get) rfl]
  simp only [hw, Bool.false_eq_true, ↓reduceIte, hl]
  rw [bind_ok _ (t := .line first others :: items) (a := .opened start head []) rfl,
    bind_ok _ (p := skip) (t := items) rfl]
  simp only
  rw [bind_ok _ single, bind_ok _ hrest]
  rfl

/-! ## Heads and their words -/

/-- One reader after another, both of which succeed. -/
theorem exists_of_bind_ok {σ ε α β : Type} {p : StateT σ (Except ε) α}
    {f : α → StateT σ (Except ε) β} {b : β} {s t : σ} (h : (p >>= f) s = .ok (b, t)) :
    ∃ a u, p s = .ok (a, u) ∧ f a u = .ok (b, t) := by
  simp only [bind, StateT.bind, Except.bind] at h
  split at h
  · simp at h
  · rename_i found hp
    exact ⟨found.1, found.2, hp, h⟩

theorem word?_cons (w : Text) (t : Terminal) (ts : List Terminal) (last : Span) :
    word? w ⟨t :: ts, last⟩ =
      if t.isWord w then .ok (true, ⟨ts, t.span⟩) else .ok (false, ⟨t :: ts, last⟩) := by
  have at_ : atWord w ⟨t :: ts, last⟩ = .ok (t.isWord w, ⟨t :: ts, last⟩) := rfl
  unfold word?
  rw [bind_ok _ at_]
  cases t.isWord w <;> rfl

/-- Either a word comes next, which is taken, or it does not. -/
theorem word?_cases {α : Type} {w : Text} {p q : Parser α} {last : Span} {a : α} {c : Cursor}
    (h : (word? w >>= fun found => if found then p else q) ⟨first :: others, last⟩ = .ok (a, c)) :
    (first.isWord w = true ∧ p ⟨others, first.span⟩ = .ok (a, c)) ∨
      (first.isWord w = false ∧ q ⟨first :: others, last⟩ = .ok (a, c)) := by
  cases hw : first.isWord w with
  | true =>
    rw [bind_ok _ ((word?_cons _ _ _ _).trans (if_pos hw))] at h
    exact .inl ⟨rfl, h⟩
  | false =>
    rw [bind_ok _ ((word?_cons _ _ _ _).trans (if_neg (by simp [hw])))] at h
    exact .inr ⟨rfl, h⟩

theorem any_clauseWords {w : Text} (h : first.isWord w = true) :
    clauseWords.any first.isWord = clauseWords.contains w := by
  simp only [Terminal.isWord, Bool.and_eq_true, beq_iff_eq] at h
  have same : first.isWord = fun v => w == v := by
    funext v
    simp [Terminal.isWord, h.1, h.2]
  rw [same, List.contains_eq_any_beq]

theorem definition_isClause {n : Nat} {suspending : Bool} {c c' : Cursor} {head : Head}
    (h : head?.definition n suspending c = .ok (head, c')) : head.isClause = false := by
  unfold head?.definition at h
  obtain ⟨id, u, -, h⟩ := exists_of_bind_ok h
  obtain ⟨-, u, -, h⟩ := exists_of_bind_ok h
  obtain ⟨params, u, -, h⟩ := exists_of_bind_ok h
  obtain ⟨arrow, u, -, h⟩ := exists_of_bind_ok h
  cases arrow with
  | true =>
    obtain ⟨returns, u, -, h⟩ := exists_of_bind_ok h
    obtain ⟨rfl, -⟩ := Prod.mk.inj (Except.ok.inj h)
    rfl
  | false =>
    obtain ⟨returns, u, -, h⟩ := exists_of_bind_ok h
    obtain ⟨rfl, -⟩ := Prod.mk.inj (Except.ok.inj h)
    rfl

theorem exists_of_map_ok {σ ε α β : Type} {p : StateT σ (Except ε) α} {f : α → β} {b : β}
    {s t : σ} (h : (f <$> p) s = .ok (b, t)) : ∃ a, p s = .ok (a, t) ∧ f a = b := by
  rw [← bind_pure_comp] at h
  obtain ⟨a, u, hp, h⟩ := exists_of_bind_ok h
  obtain ⟨rfl, rfl⟩ := Prod.mk.inj (Except.ok.inj h)
  exact ⟨a, hp, rfl⟩

/-- The head of a line tells whether its first word goes on a compound statement. -/
theorem head?_word {n : Nat} {found : Option Head} {c : Cursor} {last : Span}
    (h : head? n ⟨first :: others, last⟩ = .ok (found, c)) :
    clauseWords.any first.isWord = found.any Head.isClause := by
  unfold head? at h
  rcases word?_cases h with ⟨hw, h⟩ | ⟨-, h⟩
  · obtain ⟨e, u, -, h⟩ := exists_of_bind_ok h
    obtain ⟨rfl, -⟩ := Prod.mk.inj (Except.ok.inj h)
    exact any_clauseWords hw
  rcases word?_cases h with ⟨hw, h⟩ | ⟨helif, h⟩
  · obtain ⟨e, u, -, h⟩ := exists_of_bind_ok h
    obtain ⟨rfl, -⟩ := Prod.mk.inj (Except.ok.inj h)
    exact any_clauseWords hw
  rcases word?_cases h with ⟨hw, h⟩ | ⟨helse, h⟩
  · obtain ⟨rfl, -⟩ := Prod.mk.inj (Except.ok.inj h)
    exact any_clauseWords hw
  rcases word?_cases h with ⟨hw, h⟩ | ⟨-, h⟩
  · obtain ⟨e, u, -, h⟩ := exists_of_bind_ok h
    obtain ⟨rfl, -⟩ := Prod.mk.inj (Except.ok.inj h)
    exact any_clauseWords hw
  rcases word?_cases h with ⟨hw, h⟩ | ⟨-, h⟩
  · obtain ⟨target, u, -, h⟩ := exists_of_bind_ok h
    obtain ⟨-, u, -, h⟩ := exists_of_bind_ok h
    obtain ⟨source, u, -, h⟩ := exists_of_bind_ok h
    obtain ⟨rfl, -⟩ := Prod.mk.inj (Except.ok.inj h)
    exact any_clauseWords hw
  rcases word?_cases h with ⟨hw, h⟩ | ⟨-, h⟩
  · obtain ⟨rfl, -⟩ := Prod.mk.inj (Except.ok.inj h)
    exact any_clauseWords hw
  rcases word?_cases h with ⟨hw, h⟩ | ⟨hexcept, h⟩
  · refine (any_clauseWords hw).trans ?_
    obtain ⟨colon, u, -, h⟩ := exists_of_bind_ok h
    cases colon with
    | true =>
      obtain ⟨rfl, -⟩ := Prod.mk.inj (Except.ok.inj h)
      rfl
    | false =>
      obtain ⟨type, u, -, h⟩ := exists_of_bind_ok h
      obtain ⟨as_, u, -, h⟩ := exists_of_bind_ok h
      cases as_ with
      | true =>
        obtain ⟨id, u, -, h⟩ := exists_of_bind_ok h
        obtain ⟨rfl, -⟩ := Prod.mk.inj (Except.ok.inj h)
        rfl
      | false =>
        obtain ⟨id, u, -, h⟩ := exists_of_bind_ok h
        obtain ⟨rfl, -⟩ := Prod.mk.inj (Except.ok.inj h)
        rfl
  rcases word?_cases h with ⟨hw, h⟩ | ⟨hfinally, h⟩
  · obtain ⟨rfl, -⟩ := Prod.mk.inj (Except.ok.inj h)
    exact any_clauseWords hw
  rcases word?_cases h with ⟨hw, h⟩ | ⟨-, h⟩
  · obtain ⟨-, u, -, h⟩ := exists_of_bind_ok h
    obtain ⟨head, hd, rfl⟩ := exists_of_map_ok h
    exact (any_clauseWords hw).trans (definition_isClause hd).symm
  rcases word?_cases h with ⟨hw, h⟩ | ⟨-, h⟩
  · obtain ⟨head, hd, rfl⟩ := exists_of_map_ok h
    exact (any_clauseWords hw).trans (definition_isClause hd).symm
  obtain ⟨rfl, -⟩ := Prod.mk.inj (Except.ok.inj h)
  have none_ : ∀ w ∈ clauseWords, first.isWord w = false := by
    simp [clauseWords, helif, helse, hexcept, hfinally]
  simpa using none_

/-- A line tells by its first word whether it goes on a compound statement. -/
theorem lineClause_word {line : Clause} (h : lineClause first others = .ok line) :
    clauseWords.any first.isWord = line.isContinuation := by
  unfold lineClause onAll at h
  cases hc : clause (4 * others.length + 12) ⟨first :: others, first.span⟩ with
  | error e => simp [hc, bind, Except.bind] at h
  | ok found =>
    obtain ⟨value, c⟩ := found
    have same : value = line := by
      simp only [hc, bind, Except.bind] at h
      split at h
      · exact Except.ok.inj h
      · simp at h
    subst same
    unfold clause at hc
    obtain ⟨start, u, hu, hc⟩ := exists_of_bind_ok hc
    obtain ⟨-, rfl⟩ := Prod.mk.inj (Except.ok.inj hu)
    obtain ⟨found, u, hhead, hc⟩ := exists_of_bind_ok hc
    rw [head?_word hhead]
    cases found with
    | some head =>
      obtain ⟨-, u, -, hc⟩ := exists_of_bind_ok hc
      obtain ⟨ended, u, -, hc⟩ := exists_of_bind_ok hc
      cases ended with
      | true =>
        obtain ⟨rfl, -⟩ := Prod.mk.inj (Except.ok.inj hc)
        rfl
      | false =>
        obtain ⟨stmts, u, -, hc⟩ := exists_of_bind_ok hc
        obtain ⟨rfl, -⟩ := Prod.mk.inj (Except.ok.inj hc)
        rfl
    | none =>
      obtain ⟨stmts, u, -, hc⟩ := exists_of_bind_ok hc
      obtain ⟨rfl, -⟩ := Prod.mk.inj (Except.ok.inj hc)
      rfl

/-! ## Blocks and arms -/

/-- The items of a block hold these statements, whatever comes after the block. -/
def Block (items : List Item) (stmts : List Stmt) : Prop :=
  ∀ fuel tail, BlockEnds tail → 4 * items.length + 4 ≤ fuel →
    statements fuel (items ++ tail) = .ok (stmts, tail)

/-- The items of arms: the line of a clause and its block for each. -/
inductive Arms : List Item → List Arm → Prop where
  | nil : Arms [] []
  | cons {first : Terminal} {others : List Terminal} {start s t : Span} {head : Head}
      {block : List Item} {body : List Stmt} {items : List Item} {arms : List Arm}
      (word : clauseWords.any first.isWord = true)
      (line : lineClause first others = .ok (.opened start head []))
      (inside : Block block body) (after : Arms items arms) :
      Arms (.line first others :: .indent s :: (block ++ .dedent t :: items))
        (⟨start, head, body⟩ :: arms)

theorem suite_block {s s' : Span} (h : Block items body) (hn : 4 * items.length + 5 ≤ n) :
    suite n [] (.indent s :: (items ++ .dedent s' :: tail)) = .ok (body, tail) := by
  obtain ⟨n, rfl⟩ : ∃ m, n = m + 1 := ⟨n - 1, by omega⟩
  have inside := h n (.dedent s' :: tail) trivial (by omega)
  unfold suite
  simp only [List.isEmpty_nil, ↓reduceIte]
  rw [bind_ok _ (p := get) rfl]
  simp only
  rw [bind_ok _ (p := skip) (t := items ++ .dedent s' :: tail) rfl, bind_ok _ inside,
    bind_ok _ (p := get) rfl]
  rfl

/-- No clause comes next. -/
def NoClause : List Item → Prop
  | .line first _ :: _ => clauseWords.any first.isWord = false
  | _ => True

theorem nextHead_none (h : NoClause tail) : nextHead tail = .ok (none, tail) := by
  unfold nextHead
  rw [bind_ok _ (p := get) rfl]
  cases tail with
  | nil => rfl
  | cons item tail =>
    cases item with
    | line first others =>
      simp only [NoClause] at h
      simp only [h, Bool.false_eq_true, ↓reduceIte]
      rfl
    | indent => rfl
    | dedent => rfl
    | stop => rfl

theorem nextHead_some (hw : clauseWords.any first.isWord = true)
    (hl : lineClause first others = .ok (.opened start head [])) :
    nextHead (.line first others :: tail) =
      .ok (some (start, head, []), .line first others :: tail) := by
  unfold nextHead
  rw [bind_ok _ (p := get) rfl]
  simp only [hw, ↓reduceIte, hl]
  rfl

theorem nextHead_of_arms (h : Arms items arms) (htail : NoClause tail) :
    nextHead (items ++ tail) =
      .ok (arms.head?.map fun a => (a.start, a.head, []), items ++ tail) := by
  cases h with
  | nil => exact nextHead_none htail
  | cons word line => exact nextHead_some word line

theorem Arms.items_eq_nil (h : Arms items arms) (he : arms.isEmpty = true) : items = [] := by
  cases h with
  | nil => rfl
  | cons => simp at he

/-- An arm that comes next is taken with its block. -/
theorem skip_suite {s s' : Span} (h : Block items body) (hn : 4 * items.length + 5 ≤ n) :
    (skip >>= fun _ => suite n []) (.line first others :: .indent s :: (items ++ .dedent s' :: tail)) =
      .ok (body, tail) :=
  suite_block h hn

theorem otherwise_of_arms (h : Arms items arms) (htail : NoClause tail)
    (hn : 4 * items.length + 1 ≤ n) :
    ∃ items', Arms items' (Arm.optional Arm.isOrelse arms).2 ∧ items'.length ≤ items.length ∧
      otherwise n (items ++ tail) =
        .ok ((Arm.optional Arm.isOrelse arms).1, items' ++ tail) := by
  obtain ⟨n, rfl⟩ : ∃ m, n = m + 1 := ⟨n - 1, by omega⟩
  have next := nextHead_of_arms h htail
  unfold otherwise
  rw [bind_ok _ next]
  cases h with
  | nil => exact ⟨[], .nil, Nat.le_refl _, rfl⟩
  | @cons first others start s s' head block body items arms word line inside after =>
    simp only [List.length_cons, List.length_append] at hn ⊢
    cases head with
    | orelse =>
      refine ⟨items, after, by omega, ?_⟩
      simp only [List.cons_append, List.append_assoc, List.head?_cons, Option.map_some]
      exact skip_suite inside (by omega)
    | _ => exact ⟨_, .cons word line inside after, by simp, rfl⟩

theorem finally_of_arms (h : Arms items arms) (htail : NoClause tail)
    (hn : 4 * items.length + 1 ≤ n) :
    ∃ items', Arms items' (Arm.optional Arm.isFinal arms).2 ∧ items'.length ≤ items.length ∧
      finally_ n (items ++ tail) =
        .ok ((Arm.optional Arm.isFinal arms).1, items' ++ tail) := by
  obtain ⟨n, rfl⟩ : ∃ m, n = m + 1 := ⟨n - 1, by omega⟩
  have next := nextHead_of_arms h htail
  unfold finally_
  rw [bind_ok _ next]
  cases h with
  | nil => exact ⟨[], .nil, Nat.le_refl _, rfl⟩
  | @cons first others start s s' head block body items arms word line inside after =>
    simp only [List.length_cons, List.length_append] at hn ⊢
    cases head with
    | final =>
      refine ⟨items, after, by omega, ?_⟩
      simp only [List.cons_append, List.append_assoc, List.head?_cons, Option.map_some]
      exact skip_suite inside (by omega)
    | _ => exact ⟨_, .cons word line inside after, by simp, rfl⟩

theorem handlers_of_arms (h : Arms items arms) (htail : NoClause tail)
    (hn : 4 * items.length + 1 ≤ n) :
    ∃ items', Arms items' (Arm.handlers arms).2 ∧ items'.length ≤ items.length ∧
      handlers n (items ++ tail) = .ok ((Arm.handlers arms).1, items' ++ tail) := by
  induction h generalizing n with
  | nil =>
    obtain ⟨n, rfl⟩ : ∃ m, n = m + 1 := ⟨n - 1, by omega⟩
    refine ⟨[], .nil, Nat.le_refl _, ?_⟩
    unfold handlers
    rw [bind_ok _ (nextHead_of_arms .nil htail)]
    rfl
  | @cons first others start s s' head block body items arms word line inside after ih =>
    obtain ⟨n, rfl⟩ : ∃ m, n = m + 1 := ⟨n - 1, by omega⟩
    have next := nextHead_of_arms (.cons (s := s) (t := s') word line inside after) htail
    unfold handlers
    rw [bind_ok _ next]
    simp only [List.length_cons, List.length_append] at hn ⊢
    cases head with
    | handler type id =>
      obtain ⟨items', harms, hle, hread⟩ := ih (n := n) (by omega)
      refine ⟨items', harms, by omega, ?_⟩
      simp only [List.cons_append, List.append_assoc, List.head?_cons, Option.map_some]
      rw [bind_ok _ (p := skip) rfl]
      simp only [List.tail_cons]
      have hbody : suite n [] (.indent s :: (block ++ .dedent s' :: (items ++ tail))) =
        .ok (body, items ++ tail) := suite_block inside (by omega)
      rw [bind_ok _ hbody, bind_ok _ hread]
      rfl
    | _ => exact ⟨_, .cons word line inside after, by simp, rfl⟩

/-- What a branch does otherwise, by the arms after it. -/
theorem alternatives_of_arms {no : List Stmt} (h : Arms items arms) (htail : NoClause tail)
    (hno : Arm.alternatives? arms = some no) (hn : 4 * items.length + 1 ≤ n) :
    alternatives n (items ++ tail) = .ok (no, tail) := by
  induction h generalizing n no with
  | nil =>
    obtain ⟨n, rfl⟩ : ∃ m, n = m + 1 := ⟨n - 1, by omega⟩
    obtain rfl : [] = no := Option.some.inj hno
    unfold alternatives
    rw [bind_ok _ (nextHead_of_arms .nil htail)]
    rfl
  | @cons first others start s s' head block body items arms word line inside after ih =>
    simp only [List.length_cons, List.length_append] at hn
    obtain ⟨n, rfl⟩ : ∃ m, n = m + 2 := ⟨n - 2, by omega⟩
    have next := nextHead_of_arms (.cons (s := s) (t := s') word line inside after) htail
    simp only [List.cons_append, List.append_assoc, List.head?_cons, Option.map_some] at next ⊢
    unfold alternatives
    rw [bind_ok _ next]
    cases head with
    | otherBranch test =>
      obtain ⟨other, hother, rfl⟩ := Option.map_eq_some_iff.1 hno
      have hbody : suite n [] (.indent s :: (block ++ .dedent s' :: (items ++ tail))) =
        .ok (body, items ++ tail) := suite_block inside (by omega)
      have hread : alternatives n (items ++ tail) = .ok (other, tail) := ih hother (by omega)
      have whole : compound (n + 1) start (.otherBranch test) []
          (.indent s :: (block ++ .dedent s' :: (items ++ tail))) =
          .ok (.branch (extent start [body, other]) test body other, tail) := by
        unfold compound
        rw [bind_ok _ hbody]
        simp only
        rw [bind_ok _ hread]
        rfl
      have single : (List.singleton <$> compound (n + 1) start (.otherBranch test) [])
          (.indent s :: (block ++ .dedent s' :: (items ++ tail))) =
          .ok ([.branch (extent start [body, other]) test body other], tail) := by
        simp [Functor.map, StateT.map, whole, bind, Except.bind, pure, Except.pure, List.singleton]
      exact single
    | orelse =>
      cases after with
      | nil =>
        obtain rfl : body = no := Option.some.inj hno
        exact skip_suite inside (by omega)
      | cons => simp [Arm.alternatives?] at hno
    | _ => simp [Arm.alternatives?] at hno

/-- A head, its block and the arms after it are the statement that they make up. -/
theorem compound_of_arms {block : List Item} {s s' : Span} {whole : Stmt}
    (inside : Block block body) (h : Arms items arms) (htail : NoClause tail)
    (hwhole : Arm.compound? ⟨start, head, body⟩ arms = some whole)
    (hn : 4 * (block.length + items.length) + 8 ≤ n) :
    compound n start head [] (.indent s :: (block ++ .dedent s' :: (items ++ tail))) =
      .ok (whole, tail) := by
  obtain ⟨n, rfl⟩ : ∃ m, n = m + 1 := ⟨n - 1, by omega⟩
  have hbody : suite n [] (.indent s :: (block ++ .dedent s' :: (items ++ tail))) =
    .ok (body, items ++ tail) := suite_block inside (by omega)
  unfold compound
  rw [bind_ok _ hbody]
  cases head with
  | branch test =>
    obtain ⟨no, hno, rfl⟩ := Option.map_eq_some_iff.1 hwhole
    simp only
    rw [bind_ok _ (alternatives_of_arms h htail hno (by omega))]
    rfl
  | loop test =>
    obtain ⟨items', harms, -, hread⟩ := otherwise_of_arms (n := n) h htail (by omega)
    simp only [Arm.compound?] at hwhole
    split at hwhole
    · rename_i hrest
      obtain rfl := Option.some.inj hwhole
      obtain rfl := harms.items_eq_nil hrest
      simp only
      rw [bind_ok _ hread]
      rfl
    · simp at hwhole
  | each target source =>
    obtain ⟨items', harms, -, hread⟩ := otherwise_of_arms (n := n) h htail (by omega)
    simp only [Arm.compound?] at hwhole
    split at hwhole
    · rename_i hrest
      obtain rfl := Option.some.inj hwhole
      obtain rfl := harms.items_eq_nil hrest
      simp only
      rw [bind_ok _ hread]
      rfl
    · simp at hwhole
  | define suspending id params returns =>
    simp only [Arm.compound?] at hwhole
    split at hwhole
    · rename_i hrest
      obtain rfl := Option.some.inj hwhole
      cases h with
      | nil => rfl
      | cons => simp at hrest
    · simp at hwhole
  | attempt =>
    obtain ⟨items₁, harms₁, hle₁, caught⟩ := handlers_of_arms (n := n) h htail (by omega)
    simp only [Arm.compound?] at hwhole
    simp only
    rw [bind_ok _ caught]
    by_cases hc : (Arm.handlers arms).1.isEmpty = true
    · simp only [hc, ↓reduceIte, true_and] at hwhole ⊢
      obtain ⟨items₂, harms₂, hle₂, final⟩ := finally_of_arms (n := n) harms₁ htail (by omega)
      rw [bind_ok _ (a := []) (t := items₁ ++ tail) rfl, bind_ok _ final]
      split at hwhole
      · simp at hwhole
      · rename_i hrest
        simp only [Bool.not_eq_true', not_or, Bool.not_eq_false] at hrest
        obtain rfl := Option.some.inj hwhole
        obtain rfl := harms₂.items_eq_nil hrest.1
        simp only [hrest.2, Bool.false_eq_true, ↓reduceIte]
        rfl
    · simp only [hc, Bool.false_eq_true, ↓reduceIte, false_and, or_false] at hwhole ⊢
      obtain ⟨items₂, harms₂, hle₂, orelse⟩ := otherwise_of_arms (n := n) harms₁ htail (by omega)
      obtain ⟨items₃, harms₃, hle₃, final⟩ := finally_of_arms (n := n) harms₂ htail (by omega)
      rw [bind_ok _ orelse, bind_ok _ final]
      split at hwhole
      · simp at hwhole
      · rename_i hrest
        simp only [Bool.not_eq_true', Bool.not_eq_false] at hrest
        obtain rfl := Option.some.inj hwhole
        obtain rfl := harms₃.items_eq_nil hrest
        rfl
  | otherBranch => simp [Arm.compound?] at hwhole
  | orelse => simp [Arm.compound?] at hwhole
  | handler => simp [Arm.compound?] at hwhole
  | final => simp [Arm.compound?] at hwhole

end Parse

end Stencil.Script
