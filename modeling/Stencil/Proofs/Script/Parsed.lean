import Stencil.Proofs.Script.Ends
import Stencil.Proofs.Script.Suite

/-!
# What a reader of items has read

Items that a reader has taken are lines and blocks in the order of the statements that it has made
of them: a line of simple statements, or the line of a head with its block and those of the clauses
after it.

## Main definitions

* `Parse.Found` — the statements, the block or the clauses that a reader has found.
* `Parse.Holds` — the items that make up what has been found.

## Main results

* `Parse.holds_of_statements` — the items that statements are read from.
* `Parse.holds_of_parseItems` — the items of a whole script.
-/

namespace Stencil.Script.Parse

open Script.Parser

variable {n : Nat} {first : Terminal} {others : List Terminal} {items tail : List Item}
  {stmts inline body : List Stmt} {start : Span} {head : Head} {arms arms' : List Arm} {s : Stmt}

/-- What a reader of items finds. -/
inductive Found where
  | statements (stmts : List Stmt)
  /-- The block of a head with the statements after its colon. -/
  | block (inline body : List Stmt)
  | arms (arms : List Arm)

/-- The items make up what has been found. -/
inductive Holds : List Item → Found → Prop where
  | nil : Holds [] (.statements [])
  | simple {first : Terminal} {others : List Terminal} {stmts rest : List Stmt} {items : List Item}
      (line : lineClause first others = .ok (.simple stmts))
      (after : Holds items (.statements rest)) :
      Holds (.line first others :: items) (.statements (stmts ++ rest))
  | compound {first : Terminal} {others : List Terminal} {start : Span} {head : Head}
      {inline body : List Stmt} {arms : List Arm} {s : Stmt} {rest : List Stmt}
      {block clauses items : List Item}
      (line : lineClause first others = .ok (.opened start head inline))
      (inside : Holds block (.block inline body)) (further : Holds clauses (.arms arms))
      (whole : Arm.compound? ⟨start, head, body⟩ arms = some s)
      (after : Holds items (.statements rest)) :
      Holds (.line first others :: (block ++ (clauses ++ items))) (.statements (s :: rest))
  | inline {stmts : List Stmt} (ne : stmts ≠ []) : Holds [] (.block stmts stmts)
  | indented {s t : Span} {items : List Item} {body : List Stmt}
      (inside : Holds items (.statements body)) :
      Holds (.indent s :: (items ++ [.dedent t])) (.block [] body)
  | noArms : Holds [] (.arms [])
  | arm {first : Terminal} {others : List Terminal} {start : Span} {head : Head}
      {inline body : List Stmt} {arms : List Arm} {block clauses : List Item}
      (line : lineClause first others = .ok (.opened start head inline))
      (inside : Holds block (.block inline body)) (further : Holds clauses (.arms arms)) :
      Holds (.line first others :: (block ++ clauses)) (.arms (⟨start, head, body⟩ :: arms))

/-- Clauses after others. -/
theorem Holds.append {xs ys : List Item} (h : Holds xs (.arms arms)) (k : Holds ys (.arms arms')) :
    Holds (xs ++ ys) (.arms (arms ++ arms')) := by
  generalize hf : Found.arms arms = f at h
  induction h generalizing arms with
  | noArms =>
    cases hf
    exact k
  | arm line inside _ _ ih =>
    cases hf
    have after := Holds.arm line inside (ih rfl)
    rwa [← List.append_assoc] at after
  | _ => cases hf

/-! ## Readers -/

theorem of_get {α : Type} {f : List Item → Reader α} {a : α}
    (h : (get >>= f) items = .ok (a, tail)) : f items items = .ok (a, tail) := h

theorem of_skip {α : Type} {p : Reader α} {a : α}
    (h : (skip >>= fun _ => p) items = .ok (a, tail)) : p items.tail = .ok (a, tail) := h

theorem of_pure {α : Type} {a b : α} (h : (pure a : Reader α) items = .ok (b, tail)) :
    b = a ∧ tail = items := by
  obtain ⟨rfl, rfl⟩ := Prod.mk.inj (Except.ok.inj h)
  exact ⟨rfl, rfl⟩

theorem of_lift {α β : Type} {p : Except SyntaxFault β} {f : β → Reader α} {a : α}
    (h : (liftM p >>= f) items = .ok (a, tail)) : ∃ b, p = .ok b ∧ f b items = .ok (a, tail) := by
  cases p with
  | error e => cases h
  | ok b => exact ⟨b, rfl, h⟩

theorem not_unexpected {α : Type} {a : α} (h : (unexpected : Reader α) items = .ok (a, tail)) :
    False := by
  unfold unexpected at h
  obtain ⟨found, u, -, h⟩ := exists_of_bind_ok h
  cases found <;> cases h

/-- The clause that comes next is not taken. -/
theorem of_nextHead {α : Type} {f : Option (Span × Head × List Stmt) → Reader α} {a : α}
    (h : (nextHead >>= f) items = .ok (a, tail)) :
    ∃ found, f found items = .ok (a, tail) ∧ ∀ start head inline,
      found = some (start, head, inline) → ∃ first others rest, items = .line first others :: rest ∧
        lineClause first others = .ok (.opened start head inline) := by
  obtain ⟨found, rest, hfound, hf⟩ := exists_of_bind_ok h
  unfold nextHead at hfound
  replace hfound := of_get hfound
  split at hfound
  · rename_i first others rest
    split at hfound
    · obtain ⟨line, hl, hfound⟩ := of_lift hfound
      cases line with
      | simple stmts =>
        obtain ⟨rfl, rfl⟩ := of_pure hfound
        exact ⟨none, hf, nofun⟩
      | opened start head inline =>
        obtain ⟨rfl, rfl⟩ := of_pure hfound
        refine ⟨_, hf, fun start' head' inline' he => ?_⟩
        cases he
        exact ⟨first, others, rest, rfl, hl⟩
    · obtain ⟨rfl, rfl⟩ := of_pure hfound
      exact ⟨none, hf, nofun⟩
  · obtain ⟨rfl, rfl⟩ := of_pure hfound
    exact ⟨none, hf, nofun⟩

/-! ## Functions of the reader -/

/-- The arms are one of these heads with its block, or there are none. -/
def Optional (isHead : Head → Bool) (body : List Stmt) (arms : List Arm) : Prop :=
  arms = [] ∧ body = [] ∨ ∃ start head, arms = [⟨start, head, body⟩] ∧ isHead head = true

/-- The arms are those of handlers. -/
def Handles : List Handler → List Arm → Prop
  | [], arms => arms = []
  | h :: hs, arms => ∃ start type id body rest, arms = ⟨start, .handler type id, body⟩ :: rest ∧
      h = .mk (extent start [body]) type id body ∧ Handles hs rest

theorem Optional.isHead_head {isHead : Head → Bool} (h : Optional isHead body arms) :
    ∀ a ∈ arms.head?, isHead a.head = true := by
  rcases h with ⟨rfl, -⟩ | ⟨start, head, rfl, hh⟩
  · nofun
  · intro a ha
    obtain rfl := Option.some.inj ha
    exact hh

theorem Optional.optional {isHead : Head → Bool} (h : Optional isHead body arms) :
    Arm.optional isHead arms = (body, []) := by
  rcases h with ⟨rfl, rfl⟩ | ⟨start, head, rfl, hh⟩
  · rfl
  · simp [Arm.optional, hh]

theorem Optional.append {isHead : Head → Bool} {rest : List Arm} (h : Optional isHead body arms)
    (hr : ∀ a ∈ rest.head?, isHead a.head = false) :
    Arm.optional isHead (arms ++ rest) = (body, rest) := by
  rcases h with ⟨rfl, rfl⟩ | ⟨start, head, rfl, hh⟩
  · cases rest with
    | nil => rfl
    | cons a rest => simp [Arm.optional, hr a rfl]
  · simp [Arm.optional, hh]

theorem Handles.append {hs : List Handler} {rest : List Arm} (h : Handles hs arms)
    (hr : ∀ a ∈ rest.head?, ∀ type id, a.head ≠ .handler type id) :
    Arm.handlers (arms ++ rest) = (hs, rest) := by
  induction hs generalizing arms with
  | nil =>
    obtain rfl : arms = [] := h
    cases rest with
    | nil => rfl
    | cons a rest =>
      have apart := hr a rfl
      obtain ⟨start, head, body⟩ := a
      rw [List.nil_append, Arm.handlers]
      exact apart
  | cons handler hs ih =>
    obtain ⟨start, type, id, body, more, rfl, rfl, h⟩ := h
    rw [List.cons_append, Arm.handlers]
    simp only [ih h]

/-- What a head and its arms make up, which may also be a further branch. -/
inductive Makes : Arm → List Arm → Stmt → Prop where
  | whole {first : Arm} {arms : List Arm} {s : Stmt} (h : Arm.compound? first arms = some s) :
      Makes first arms s
  | branch {start : Span} {test : Expr} {body no : List Stmt} {arms : List Arm}
      (h : Arm.alternatives? arms = some no) :
      Makes ⟨start, .otherBranch test, body⟩ arms (.branch (extent start [body, no]) test body no)

/-- What each function of the reader takes with so much fuel. -/
structure Found.At (n : Nat) : Prop where
  statements : ∀ items stmts tail, Parse.statements n items = .ok (stmts, tail) →
    ∃ taken, items = taken ++ tail ∧ Holds taken (.statements stmts)
  suite : ∀ inline items body tail, Parse.suite n inline items = .ok (body, tail) →
    ∃ taken, items = taken ++ tail ∧ Holds taken (.block inline body)
  compound : ∀ start head inline items s tail,
    Parse.compound n start head inline items = .ok (s, tail) →
    ∃ block body clauses arms, items = block ++ (clauses ++ tail) ∧
      Holds block (.block inline body) ∧ Holds clauses (.arms arms) ∧ Makes ⟨start, head, body⟩ arms s
  alternatives : ∀ items no tail, Parse.alternatives n items = .ok (no, tail) →
    ∃ taken arms, items = taken ++ tail ∧ Holds taken (.arms arms) ∧
      Arm.alternatives? arms = some no
  otherwise : ∀ items body tail, Parse.otherwise n items = .ok (body, tail) →
    ∃ taken arms, items = taken ++ tail ∧ Holds taken (.arms arms) ∧ Optional Arm.isOrelse body arms
  finally_ : ∀ items body tail, Parse.finally_ n items = .ok (body, tail) →
    ∃ taken arms, items = taken ++ tail ∧ Holds taken (.arms arms) ∧ Optional Arm.isFinal body arms
  handlers : ∀ items hs tail, Parse.handlers n items = .ok (hs, tail) →
    ∃ taken arms, items = taken ++ tail ∧ Holds taken (.arms arms) ∧ Handles hs arms

theorem at_zero : Found.At 0 := by
  constructor <;> intros <;> rename_i h <;> exact (not_unexpected h).elim

/-- A clause that comes next is taken with its block. -/
theorem arm_of_suite (ih : Found.At n) {rest : List Item}
    (line : lineClause first others = .ok (.opened start head inline))
    (h : (skip >>= fun _ => Parse.suite n inline) (.line first others :: rest) = .ok (body, tail)) :
    ∃ taken, .line first others :: rest = taken ++ tail ∧ Holds taken (.arms [⟨start, head, body⟩]) := by
  replace h := of_skip h
  obtain ⟨block, he, inside⟩ := ih.suite _ _ _ _ h
  have holds := Holds.arm line inside .noArms
  rw [List.append_nil] at holds
  exact ⟨_, congrArg _ he, holds⟩

/-- The block after `else`, which is looked for where there are handlers only. -/
theorem exists_of_orelse {α : Type} {f : List Stmt → Reader α} {a : α} (ih : Found.At n)
    (caught : List Handler)
    (h : (if caught.isEmpty then pure [] >>= f else Parse.otherwise n >>= f) items =
      .ok (a, tail)) :
    ∃ orelse rest, (∃ taken arms, items = taken ++ rest ∧ Holds taken (.arms arms) ∧
        Optional Arm.isOrelse orelse arms ∧ (caught.isEmpty = true → arms = [])) ∧
      f orelse rest = .ok (a, tail) := by
  split at h
  · exact ⟨[], items, ⟨[], [], rfl, .noArms, .inl ⟨rfl, rfl⟩, fun _ => rfl⟩, h⟩
  · rename_i hne
    obtain ⟨orelse, rest, hor, hf⟩ := exists_of_bind_ok h
    obtain ⟨taken, arms, he, holds, ho⟩ := ih.otherwise _ _ _ hor
    exact ⟨orelse, rest, ⟨taken, arms, he, holds, ho, fun hn => absurd hn hne⟩, hf⟩

/-- Handlers, what is done where nothing is raised, and a last block make up an attempt. -/
theorem compound?_attempt {caught : List Handler} {orelse final : List Stmt}
    {arms₁ arms₂ arms₃ : List Arm} (handles : Handles caught arms₁)
    (ho : Optional Arm.isOrelse orelse arms₂) (hf : Optional Arm.isFinal final arms₃)
    (hnone : caught.isEmpty = true → arms₂ = [])
    (hne : ¬ (caught.isEmpty = true ∧ final.isEmpty = true)) :
    Arm.compound? ⟨start, .attempt, body⟩ (arms₁ ++ (arms₂ ++ arms₃)) =
      some (.attempt (extent start [body, lastHandled caught, orelse, final]) body caught orelse
        final) := by
  have finals : ∀ a ∈ arms₃.head?, Arm.isOrelse a.head = false := fun a ha => by
    have final := hf.isHead_head a ha
    cases he : a.head <;> simp_all [Arm.isFinal, Arm.isOrelse]
  have others : ∀ a ∈ (arms₂ ++ arms₃).head?, ∀ type id, a.head ≠ .handler type id := by
    intro a ha type id he
    rcases ho with ⟨rfl, -⟩ | ⟨_, _, rfl, hh⟩
    · have final := hf.isHead_head a ha
      simp [he, Arm.isFinal] at final
    · obtain rfl := Option.some.inj ha
      simp only at he
      simp [he, Arm.isOrelse] at hh
  have orelses : (if caught.isEmpty then ([], arms₂ ++ arms₃)
      else Arm.optional Arm.isOrelse (arms₂ ++ arms₃)) = (orelse, arms₃) := by
    split
    · rename_i hc
      obtain rfl := hnone hc
      rcases ho with ⟨-, rfl⟩ | ⟨_, _, he, -⟩
      · rfl
      · cases he
    · exact ho.append finals
  simp only [Arm.compound?, handles.append others, orelses, hf.optional, List.isEmpty_nil,
    Bool.not_true, Bool.false_eq_true, false_or, if_neg hne]

/-- Statements are a line of simple ones or a compound one, and more statements. -/
theorem statements_succ (ih : Found.At n)
    (h : Parse.statements (n + 1) items = .ok (stmts, tail)) :
    ∃ taken, items = taken ++ tail ∧ Holds taken (.statements stmts) := by
  unfold Parse.statements at h
  replace h := of_get h
  split at h
  · rename_i first others rest
    split at h
    · exact (not_unexpected h).elim
    · rename_i hw
      obtain ⟨line, hl, h⟩ := of_lift h
      replace h := of_skip h
      cases line with
      | simple found =>
        obtain ⟨found, u, hfound, hmore⟩ := exists_of_bind_ok h
        obtain ⟨rfl, rfl⟩ := of_pure hfound
        obtain ⟨more, v, hmore, hdone⟩ := exists_of_bind_ok hmore
        obtain ⟨rfl, rfl⟩ := of_pure hdone
        obtain ⟨taken, he, after⟩ := ih.statements _ _ _ hmore
        exact ⟨_, congrArg _ he, .simple hl after⟩
      | opened start head inline =>
        obtain ⟨found, u, hfound, hmore⟩ := exists_of_bind_ok h
        obtain ⟨s, hs, rfl⟩ := exists_of_map_ok hfound
        obtain ⟨more, v, hmore, hdone⟩ := exists_of_bind_ok hmore
        obtain ⟨rfl, rfl⟩ := of_pure hdone
        obtain ⟨block, body, clauses, arms, he, inside, further, makes⟩ := ih.compound _ _ _ _ _ _ hs
        obtain ⟨taken, he', after⟩ := ih.statements _ _ _ hmore
        have apart : head.isClause = false := by
          have word := lineClause_word hl
          rw [Bool.not_eq_true] at hw
          exact word.symm.trans hw
        cases makes with
        | whole whole =>
          refine ⟨_, ?_, .compound hl inside further whole after⟩
          rw [List.cons_append, List.append_assoc, List.append_assoc, ← he']
          exact congrArg _ he
        | branch => cases apart
  · cases h
  · obtain ⟨rfl, rfl⟩ := of_pure h
    exact ⟨[], rfl, .nil⟩

/-- A block stands after its colon or is indented. -/
theorem suite_succ (ih : Found.At n)
    (h : Parse.suite (n + 1) inline items = .ok (body, tail)) :
    ∃ taken, items = taken ++ tail ∧ Holds taken (.block inline body) := by
  unfold Parse.suite at h
  split at h
  · rename_i he
    obtain rfl := List.isEmpty_iff.1 he
    replace h := of_get h
    split at h
    · rename_i s rest
      replace h := of_skip h
      obtain ⟨stmts, u, hs, h⟩ := exists_of_bind_ok h
      obtain ⟨taken, he, inside⟩ := ih.statements _ _ _ hs
      replace h := of_get h
      split at h
      · rename_i t rest'
        replace h := of_skip h
        obtain ⟨rfl, rfl⟩ := of_pure h
        refine ⟨.indent s :: (taken ++ [.dedent t]), ?_, .indented inside⟩
        rw [List.cons_append, List.append_assoc]
        exact congrArg _ he
      · exact (not_unexpected h).elim
    · exact (not_unexpected h).elim
  · rename_i he
    obtain ⟨rfl, rfl⟩ := of_pure h
    exact ⟨[], rfl, .inline fun hn => he (List.isEmpty_iff.2 hn)⟩

/-- A head is followed by its block and by the clauses that go with it. -/
theorem compound_succ (ih : Found.At n)
    (h : Parse.compound (n + 1) start head inline items = .ok (s, tail)) :
    ∃ block body clauses arms, items = block ++ (clauses ++ tail) ∧
      Holds block (.block inline body) ∧ Holds clauses (.arms arms) ∧
      Makes ⟨start, head, body⟩ arms s := by
  unfold Parse.compound at h
  obtain ⟨body, u, hbody, hrest⟩ := exists_of_bind_ok h
  obtain ⟨block, rfl, inside⟩ := ih.suite _ _ _ _ hbody
  cases head with
  | branch test =>
    obtain ⟨no, v, hno, hdone⟩ := exists_of_bind_ok hrest
    obtain ⟨rfl, rfl⟩ := of_pure hdone
    obtain ⟨clauses, arms, rfl, further, ha⟩ := ih.alternatives _ _ _ hno
    exact ⟨block, body, clauses, arms, rfl, inside, further, .whole (by simp [Arm.compound?, ha])⟩
  | otherBranch test =>
    obtain ⟨no, v, hno, hdone⟩ := exists_of_bind_ok hrest
    obtain ⟨rfl, rfl⟩ := of_pure hdone
    obtain ⟨clauses, arms, rfl, further, ha⟩ := ih.alternatives _ _ _ hno
    exact ⟨block, body, clauses, arms, rfl, inside, further, .branch ha⟩
  | loop test =>
    obtain ⟨orelse, v, hor, hdone⟩ := exists_of_bind_ok hrest
    obtain ⟨rfl, rfl⟩ := of_pure hdone
    obtain ⟨clauses, arms, rfl, further, ho⟩ := ih.otherwise _ _ _ hor
    exact ⟨block, body, clauses, arms, rfl, inside, further,
      .whole (by simp [Arm.compound?, ho.optional])⟩
  | each target source =>
    obtain ⟨orelse, v, hor, hdone⟩ := exists_of_bind_ok hrest
    obtain ⟨rfl, rfl⟩ := of_pure hdone
    obtain ⟨clauses, arms, rfl, further, ho⟩ := ih.otherwise _ _ _ hor
    exact ⟨block, body, clauses, arms, rfl, inside, further,
      .whole (by simp [Arm.compound?, ho.optional])⟩
  | define suspending id params returns =>
    obtain ⟨rfl, rfl⟩ := of_pure hrest
    exact ⟨block, body, [], [], rfl, inside, .noArms, .whole (by simp [Arm.compound?])⟩
  | attempt =>
    obtain ⟨caught, v, hcaught, hothers⟩ := exists_of_bind_ok hrest
    obtain ⟨clauses, arms, rfl, further, handles⟩ := ih.handlers _ _ _ hcaught
    obtain ⟨orelse, w, hor, hfinal⟩ := exists_of_orelse ih caught hothers
    obtain ⟨final, x, hfinal, hdone⟩ := exists_of_bind_ok hfinal
    obtain ⟨clauses₂, arms₂, rfl, further₂, ho, hnone⟩ := hor
    obtain ⟨clauses₃, arms₃, rfl, further₃, hf⟩ := ih.finally_ _ _ _ hfinal
    split at hdone
    · exact (not_unexpected hdone).elim
    · rename_i hne
      obtain ⟨rfl, rfl⟩ := of_pure hdone
      refine ⟨block, body, clauses ++ (clauses₂ ++ clauses₃), arms ++ (arms₂ ++ arms₃), ?_, inside,
        further.append (further₂.append further₃),
        .whole (compound?_attempt handles ho hf hnone hne)⟩
      simp only [List.append_assoc]
  | orelse => cases hrest
  | handler => cases hrest
  | final => cases hrest

theorem alternatives_succ {no : List Stmt} (ih : Found.At n)
    (h : Parse.alternatives (n + 1) items = .ok (no, tail)) :
    ∃ taken arms, items = taken ++ tail ∧ Holds taken (.arms arms) ∧
      Arm.alternatives? arms = some no := by
  unfold Parse.alternatives at h
  obtain ⟨found, h, next⟩ := of_nextHead h
  split at h
  · rename_i start test inline
    obtain ⟨first, others, rest, rfl, line⟩ := next _ _ _ rfl
    replace h := of_skip h
    obtain ⟨s, hs, rfl⟩ := exists_of_map_ok h
    obtain ⟨block, body, clauses, arms, he, inside, further, makes⟩ := ih.compound _ _ _ _ _ _ hs
    have holds := Holds.arm line inside further
    refine ⟨_, _, ?_, holds, ?_⟩
    · rw [List.cons_append, List.append_assoc]
      exact congrArg _ he
    · cases makes with
      | whole whole => simp [Arm.compound?] at whole
      | branch ha => simp [Arm.alternatives?, ha, List.singleton]
  · rename_i start inline
    obtain ⟨first, others, rest, rfl, line⟩ := next _ _ _ rfl
    obtain ⟨taken, he, holds⟩ := arm_of_suite ih line h
    exact ⟨taken, _, he, holds, rfl⟩
  · obtain ⟨rfl, rfl⟩ := of_pure h
    exact ⟨[], [], rfl, .noArms, rfl⟩

theorem otherwise_succ (ih : Found.At n)
    (h : Parse.otherwise (n + 1) items = .ok (body, tail)) :
    ∃ taken arms, items = taken ++ tail ∧ Holds taken (.arms arms) ∧
      Optional Arm.isOrelse body arms := by
  unfold Parse.otherwise at h
  obtain ⟨found, h, next⟩ := of_nextHead h
  split at h
  · rename_i start inline
    obtain ⟨first, others, rest, rfl, line⟩ := next _ _ _ rfl
    obtain ⟨taken, he, holds⟩ := arm_of_suite ih line h
    exact ⟨taken, _, he, holds, .inr ⟨_, _, rfl, rfl⟩⟩
  · obtain ⟨rfl, rfl⟩ := of_pure h
    exact ⟨[], [], rfl, .noArms, .inl ⟨rfl, rfl⟩⟩

theorem finally_succ (ih : Found.At n)
    (h : Parse.finally_ (n + 1) items = .ok (body, tail)) :
    ∃ taken arms, items = taken ++ tail ∧ Holds taken (.arms arms) ∧
      Optional Arm.isFinal body arms := by
  unfold Parse.finally_ at h
  obtain ⟨found, h, next⟩ := of_nextHead h
  split at h
  · rename_i start inline
    obtain ⟨first, others, rest, rfl, line⟩ := next _ _ _ rfl
    obtain ⟨taken, he, holds⟩ := arm_of_suite ih line h
    exact ⟨taken, _, he, holds, .inr ⟨_, _, rfl, rfl⟩⟩
  · obtain ⟨rfl, rfl⟩ := of_pure h
    exact ⟨[], [], rfl, .noArms, .inl ⟨rfl, rfl⟩⟩

theorem handlers_succ {hs : List Handler} (ih : Found.At n)
    (h : Parse.handlers (n + 1) items = .ok (hs, tail)) :
    ∃ taken arms, items = taken ++ tail ∧ Holds taken (.arms arms) ∧ Handles hs arms := by
  unfold Parse.handlers at h
  obtain ⟨found, h, next⟩ := of_nextHead h
  split at h
  · rename_i start type id inline
    obtain ⟨first, others, rest, rfl, line⟩ := next _ _ _ rfl
    replace h := of_skip h
    obtain ⟨body, u, hbody, hmore⟩ := exists_of_bind_ok h
    obtain ⟨more, v, hmore, hdone⟩ := exists_of_bind_ok hmore
    obtain ⟨rfl, rfl⟩ := of_pure hdone
    obtain ⟨block, he, inside⟩ := ih.suite _ _ _ _ hbody
    obtain ⟨clauses, arms, rfl, further, handles⟩ := ih.handlers _ _ _ hmore
    refine ⟨_, _, ?_, .arm line inside further, start, type, id, body, arms, rfl, rfl, handles⟩
    rw [List.cons_append, List.append_assoc]
    exact congrArg _ he
  · obtain ⟨rfl, rfl⟩ := of_pure h
    exact ⟨[], [], rfl, .noArms, rfl⟩

theorem at_succ (ih : Found.At n) : Found.At (n + 1) where
  statements _ _ _ := statements_succ ih
  suite _ _ _ _ := suite_succ ih
  compound _ _ _ _ _ _ := compound_succ ih
  alternatives _ _ _ := alternatives_succ ih
  otherwise _ _ _ := otherwise_succ ih
  finally_ _ _ _ := finally_succ ih
  handlers _ _ _ := handlers_succ ih

theorem found_at : ∀ n, Found.At n
  | 0 => at_zero
  | n + 1 => at_succ (found_at n)

/-- The items that statements are read from. -/
theorem holds_of_statements (h : Parse.statements n items = .ok (stmts, tail)) :
    ∃ taken, items = taken ++ tail ∧ Holds taken (.statements stmts) :=
  (found_at n).statements _ _ _ h

/-- The items of a whole script. -/
theorem holds_of_parseItems (h : parseItems items = .ok stmts) :
    ∃ taken rest, items = taken ++ rest ∧ Holds taken (.statements stmts) ∧
      (rest = [] ∨ ∃ span more, rest = .stop span :: more) := by
  unfold parseItems at h
  split at h
  · cases h
  · rename_i found rest hrun
    obtain ⟨taken, he, holds⟩ := holds_of_statements hrun
    split at h
    · obtain rfl := Except.ok.inj h
      exact ⟨taken, [], he, holds, .inl rfl⟩
    · obtain rfl := Except.ok.inj h
      exact ⟨taken, _, he, holds, .inr ⟨_, _, rfl⟩⟩
    · cases h

end Stencil.Script.Parse
