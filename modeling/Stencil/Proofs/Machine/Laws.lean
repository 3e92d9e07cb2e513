import Stencil.Eval.Stmt

/-!
# Processes one after another

The laws by which processes are put one after another, and what they say about statements.

## Main definitions

* `Proc.Ensures` — what holds when a process ends with a value.

## Main results

* `Proc.instLawfulMonad` — processes form a monad.
* `Script.execAll_append` — statements after others are executed if the flow is normal.
-/

namespace Stencil

namespace Heap

variable {h : Heap} {o o' : Object} {r s : Ref}

theorem get?_alloc (h : Heap) (o : Object) : (h.alloc o).2.get? (h.alloc o).1 = some o := by
  simp [alloc, get?]

theorem lt_of_get? (ho : h.get? r = some o) : r < h.objects.size :=
  (Array.getElem?_eq_some_iff.1 ho).1

theorem get?_alloc_of_get? (ho : h.get? r = some o) : (h.alloc o').2.get? r = some o := by
  have hr := lt_of_get? ho
  simp only [get?] at ho
  simp [alloc, get?, Array.getElem?_push, Nat.ne_of_lt hr, ho]

theorem ne_alloc (ho : h.get? r = some o) : r ≠ (h.alloc o').1 := Nat.ne_of_lt (lt_of_get? ho)

theorem get?_set (ho : h.get? r = some o) : (h.set r o').get? r = some o' := by
  simp [set, get?, lt_of_get? ho]

theorem get?_set_of_ne (hn : r ≠ s) : (h.set r o).get? s = h.get? s := by
  simp [set, get?, hn]

end Heap

namespace Step

variable {α β γ : Type}

theorem bind_assoc (f : α → Machine → Step β) (g : β → Machine → Step γ) (s : Step α) :
    bind g (bind f s) = bind (fun a m => bind g (f a m)) s := by
  induction s with
  | done a m => rfl
  | ask q m next ih => exact congrArg _ (funext fun reply => funext fun m' => ih reply m')

theorem bind_done (s : Step α) : bind done s = s := by
  induction s with
  | done a m => rfl
  | ask q m next ih => exact congrArg _ (funext fun reply => funext fun m' => ih reply m')

end Step

namespace Proc

variable {α β γ : Type}

theorem bind_eq (p : Proc α) (f : α → Proc β) (m : Machine) :
    (p >>= f) m = Step.bind (fun o m => match o with
      | .value a => f a m
      | .raised r => .done (.raised r) m
      | .exhausted => .done .exhausted m) (p m) := rfl

/-- A process that ends with a value at once. -/
theorem bind_of_done {p : Proc α} {f : α → Proc β} {a : α} {m m' : Machine}
    (h : p m = .done (.value a) m') : (p >>= f) m = f a m' := by
  rw [bind_eq, h]
  rfl

instance instLawfulMonad : LawfulMonad Proc := LawfulMonad.mk' Proc
  (by
    intro α p
    funext m
    refine (congrArg (Step.bind · (p m)) ?_).trans (Step.bind_done (p m))
    funext o m
    cases o <;> rfl)
  (fun _ _ => rfl)
  (by
    intro α β γ p f g
    funext m
    rw [bind_eq, bind_eq, Step.bind_assoc, bind_eq]
    refine congrArg (Step.bind · (p m)) ?_
    funext o m
    cases o <;> rfl)

/-! ## What holds at the end -/

end Proc

namespace Step

variable {α β : Type}

/-- If a process ends with a value, this holds of the value and the machine, whatever the answers
to its requests are. -/
def Ensures (P : α → Machine → Prop) : Step (Outcome α) → Prop
  | done (.value a) m => P a m
  | done _ _ => True
  | ask _ _ next => ∀ reply m, Ensures P (next reply m)

theorem Ensures.bind {P : α → Machine → Prop} {Q : β → Machine → Prop} {f : α → Proc β}
    {s : Step (Outcome α)} (h : s.Ensures P) (hf : ∀ a m, P a m → (f a m).Ensures Q) :
    (Step.bind (fun o m => match o with
      | .value a => f a m
      | .raised r => .done (.raised r) m
      | .exhausted => .done .exhausted m) s).Ensures Q := by
  induction s with
  | done o m =>
    cases o with
    | value a => exact hf a m h
    | raised r => trivial
    | exhausted => trivial
  | ask q m next ih => exact fun reply m => ih reply m (h reply m)

/-- Two ways to go on that agree on everything that a process may end with. -/
theorem Ensures.bind_congr {P : α → Machine → Prop} {f g : α → Proc β} {s : Step (Outcome α)}
    (h : s.Ensures P) (hfg : ∀ a m, P a m → f a m = g a m) :
    Step.bind (fun o m => match o with
      | .value a => f a m
      | .raised r => .done (.raised r) m
      | .exhausted => .done .exhausted m) s =
    Step.bind (fun o m => match o with
      | .value a => g a m
      | .raised r => .done (.raised r) m
      | .exhausted => .done .exhausted m) s := by
  induction s with
  | done o m =>
    cases o with
    | value a => exact hfg a m h
    | raised r => rfl
    | exhausted => rfl
  | ask q m next ih =>
    exact congrArg _ (funext fun reply => funext fun m => ih reply m (h reply m))

theorem ensures_true (s : Step (Outcome α)) : s.Ensures fun _ _ => True := by
  induction s with
  | done o m => cases o <;> trivial
  | ask q m next ih => exact fun reply m => ih reply m

end Step

namespace Proc

variable {α β : Type}

/-- If a process ends with a value, this holds of the value and the machine. -/
def Ensures (p : Proc α) (P : α → Machine → Prop) : Prop := ∀ m, (p m).Ensures P

theorem Ensures.bind {p : Proc α} {f : α → Proc β} {P : α → Machine → Prop}
    {Q : β → Machine → Prop} (h : p.Ensures P) (hf : ∀ a m, P a m → (f a m).Ensures Q) :
    (p >>= f).Ensures Q := fun m => (h m).bind hf

theorem Ensures.bind_congr {p : Proc α} {f g : α → Proc β} {P : α → Machine → Prop}
    (h : p.Ensures P) (hfg : ∀ a m, P a m → f a m = g a m) : (p >>= f) = (p >>= g) :=
  funext fun m => (h m).bind_congr hfg

/-- What the second of two processes ensures by itself. -/
theorem ensures_bind {p : Proc α} {f : α → Proc β} {Q : β → Machine → Prop}
    (hf : ∀ a, (f a).Ensures Q) : (p >>= f).Ensures Q := fun m =>
  (Step.ensures_true (p m)).bind fun a m _ => hf a m

theorem Ensures.pure {a : α} {P : α → Machine → Prop} (h : ∀ m, P a m) :
    (Pure.pure a : Proc α).Ensures P := h

theorem Ensures.ite {c : Prop} [Decidable c] {p q : Proc α} {P : α → Machine → Prop}
    (hp : p.Ensures P) (hq : q.Ensures P) : (if c then p else q).Ensures P := by
  split
  · exact hp
  · exact hq

theorem ensures_error {type : ExceptionClass} {message : Text} {P : α → Machine → Prop} :
    (error type message : Proc α).Ensures P := fun _ => trivial

end Proc

namespace Script

variable {I : Interp} {f : Frame}

theorem execAll_singleton (s : Stmt) : execAll I f [s] = s.exec I f := by
  simp only [execAll]
  refine (bind_congr fun flow => ?_).trans (bind_pure (s.exec I f))
  cases flow <;> rfl

theorem execAll_append (stmts others : List Stmt) :
    execAll I f (stmts ++ others) = (do
      match ← execAll I f stmts with
      | .normal => execAll I f others
      | flow => return flow) := by
  induction stmts with
  | nil => simp [execAll]
  | cons s stmts ih =>
    simp only [List.cons_append, execAll, bind_assoc]
    refine bind_congr fun flow => ?_
    cases flow <;> simp [ih]

end Script

end Stencil
