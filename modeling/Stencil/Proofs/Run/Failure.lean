import Stencil.Proofs.Run.Activity
import Stencil.Proofs.Run.Lineage
import Stencil.Proofs.Run.Unwinding

/-!
# How runs fail

Each entry of the log that tells of a run that fails comes from an error that has left the run, and so
it is told what becomes of the error. A derivation tells of each of its steps what has been logged in
it; between the steps nothing is.

## Main definitions

* `Fails` — a run fails within a process, with an error.
* `Logged` — what holds of each entry that tells of a run that fails.

## Main results

* `Exec.failed` — each entry that tells of a run that fails comes from an error that leaves it.
* `Run.errors_propagate_in_order` — how errors travel through runs that include each other.
-/

namespace Stencil

open Script

variable {α β : Type} {K : Code → Prop} {A : Replies} {m m' m₁ m₂ n' : Machine} {r : Ref}
  {σ : Standing} {p : Proc α} {o : Outcome α} {ℓ : Layer}

/-! ## Runs that fail -/

/-- A run fails within a process with an error that leaves it, inside layers. -/
structure Fails (K : Code → Prop) (A : Replies) (p : Proc α) (m : Machine) (o : Outcome α)
    (m' : Machine) (ls : List Layer) (run r : Ref) (n' : Machine) : Prop where
  within : ∃ (γ : Type) (q : Proc γ) (n : Machine),
    Within K A (ls ++ [.run run]) p m o m' q n (.raised r) n'
  isError : n'.isA r .exception

/-- A run fails within a process. -/
def Failing (K : Code → Prop) (A : Replies) (p : Proc α) (m : Machine) (o : Outcome α)
    (m' : Machine) (run : Ref) (n' : Machine) : Prop :=
  ∃ ls r, Fails K A p m o m' ls run r n'

/-- What is said of a process within another one holds of the other one as well. -/
theorem Failing.lift {p : Proc β} {p' : Proc α} {o₁ : Outcome β} {o : Outcome α} {run : Ref}
    (h : Failing K A p m₁ o₁ m₂ run n')
    (lift : ∀ {ls : List Layer} {γ : Type} {q : Proc γ} {n n' : Machine} {r : Ref},
      Within K A ls p m₁ o₁ m₂ q n (.raised r) n' →
        ∃ above, Within K A (above ++ ls) p' m o m' q n (.raised r) n') :
    Failing K A p' m o m' run n' := by
  obtain ⟨ls, r, ⟨γ, q, n, hw⟩, he⟩ := h
  obtain ⟨above, hw⟩ := lift hw
  exact ⟨above ++ ls, r, ⟨γ, q, n, by rwa [List.append_assoc]⟩, he⟩

/-- Each entry that has been logged from one machine to another and tells of a run that fails has been
logged on a machine on which something holds. -/
def Logged (P : Ref → Machine → Prop) (m m' : Machine) : Prop :=
  ∀ w, m'.log.toList = m.log.toList ++ w → ∀ i run path before,
    w[i]? = some (.advanced run path before .failed) →
      ∃ n', P run n' ∧ n'.log.toList = m.log.toList ++ w.take i

namespace Logged

variable {P P' : Ref → Machine → Prop}

theorem mono (h : Logged P m m') (hP : ∀ run n', P run n' → P' run n') : Logged P' m m' := by
  intro w hw i run path before hi
  obtain ⟨n', hn', hl⟩ := h w hw i run path before hi
  exact ⟨n', hP run n' hn', hl⟩

theorem trans {w₁ : List LogEntry} (h : Logged P m m₁) (h' : Logged P m₁ m')
    (hw₁ : m₁.log.toList = m.log.toList ++ w₁)
    (hw₂ : ∃ w₂, m'.log.toList = m₁.log.toList ++ w₂) : Logged P m m' := by
  intro w hw i run path before hi
  obtain ⟨w₂, hw₂⟩ := hw₂
  obtain rfl : w = w₁ ++ w₂ := by
    rw [hw₂, hw₁, List.append_assoc] at hw
    exact (List.append_cancel_left hw).symm
  by_cases hlt : i < w₁.length
  · rw [List.getElem?_append_left hlt] at hi
    obtain ⟨n', hn', hl⟩ := h w₁ hw₁ i run path before hi
    exact ⟨n', hn', by rw [hl, List.take_append_of_le_length (Nat.le_of_lt hlt)]⟩
  · rw [List.getElem?_append_right (Nat.not_lt.1 hlt)] at hi
    obtain ⟨n', hn', hl⟩ := h' w₂ hw₂ _ run path before hi
    refine ⟨n', hn', ?_⟩
    rw [hl, hw₁, List.append_assoc, List.take_append, List.take_of_length_le (Nat.not_lt.1 hlt)]

theorem grown (h : Logged P m m₁) (h' : Logged P m₁ m') (hg : m.Grown K m₁)
    (hg' : m₁.Grown K m') : Logged P m m' := by
  obtain ⟨w₁, hw₁, -⟩ := hg.log
  obtain ⟨w₂, hw₂, -⟩ := hg'.log
  exact h.trans h' hw₁ ⟨w₂, hw₂⟩

/-- Where no run fails there is nothing to say. -/
theorem of_log (h : ∃ w, m'.log.toList = m.log.toList ++ w ∧ ∀ p ∈ passagesOf w, p.2 ≠ .failed) :
    Logged P m m' := by
  intro w hw i run path before hi
  obtain ⟨w', hw', hps⟩ := h
  obtain rfl := List.append_cancel_left (hw.symm.trans hw')
  have hmem : (run, RunState.failed) ∈ passagesOf w :=
    List.mem_filterMap.2 ⟨_, List.mem_of_getElem? hi, rfl⟩
  exact absurd rfl (hps _ hmem)

theorem of_grows {ps : List (Ref × RunState)} (h : m.Grows K ps m')
    (hps : ∀ p ∈ ps, p.2 ≠ .failed) : Logged P m m' := by
  obtain ⟨w, hw, rfl⟩ := h.log
  exact .of_log ⟨w, hw, hps⟩

/-- Through its stages a run does not fail. -/
theorem of_stages {run : Ref} {k : Nat} (h : m.Grows K (passagesThrough run k) m') :
    Logged P m m' := by
  refine .of_grows h fun p hp => ?_
  obtain ⟨state, hs, rfl⟩ := List.mem_map.1 hp
  have hmem := List.mem_of_mem_take hs
  rintro rfl
  simp [RunState.stages] at hmem

/-- At its end a run may fail with an error. -/
theorem concluding {run : Ref} {o₁ o : Outcome Unit}
    (h : (Run.concluding run (Proc.ofOutcome o₁)).Goes A m o m')
    (hP : ∀ r, o₁ = .raised r → m.isA r .exception → P run m) : Logged P m m' := by
  obtain ⟨-, rfl⟩ := Run.goes_concluding_ofOutcome.1 h
  cases o₁ with
  | value a =>
    refine .of_log ⟨[_], Array.toList_push, fun p hp => ?_⟩
    obtain rfl := List.mem_singleton.1 hp
    exact fun h => by cases h
  | exhausted => exact .of_log ⟨[], (List.append_nil _).symm, fun _ h => absurd h List.not_mem_nil⟩
  | raised r =>
    dsimp only
    split
    · next he =>
      intro w hw i run' path before hi
      have hlog : (m.advanced run .failed).log.toList = m.log.toList ++
          [.advanced run (m.runAt run).path (m.runAt run).state .failed] := Array.toList_push
      obtain rfl := List.append_cancel_left (hlog.symm.trans hw)
      cases i with
      | zero =>
        obtain ⟨rfl, -⟩ := by simpa using hi
        exact ⟨m, hP r rfl he, (List.append_nil _).symm⟩
      | succ i => nomatch hi
    · exact .of_log ⟨[], (List.append_nil _).symm, fun _ h => absurd h List.not_mem_nil⟩

end Logged

/-- What a layer logs that does not do more than to pass errors on. -/
theorem Around.log {ℓ : Layer} {C : Proc α → Proc α} {o₁ o : Outcome α} (h : Around (some ℓ) C)
    (hp : ℓ.IsPlain) (rest : (C (Proc.ofOutcome o₁)).Goes A m₁ o m') :
    ∃ w, m'.log.toList = m₁.log.toList ++ w ∧ passagesOf w = [] := by
  obtain ⟨r, r', rfl, rfl, hr⟩ | ⟨-, -, hg⟩ := h.plain (K := fun _ => True) hp rest
  · obtain ⟨c, spot, rfl, rfl⟩ | ⟨-, hg⟩ := hr.grows hp
    · exact ⟨[], (List.append_nil _).symm, rfl⟩
    · exact hg.log
  · exact hg.log

/-- Each entry that tells of a run that fails comes from an error that leaves the run. -/
theorem Exec.failed (h : Exec K A σ p m o m') : Logged (Failing K A p m o m') m m' := by
  induction h with
  | calm hp h outside =>
    exact .of_grows (hp _ _ _ h).1 fun _ h => absurd h List.not_mem_nil
  | throw r m again => exact .of_grows (.refl K m) fun _ h => absurd h List.not_mem_nil
  | value first rest ih ih' =>
    exact (ih.mono fun _ _ hf => hf.lift fun hw => ⟨[], .first rest hw⟩).grown
      (ih'.mono fun _ _ hf => hf.lift fun hw => ⟨[], .second first hw⟩) first.grown rest.grown
  | raised first ih => exact ih.mono fun _ _ hf => hf.lift fun hw => ⟨[], .raised hw⟩
  | exhausted first ih => exact ih.mono fun _ _ hf => hf.lift fun hw => ⟨[], .exhausted hw⟩
  | layer around plain bounds fits inner rest ih =>
    have grown := around.grown (K := K) plain rest
    obtain ⟨w, hw, hp⟩ := around.log plain rest
    exact (ih.mono fun _ _ hf => hf.lift fun hw => ⟨[_], .inside around fits hw rest grown⟩).grown
      (.of_log ⟨w, hw, hp ▸ fun _ h => absurd h List.not_mem_nil⟩) inner.grown grown
  | enter known activation knows inner ih =>
    exact ih.mono fun _ _ hf => hf.lift fun hw => ⟨[_], .enter activation hw⟩
  | orelse first rest ih ih' =>
    exact (ih.mono fun _ _ hf => hf.lift fun hw => ⟨[_], .body rest hw⟩).grown
      (ih'.mono fun _ _ hf => hf.lift fun hw => ⟨[], .orelse first hw⟩) first.grown rest.grown
  | handled inside first rest ih ih' =>
    exact (ih.mono fun _ _ hf => hf.lift fun hw => ⟨[_], .handledBody rest hw⟩).grown
      (ih'.mono fun _ _ hf => hf.lift fun hw => ⟨[], .handled first hw⟩) first.grown rest.grown
  | unhandled first leaves quiet ih =>
    exact ih.mono fun _ _ hf => hf.lift fun hw => ⟨[_], .unhandled leaves quiet hw⟩
  | finished inside first ends rest ih ih' =>
    exact (ih.mono fun _ _ hf => hf.lift fun hw => ⟨[_], .finished rest ends hw⟩).grown
      (ih'.mono fun _ _ hf => hf.lift fun hw => ⟨[], .final first ends hw⟩) first.grown rest.grown
  | unfinished first ih => exact ih.mono fun _ _ hf => hf.lift fun hw => ⟨[_], .unfinished hw⟩
  | run opens inside rest ih =>
    have begins := Machine.Grows.created.trans opens.grows
    obtain ⟨w₁, hw₁, -⟩ := begins.log
    obtain ⟨w₂, hw₂, -⟩ := inside.grown.log
    obtain ⟨last, ending, -⟩ :=
      Run.grows_concluding (K := K) (inside.grown.hasOther opens.hasOther) rest
    obtain ⟨w₃, hw₃, -⟩ := ending.log
    refine (Logged.of_stages begins).trans ((ih.mono fun _ _ hf => hf.lift fun hw =>
      ⟨[_], .run opens hw rest⟩).trans (.concluding rest fun r hr he => ?_) hw₂ ⟨w₃, hw₃⟩) hw₁
      ⟨w₂ ++ w₃, by rw [hw₃, hw₂, List.append_assoc]⟩
    subst hr
    exact ⟨[], r, ⟨_, _, _, .run opens (.here inside.goes inside.grown) rest⟩, he⟩
  | @stopped _ _ _ _ _ _ _ m m₁ _ _ o₁ o₂ opens stops ends rest =>
    have begins := Machine.Grows.created.trans opens.grows
    obtain ⟨w₁, hw₁, -⟩ := begins.log
    obtain ⟨last, ending, -⟩ := Run.grows_concluding (K := K) opens.hasOther rest
    obtain ⟨w₂, hw₂, -⟩ := ending.log
    refine (Logged.of_stages begins).trans (.concluding rest fun r hr he => ?_) hw₁ ⟨w₂, hw₂⟩
    subst hr
    cases o₁ with
    | value a => exact absurd rfl (stops a)
    | exhausted => cases ends.1
    | raised r' =>
      obtain rfl := Option.some.inj ends.1
      exact ⟨[], r, ⟨_, _, _, .opening opens stops ends rest⟩, he⟩

namespace Run

/-- A template is run, and includes others, in any mode. The words of the runs in the log are nested in
each other. Whenever one of them fails, in whatever stage, an error has left it, while the runs around
it are still going on. The error goes on to these: it leaves all of them, or something takes it on the
way and goes on inside of those that are left. Until then the runs that it leaves fail, the innermost
first, and no other run that was there does; it is the same error all the way; and what is written
meanwhile has been written by clauses that it passes. -/
theorem errors_propagate_in_order (limit depth fuel : Nat) {caller : Caller} {path : Path}
    {d : Delimiters} {mode : Mode} {context : Value} {o : Outcome Unit}
    (h : (start (Interp.ofFuel grant limit depth fuel) caller path d mode context).Goes A m o m') :
    ∃ w, m'.log.toList = m.log.toList ++ w ∧ Nested m.next (passagesOf w) m'.next ∧
      ∀ i run file before, w[i]? = some (.advanced run file before .failed) → ∃ ls r n,
        n.log.toList = m.log.toList ++ w.take i ∧
        Opened m.next (passagesOf (w.take i)) (runsOf ls ++ [run]) n.next ∧
        Fails (fun _ => True) A
          (start (Interp.ofFuel grant limit depth fuel) caller path d mode context) m o m' ls run r
          n ∧
        Fate (fun _ => True) A (ls ++ [.run run])
          (start (Interp.ofFuel grant limit depth fuel) caller path d mode context) m o m' r n := by
  have derives : (Interp.ofFuel grant limit depth fuel).Derives (fun _ => True) A m.directory :=
    Interp.derives_run (fun _ _ => trivial) limit depth fuel
  have minds : m.Minds (fun _ => True) m.directory :=
    ⟨fun _ _ f _ _ => ⟨⟨f.file, f.lines, spotsOf f.body⟩, trivial, rfl, rfl, fun _ h => h⟩, rfl⟩
  have exec := derivable_start derives (fun _ _ => trivial) m minds o m' h
  obtain ⟨w, hw, hn⟩ := exec.grown.log
  refine ⟨w, hw, hn, fun i run file before hi => ?_⟩
  obtain ⟨n, ⟨ls, r, fails⟩, hl⟩ := exec.failed w hw i run file before hi
  obtain ⟨γ, q, n₀, within⟩ := fails.within
  obtain ⟨w', hw', opened⟩ := within.reached.log
  obtain rfl := List.append_cancel_left (hw'.symm.trans hl)
  have runs : runsOf (ls ++ [.run run]) = runsOf ls ++ [run] := by simp [runsOf, Layer.run?]
  exact ⟨ls, r, n, hl, runs ▸ opened, fails, within.fate fails.isError⟩

/-! ### An error on its way -/

/-- A disk with templates. -/
def templatesOn (templates : List (Text × Text)) : Disk :=
  templates.foldl (fun d t => d.store [t.1] (Text.encode? t.2)) Disk.empty

/-- The template `main` is run. -/
def hosted (mode : Mode) : Proc Unit :=
  start (Interp.ofFuel grant Interp.rounds Interp.maxDepth (Interp.maxDepth + 1)) .none
    (Path.ofText "main") Delimiters.standard mode (.dict 0)

/-- A machine with a context that grants nothing but `write`. -/
def granting : Machine := (Machine.fresh ⟨.single, []⟩).withDict writer

/-- A template that includes one that fails, and then another one in a clause that is executed in any
case. -/
def failing : Disk := templatesOn [
  ("main", "1%\x7b try: \x7d%2%\x7b include('a') \x7d%3" ++
    "%\x7b finally: \x7d%4%\x7b include('b') \x7d%5%\x7b end \x7d%6"),
  ("a", "7%\x7b raise ValueError('x') \x7d%8"),
  ("b", "9")]

/-- On the disk `failing` a run fails, with an error that goes on to the outermost run. -/
theorem errors_propagate_in_order_of_failing : ∃ o m',
    (hosted .blocking).Goes (fun _ _ => True) granting o m' ∧
    m'.log.toList[15]? = some (.advanced 6 ⟨.single, ["a"]⟩ .executing .failed) ∧ ∃ ls r n,
      n.log.toList = m'.log.toList.take 15 ∧
      Fails (fun _ => True) (fun _ _ => True) (hosted .blocking) granting o m' ls 6 r n ∧
      Fate (fun _ => True) (fun _ _ => True) (ls ++ [.run 6]) (hosted .blocking) granting o m' r
        n := by
  obtain ⟨moves, hc, -⟩ :=
    Step.exists_course_of_finish Disk.answer (hosted .blocking granting) failing
  have there : ((hosted .blocking granting).finish Disk.answer failing).2.1.log.toList[15]? =
      some (.advanced 6 ⟨.single, ["a"]⟩ .executing .failed) := by decide +kernel
  generalize (hosted .blocking granting).finish Disk.answer failing = last at hc there
  have goes : (hosted .blocking).Goes (fun _ _ => True) granting last.1 last.2.1 :=
    ⟨moves, fun _ _ _ _ => trivial, hc⟩
  obtain ⟨w, hw, -, fails⟩ := errors_propagate_in_order Interp.rounds Interp.maxDepth
    (Interp.maxDepth + 1) goes
  obtain rfl : last.2.1.log.toList = w := hw
  obtain ⟨ls, r, n, hl, -, hf, fate⟩ := fails 15 _ _ _ there
  exact ⟨_, _, goes, there, ls, r, n, hl, hf, fate⟩

/-- The machines on which a process asks something in a world. -/
def asking {σ : Type} (world : (q : Request) → σ → q.Reply × σ) : Step α → σ → List Machine
  | .done _ _, _ => []
  | .ask q m next, s => m :: asking world (next (.answer (world q s).1) m) (world q s).2

/-- The class and the message of the exception with which `main` ends on a disk. -/
def ending? (mode : Mode) (d : Disk) : Option (ExceptionClass × Text) :=
  match (hosted mode granting).finish Disk.answer d with
  | (.raised r, m, _) => (m.heap.thrown? r).map fun e => (e.type, e.message m.heap)
  | _ => none

/-- A template in which a clause that is executed in any case changes an exception. -/
def changing : Disk := templatesOn [
  ("main", "%\x7b e = ValueError('x') \x7d%%\x7b try: \x7d%%\x7b include('a', \x7b'e': e\x7d) \x7d%" ++
    "%\x7b finally: \x7d%%\x7b e.args = ['y'] \x7d%%\x7b end \x7d%"),
  ("a", "%\x7b raise e \x7d%")]

/-- A template that puts code into the head of the procedure of one that it includes. -/
def iterating : Disk := templatesOn [
  ("main", "%\x7b include('a', \x7b'x):\\n    pass\\nraise StopIteration\\n" ++
    "def f(y': 1\x7d) \x7d%"),
  ("a", "")]

/-- There is more to an error on its way than runs that fail. On the disk `failing`, texts are written
after a run has failed with an error that nothing takes. Clauses may change the message of an error,
and a coroutine does not let the end of an iteration out. -/
theorem clauses_act_on_the_way :
    (∃ n ∈ asking Disk.answer (hosted .blocking granting) failing,
      n.passed 6 = RunState.stages ++ [.failed] ∧ n.events.size = 4) ∧
    ((hosted .blocking granting).finish Disk.answer failing).2.1.events.size = 6 ∧
    ending? .blocking failing = some (ExceptionClass.valueError, ("x" : Text)) ∧
    ending? .blocking changing = some (ExceptionClass.valueError, ("y" : Text)) ∧
    ending? .suspending iterating =
      some (ExceptionClass.runtimeError, ("coroutine raised StopIteration" : Text)) := by
  decide +kernel

end Run

end Stencil
