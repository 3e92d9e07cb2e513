import Stencil.Machine.Proc

/-!
# Processes side by side

Several processes share one machine. Each goes on until it suspends; then another may go on, and
finds the machine as it was left.

## Main definitions

* `Step.machine`, `Step.resume` — the machine of a process, and a process that goes on.
* `Pool` — processes side by side.
* `Pool.start`, `Pool.advance`, `Pool.finish` — their beginning, one of them going on, their end.
-/

namespace Stencil

namespace Step

variable {α : Type}

/-- The machine as a process leaves it. -/
def machine : Step α → Machine
  | done _ m => m
  | ask _ m _ => m

/-- A process goes on, up to where it suspends the next time, with a machine that others may have
changed. -/
def resume {σ : Type} (world : (q : Request) → σ → q.Reply × σ) (m : Machine) :
    Step α → σ → Step α × σ
  | done a _, s => (done a m, s)
  | ask q _ next, s => runToSuspension world (next (.answer (world q s).1) m) (world q s).2

/-- A suspended process is cancelled and goes on, up to where it suspends the next time. -/
def cancel {σ : Type} (world : (q : Request) → σ → q.Reply × σ) (m : Machine) :
    Step α → σ → Step α × σ
  | done a _, s => (done a m, s)
  | ask _ _ next, s => runToSuspension world (next .cancel m) s

/-- A process goes on to its end with a machine that others may have changed. -/
def finishOn {σ : Type} (world : (q : Request) → σ → q.Reply × σ) (m : Machine) :
    Step α → σ → α × Machine × σ
  | done a _, s => (a, m, s)
  | ask q _ next, s => finish world (next (.answer (world q s).1) m) (world q s).2

end Step

/-- Processes side by side, the machine as the last of them left it, and the world. -/
structure Pool (α σ : Type) where
  steps : List (Step α)
  machine : Machine
  world : σ

namespace Pool

variable {α σ : Type}

/-- Processes are started one after another, each up to where it suspends. -/
def start (world : (q : Request) → σ → q.Reply × σ) (m : Machine) (s : σ) :
    List (Machine → Step α) → Pool α σ
  | [] => ⟨[], m, s⟩
  | p :: ps =>
    let (step, s) := Step.runToSuspension world (p m) s
    let pool := start world step.machine s ps
    { pool with steps := step :: pool.steps }

/-- The process at a position goes on up to where it suspends the next time. -/
def advance (world : (q : Request) → σ → q.Reply × σ) (i : Nat) (pool : Pool α σ) : Pool α σ :=
  match pool.steps[i]? with
  | none => pool
  | some step =>
    let (step, s) := step.resume world pool.machine pool.world
    ⟨pool.steps.set i step, step.machine, s⟩

/-- Processes go on to their ends one after another. -/
def finishAll (world : (q : Request) → σ → q.Reply × σ) (m : Machine) (s : σ) :
    List (Step α) → List α × Machine × σ
  | [] => ([], m, s)
  | step :: steps =>
    let (a, m, s) := step.finishOn world m s
    let (as, m, s) := finishAll world m s steps
    (a :: as, m, s)

/-- All processes go on to their ends. -/
def finish (world : (q : Request) → σ → q.Reply × σ) (pool : Pool α σ) : List α × Machine × σ :=
  finishAll world pool.machine pool.world pool.steps

/-- Processes run side by side: they go on in the order of a schedule, and what it leaves unfinished
is finished in their own order. -/
def run (world : (q : Request) → σ → q.Reply × σ) (ps : List (Machine → Step α))
    (schedule : List Nat) (m : Machine) (s : σ) : List α × Machine × σ :=
  (schedule.foldl (fun pool i => pool.advance world i) (start world m s ps)).finish world

end Pool

end Stencil
