import Stencil.Disk.Basic
import Stencil.Proofs.Run.Report

/-!
# Templates that are turned away

Before a template is executed its run looks at four things, one after another: its context, what
the disk answers, whether the text is a template, and whether the procedure for it can be made. The
first that is at fault ends the run with an exception of its own. Nothing has been written then, no
template included and no module loaded: what the run leaves behind are its own object, the exception
and what it has logged, and the only thing that it may have asked for is its own file.

## Main definitions

* `Proc.Looks` — a process only looks at the machine.
* `Procedure.check` — what is looked at before a procedure is defined.
* `Run.start` — a run of a template from its creation on.
* `Run.arrived`, `Run.turnedAway` — the machine on the way, and when a template is turned away.

## Main results

* `Run.turned_away_in_order` — the order in which templates are turned away, and what is left.
-/

namespace Stencil

namespace Heap

variable {h : Heap} {a a' b : Object}

theorem set_alloc : (h.alloc a).2.set h.objects.size a' = (h.alloc a').2 := by
  refine congrArg Heap.mk (Array.ext_getElem? fun i => ?_)
  simp only [alloc, Array.getElem?_setIfInBounds, Array.getElem?_push, Array.size_push]
  grind

/-- An object is replaced after another one has been put on the heap. -/
theorem set_alloc_alloc :
    ((h.alloc a).2.alloc b).2.set h.objects.size a' = ((h.alloc a').2.alloc b).2 := by
  refine congrArg Heap.mk (Array.ext_getElem? fun i => ?_)
  simp only [alloc, Array.getElem?_setIfInBounds, Array.getElem?_push, Array.size_push]
  grind

end Heap

namespace Step

variable {α β σ : Type} {world : (q : Request) → σ → q.Reply × σ} {s s' : σ}

/-- A process has ended with an exception. -/
def hasRaised : Step (Outcome α) → Bool
  | done (.raised _) _ => true
  | _ => false

theorem finish_bind (f : α → Machine → Step β) (step : Step α) :
    (bind f step).finish world s =
      (f (step.finish world s).1 (step.finish world s).2.1).finish world
        (step.finish world s).2.2 := by
  induction step generalizing s with
  | done a m => rfl
  | ask q m next ih => exact ih _ _

end Step

namespace Proc

variable {α β σ : Type} {world : (q : Request) → σ → q.Reply × σ} {s s' : σ} {p : Proc α}
  {f : α → Proc β} {m m' : Machine}

theorem finish_bind_value {a : α} (h : (p m).finish world s = (.value a, m', s')) :
    ((p >>= f) m).finish world s = (f a m').finish world s' := by
  rw [bind_eq, Step.finish_bind, h]

theorem finish_bind_raised {r : Ref} (h : (p m).finish world s = (.raised r, m', s')) :
    ((p >>= f) m).finish world s = (.raised r, m', s') := by
  rw [bind_eq, Step.finish_bind, h]
  rfl

theorem finish_ask_bind {q : Request} {g : q.Reply → Proc β} :
    ((ask q >>= g) m).finish world s = (g (world q s).1 m).finish world (world q s).2 := rfl

/-! ## Processes that only look -/

/-- A verdict as a process: a value, or a new exception. -/
def ofVerdict : Except Thrown α → Proc α
  | .ok a => return a
  | .error e => raise e

/-- A process only looks at the machine: it comes to a value or to an error. -/
def Looks (p : Proc α) : Prop :=
  ∀ m, ∃ v : Except Thrown α, (∀ e, v = .error e → e.type.isA .exception) ∧ p m = ofVerdict v m

theorem Looks.pure (a : α) : Looks (Pure.pure a) := fun _ => ⟨.ok a, fun _ h => (nomatch h), rfl⟩

theorem Looks.raise {e : Thrown} (h : e.type.isA .exception) : Looks (raise e : Proc α) :=
  fun _ => ⟨.error e, by rintro _ ⟨⟩; exact h, rfl⟩

theorem Looks.error {type : ExceptionClass} {message : Text} (h : type.isA .exception) :
    Looks (error type message : Proc α) := .raise h

theorem Looks.bind (hp : p.Looks) (hf : ∀ a, (f a).Looks) : (p >>= f).Looks := by
  intro m
  obtain ⟨v, hv, hm⟩ := hp m
  cases v with
  | ok a =>
    obtain ⟨w, hw, hm'⟩ := hf a m
    exact ⟨w, hw, (bind_of_done hm).trans hm'⟩
  | error e => exact ⟨.error e, by rintro _ ⟨⟩; exact hv e rfl, by rw [bind_eq, hm]; rfl⟩

theorem Looks.heap {f : Heap → Proc β} (hf : ∀ h, (f h).Looks) : (Proc.heap >>= f).Looks :=
  fun m => hf m.heap m

theorem Looks.ite {c : Prop} [Decidable c] {q : Proc α} (hp : p.Looks) (hq : q.Looks) :
    (if c then p else q).Looks := by
  split
  · exact hp
  · exact hq

theorem Looks.mapM {g : α → Proc β} (hg : ∀ a, (g a).Looks) (as : List α) : (as.mapM g).Looks := by
  induction as with
  | nil => exact .pure []
  | cons a as ih =>
    rw [List.mapM_cons]
    exact (hg a).bind fun b => ih.bind fun bs => .pure _

theorem looks_ofWriting (t : Except WritingFault α) : (ofWriting t).Looks := by
  unfold ofWriting
  split
  · exact .pure _
  · exact .error rfl
  · exact .error rfl

theorem looks_quoted (v : Value) : (quoted v).Looks := .heap fun _ => looks_ofWriting _

end Proc

/-! ## Procedures -/

namespace Procedure

open Script Proc

variable {α : Type} {I : Interp} {source file : Text} {lines : LineMap} {names : List Value}
  {mode : Mode}

/-- An outline about which nothing is wrong. -/
def approve (o : Outline) (body : List Stmt) (lines : LineMap) (mode : Mode) (file : Text) :
    Proc Outline :=
  if Outline.maxDepth < o.depth then error .recursionError "maximum recursion depth exceeded"
  else if !fits lines.line body then
    error .overflowError "Python int too large to convert to C int"
  else
    match firstFault? lines.line body with
    | some fault => error .valueError fault.message
    | none =>
      match o.fault? mode lines.line with
      | some line => notAScript file line
      | none => return o

/-- The outline of the procedure for a script. Nothing is executed for it. -/
def check (source : Text) (lines : LineMap) (names : List Value) (mode : Mode) (file : Text) :
    Proc Outline := do
  refuseRepeated names
  let body ← parse file lines.line source
  let o ← outline mode (← nameTexts names) body
  approve o body lines mode file

/-- A procedure is checked first and then defined. -/
theorem construct_eq : construct I source lines names mode file = (do
    let o ← check source lines names mode file
    return ⟨← define I o mode lines file, names, mode, file⟩) := by
  have last (o : Outline) (body : List Stmt) : ofOutline I o body lines names mode file = (do
      let o ← approve o body lines mode file
      return ⟨← define I o mode lines file, names, mode, file⟩) := by
    unfold ofOutline approve
    split
    · rfl
    split
    · rfl
    cases firstFault? lines.line body with
    | some fault => rfl
    | none => cases o.fault? mode lines.line <;> rfl
  simp only [construct, check, ofStatements, last, bind_assoc]

theorem looks_notAScript {line : Int} : (notAScript file line : Proc α).Looks := .raise rfl

theorem looks_parse {moved : Nat → Int} {t : Text} : (parse file moved t).Looks := by
  unfold parse
  split
  · exact .error rfl
  refine .ite (.error rfl) ?_
  split
  · exact .ite (.error rfl) (.pure _)
  · exact looks_notAScript

theorem looks_typeName {v : Value} : (Eval.typeName v).Looks := .heap fun _ => .pure _

theorem looks_joinTexts {separator : Text} {index : Nat} {vs : List Value} :
    (Eval.joinTexts separator index vs).Looks := by
  induction index, vs using Eval.joinTexts.induct with
  | case1 index => exact .pure _
  | case2 index t vs ih => exact ih.bind fun _ => .pure _
  | case3 index v vs hv =>
    rw [Eval.joinTexts]
    · exact looks_typeName.bind fun _ => .error rfl
    · exact hv

theorem looks_outline {texts : List Text} {body : List Stmt} : (outline mode texts body).Looks :=
  looks_parse.bind fun stmts => by
    split
    · exact .pure _
    · exact looks_notAScript

theorem looks_approve {o : Outline} {body : List Stmt} :
    (approve o body lines mode file).Looks := by
  refine .ite (.error rfl) (.ite (.error rfl) ?_)
  split
  · exact .error rfl
  split
  · exact looks_notAScript
  · exact .pure _

theorem looks_check : (check source lines names mode file).Looks :=
  Looks.bind (.ite ((Looks.mapM looks_quoted names).bind fun _ => .error rfl) (.pure _)) fun _ =>
    looks_parse.bind fun _ => looks_joinTexts.bind fun _ => looks_outline.bind fun _ =>
      looks_approve

end Procedure

/-! ## Template files -/

namespace TemplateFile

variable {σ : Type} {world : (q : Request) → σ → q.Reply × σ} {s : σ} {m : Machine}

/-- Why a template cannot be read whose path was given as a text. -/
def fault (given : Text) (e : FileError) : Thrown :=
  if e.isSystem then
    { Thrown.plain .fileAccessError [.str (FileAccess.message given e.reason)] with
      detail := .path given (some e.type) }
  else .plain e.type [.str e.reason]

/-- The text of a template in the octets of its file. -/
def textOf (given : Text) : Except FileError Octets → Except Thrown Text
  | .error e => .error (fault given e)
  | .ok octets =>
    match Text.decode? octets with
    | some text => .ok text
    | none =>
      .error { Thrown.plain .fileAccessError [.str (FileAccess.message given FileAccess.notText)] with
        detail := .path given (some .unicodeDecodeError) }

theorem isA_of_textOf {given : Text} {reply : Except FileError Octets} {e : Thrown}
    (h : textOf given reply = .error e) : e.type.isA .exception := by
  unfold textOf at h
  split at h
  · next fe =>
    cases h
    cases fe <;> rfl
  · split at h <;> cases h
    rfl

/-- A template is read by one request. -/
theorem finish_read (given : Text) (path : Path) (mode : Mode) :
    (read given path mode m).finish world s =
      (Proc.ofVerdict ((textOf given (world (.read (m.directory.join path) mode) s).1).map
        (⟨m.directory.join path, ·⟩)) m).finish world
          (world (.read (m.directory.join path) mode) s).2 := by
  unfold read
  rw [Proc.bind_of_done (p := Proc.machine) rfl, Proc.finish_ask_bind]
  generalize (world (.read (m.directory.join path) mode) s).1 = reply
  cases reply with
  | error e =>
    simp only [textOf, fault]
    split <;> rfl
  | ok octets =>
    simp only [textOf]
    cases Text.decode? octets <;> rfl

end TemplateFile

/-- What says what is wrong with a template. -/
def Template.refusal (e : TemplateError) : Thrown :=
  { Thrown.plain .transpileError [.str e.message] with detail := .path e.path none }

/-! ## Contexts -/

namespace Context

/-- A value is accepted as a context: it is a mapping that grants `write`. -/
def Accepts (h : Heap) (context : Value) (r : Ref) : Prop :=
  context = .dict r ∧ grantsWrite (h.dict r)

/-- What says that a value is no context. -/
def refusal : Thrown :=
  .plain .contextError [.str "context must be a mapping including a 'write' function."]

/-- What a template in a directory is run with: its context, and what that lacks. -/
def completed (es : Entries) (directory : Path) (include_ : Value) : Entries :=
  bind es
    (if es.lacks "require" then some (.capability (.requirement directory)) else none)
    (if es.lacks "include" then some include_ else none)

/-- What a template in a directory is run with that may include others. -/
def supplied (es : Entries) (directory : Path) (context : Ref) (d : Delimiters) (mode : Mode) :
    Entries :=
  bind es
    (if es.lacks "require" then some (.capability (.requirement directory)) else none)
    (if es.lacks "include" then some (.capability (.inclusion directory context d mode)) else none)

/-- What is logged about what a context lacks. -/
def notices (es : Entries) (directory : Path) : List LogEntry :=
  (if es.lacks "require" then [.injected "require" directory] else []) ++
    if es.lacks "include" then [.injected "include" directory] else []

variable {context : Value} {r : Ref} {m : Machine}

theorem check_of_accepts (h : Accepts m.heap context r) : check context m = .done (.value r) m := by
  obtain ⟨rfl, hw⟩ := h
  change (if grantsWrite (m.heap.dict r) then pure r else refuse : Proc Ref) m = _
  rw [if_pos hw]
  rfl

theorem check_of_not_accepts (h : ∀ r, ¬ Accepts m.heap context r) :
    check context m = (Proc.raise refusal : Proc Ref) m := by
  unfold check
  split
  · next r =>
    change (if grantsWrite (m.heap.dict r) then pure r else refuse : Proc Ref) m = _
    rw [if_neg fun hw => h r ⟨rfl, hw⟩]
    rfl
  · rfl

/-- What a context lacks is logged; then what includes other templates is made, if that is lacking. -/
theorem build_eq (h : Accepts m.heap context r) {directory : Path}
    {factory : Path → Ref → Proc Value} :
    build context directory factory m =
      (if (m.heap.dict r).lacks "include" then
          completed (m.heap.dict r) directory <$> factory directory r
        else pure (completed (m.heap.dict r) directory .none) : Proc Entries)
        { m with log := m.log ++ (notices (m.heap.dict r) directory).toArray } := by
  unfold build
  rw [Proc.bind_of_done (check_of_accepts h), Proc.bind_of_done (p := Proc.heap) rfl]
  unfold completed notices
  have made (require : Option Value) : (do
        let v ← some <$> factory directory r
        return bind (m.heap.dict r) require v : Proc Entries) =
      (fun v => bind (m.heap.dict r) require (some v)) <$> factory directory r := by
    simp
  have logged (p : Proc Entries) {log log' : Array LogEntry} (h : log = log') :
      p { m with log } = p { m with log := log' } := h ▸ rfl
  cases (m.heap.dict r).lacks "require" <;> cases (m.heap.dict r).lacks "include"
  · exact logged (pure _) (by simp)
  · exact (congrFun (made none) _).trans (logged _ (Array.ext' (by simp)))
  · exact logged (pure _) (Array.ext' (by simp))
  · exact (congrFun (made (some _)) _).trans (logged _ (Array.ext' (by simp)))

theorem build_of_accepts (h : Accepts m.heap context r) {directory : Path} {d : Delimiters}
    {mode : Mode} :
    build context directory (fun directory parent =>
      return .capability (.inclusion directory parent d mode)) m =
    .done (.value (supplied (m.heap.dict r) directory r d mode))
      { m with log := m.log ++ (notices (m.heap.dict r) directory).toArray } := by
  rw [build_eq h]
  unfold supplied completed
  split <;> rfl

end Context

/-! ## Runs -/

namespace Run

/-- A run of a template from its creation on. -/
def start (I : Interp) (caller : Caller) (path : Path) (d : Delimiters) (mode : Mode)
    (context : Value) : Proc Unit := do
  let run ← create path d
  execute I caller run mode context

/-- The machine on which a new run stands in a state, with what it has logged. -/
def arrived (m : Machine) (path : Path) (d : Delimiters) (state : RunState)
    (entries : List LogEntry) : Machine :=
  { m with
    heap := (m.heap.alloc (.run ⟨path, d, state⟩)).2
    log := m.log ++ entries.toArray }

/-- The machine on which a new run has been turned away in a state, with what it has logged until
then. It has failed, and there is an exception. -/
def turnedAway (m : Machine) (path : Path) (d : Delimiters) (state : RunState)
    (entries : List LogEntry) (e : Thrown) : Machine :=
  { m with
    heap := ((m.heap.alloc (.run ⟨path, d, .failed⟩)).2.alloc (.exception e)).2
    log := m.log ++ (entries ++ [LogEntry.advanced m.next path state .failed]).toArray }

/-- A run ends because its template is turned away: with a new exception, on the machine that is
left then. Nothing has been written and no module been loaded, everything is as it was that has been
there before, and there is no new run but this one. -/
structure TurnedAway {σ : Type} (m : Machine) (path : Path) (d : Delimiters) (state : RunState)
    (entries : List LogEntry) (e : Thrown) (s : σ) (last : Outcome Unit × Machine × σ) : Prop where
  ends : last = (.raised (m.next + 1), turnedAway m path d state entries e, s)
  raised : last.2.1.heap.get? (m.next + 1) = some (.exception e)
  events : last.2.1.events = m.events
  modules : last.2.1.modules = m.modules
  kept : ∀ r o, m.heap.get? r = some o → last.2.1.heap.get? r = some o
  runs : ∀ r t, last.2.1.heap.get? r = some (.run t) → r = m.next ∨ m.heap.get? r = some (.run t)

variable {σ : Type} {world : (q : Request) → σ → q.Reply × σ} {s s' : σ} {I : Interp}
  {caller : Caller} {path : Path} {d : Delimiters} {mode : Mode} {context : Value} {m : Machine}
  {state : RunState} {entries : List LogEntry} {r : Ref}

theorem get_arrived :
    get m.next (arrived m path d state entries) =
      .done (.value ⟨path, d, state⟩) (arrived m path d state entries) := by
  have h := Heap.get?_alloc m.heap (.run ⟨path, d, state⟩)
  simp only [get, Proc.bind_eq, Proc.heap, Step.bind, arrived]
  simp only [Machine.next, Heap.alloc] at h ⊢
  rw [h]
  rfl

theorem advance_arrived (state' : RunState) :
    advance m.next state' (arrived m path d state entries) =
      .done (.value ())
        (arrived m path d state' (entries ++ [.advanced m.next path state state'])) := by
  refine (Proc.bind_of_done get_arrived).trans ?_
  refine (congrArg (fun heap => Step.done _ { m with heap, log := _ }) Heap.set_alloc).trans ?_
  exact congrArg (fun log => Step.done _ { m with heap := _, log }) (Array.ext' (by simp [arrived]))

theorem next_arrived : (arrived m path d state entries).next = m.next + 1 := Array.size_push _

/-- A new run is no dictionary. -/
theorem dict_arrived : (arrived m path d state entries).heap.dict r = m.heap.dict r := by
  simp only [Heap.dict, arrived, Heap.alloc, Heap.get?, Array.getElem?_push]
  by_cases hr : r = m.heap.objects.size <;> simp [hr]

theorem accepts_arrived :
    Context.Accepts (arrived m path d state entries).heap context r ↔
      Context.Accepts m.heap context r := by
  simp only [Context.Accepts, dict_arrived]

theorem raise_arrived {α : Type} {e : Thrown} :
    (Proc.raise e : Proc α) (arrived m path d state entries) =
      .done (.raised (m.next + 1)) ((arrived m path d state entries).threw e) :=
  congrArg (fun r => Step.done (Outcome.raised r) ((arrived m path d state entries).threw e))
    next_arrived

/-- An exception is where it has been raised. -/
theorem get?_threw {e : Thrown} :
    ((arrived m path d state entries).threw e).heap.get? (m.next + 1) = some (.exception e) := by
  rw [← next_arrived (m := m)]
  exact Heap.get?_alloc _ _

theorem create_eq : create path d m = .done (.value m.next) (arrived m path d .unstarted []) := by
  refine congrArg (fun log => Step.done _ { m with heap := _, log }) (Array.ext' ?_)
  simp

/-- A run that comes to an error in a state fails. -/
theorem advance_failed {e : Thrown} :
    advance m.next .failed ((arrived m path d state entries).threw e) =
      .done (.value ()) (turnedAway m path d state entries e) := by
  have hget : get m.next ((arrived m path d state entries).threw e) =
      .done (.value ⟨path, d, state⟩) ((arrived m path d state entries).threw e) := by
    have h : ((arrived m path d state entries).threw e).heap.get? m.next =
        some (.run ⟨path, d, state⟩) :=
      Heap.get?_alloc_of_get? (Heap.get?_alloc m.heap (.run ⟨path, d, state⟩))
    simp only [get, Proc.bind_eq, Proc.heap, Step.bind, h]
    rfl
  refine (Proc.bind_of_done hget).trans ?_
  refine (congrArg (fun heap => Step.done _ { m with heap, log := _ })
    Heap.set_alloc_alloc).trans ?_
  exact congrArg (fun log => Step.done _ { m with heap := _, log }) (Array.ext' (by simp [arrived,
    Machine.threw]))

theorem turnedAway_intro {e : Thrown} :
    TurnedAway m path d state entries e s'
      (.raised (m.next + 1), turnedAway m path d state entries e, s') where
  ends := rfl
  raised :=
    have h : ((arrived m path d .failed []).threw e).heap.get? _ = some (.exception e) := get?_threw
    h
  events := rfl
  modules := rfl
  kept _ _ ho := Heap.get?_alloc_of_get? (Heap.get?_alloc_of_get? ho)
  runs r t ht := by
    simp only [turnedAway, Heap.alloc, Heap.get?, Array.getElem?_push] at ht ⊢
    grind [Machine.next]

/-- A run whose stages come to an error is turned away. -/
theorem finish_start_of_raise {e : Thrown} (he : e.type.isA .exception)
    (h : (stages I caller m.next mode context (arrived m path d .unstarted [])).finish world s =
      (.raised (m.next + 1), (arrived m path d state entries).threw e, s')) :
    TurnedAway m path d state entries e s'
      ((start I caller path d mode context m).finish world s) := by
  have hthrown : ((arrived m path d state entries).threw e).heap.thrown? (m.next + 1) = some e := by
    rw [Heap.thrown?, get?_threw]
  suffices hends : (start I caller path d mode context m).finish world s = (.raised (m.next + 1),
      turnedAway m path d state entries e, s') from hends ▸ turnedAway_intro
  refine (congrArg (Step.finish world · s) (Proc.bind_of_done create_eq)).trans ?_
  refine Proc.finish_bind_raised ?_
  refine (Step.finish_bind _ _).trans ?_
  rw [h]
  change Step.finish world ((do
    if ((← Proc.heap).thrown? (m.next + 1)).any fun e => e.type.isA .exception then
      advance m.next .failed
    Proc.throw (m.next + 1) : Proc Unit) _) s' = _
  rw [Proc.bind_of_done (p := Proc.heap) rfl, hthrown]
  simp only [Option.any_some, he, if_true]
  rw [Proc.bind_of_done advance_failed]
  rfl

/-- A run passes from one state to another. -/
abbrev passage (m : Machine) (path : Path) (before after : RunState) : LogEntry :=
  .advanced m.next path before after

/-- What is logged until the procedure of a template is made, which is run with a context in which
the entries `es` are. -/
def entriesUntilMade (m : Machine) (path : Path) (es : Entries) (parts : Nat) (mode : Mode) :
    List LogEntry :=
  let file := m.directory.join path
  [passage m path .unstarted .reading, passage m path .reading .transpiling,
    .compiled file.text parts mode, passage m path .transpiling .contextBuilding] ++
    Context.notices es file.parent ++ [passage m path .contextBuilding .executing]

/-- The stages of a run from the one on in which its template is compiled. -/
def stagesOf (I : Interp) (caller : Caller) (run : Ref) (d : Delimiters) (mode : Mode)
    (context : Value) (file : TemplateFile) : Proc Unit := do
  advance run .transpiling
  let source ← Template.source d mode (some file.path.text) file.text
  advance run .contextBuilding
  let entries ← Context.build context file.directory fun directory parent =>
    return .capability (.inclusion directory parent d mode)
  advance run .executing
  let lines := source.lines.map Int.ofNat
  let procedure ←
    Procedure.construct I source.text lines (entries.map (·.1)) mode file.path.text
  let _ ← procedure.complete I caller (entries.map (·.2))
  return ()

/-- A context that is accepted: the file of the template is read. -/
theorem finish_stages (h : Context.Accepts m.heap context r) :
    (stages I caller m.next mode context (arrived m path d .unstarted [])).finish world s =
      ((do
        let file ← TemplateFile.read path.text path mode
        stagesOf I caller m.next d mode context file : Proc Unit)
          (arrived m path d .reading [passage m path .unstarted .reading])).finish world s := by
  unfold stages
  rw [Proc.bind_of_done (Context.check_of_accepts (accepts_arrived.2 h)),
    Proc.bind_of_done (advance_arrived _), Proc.bind_of_done get_arrived]
  rfl

/-- The text of the template is there: the run goes on with its file. -/
theorem finish_stages_of_text (h : Context.Accepts m.heap context r) {text : Text}
    (ht : TemplateFile.textOf path.text (world (.read (m.directory.join path) mode) s).1 =
      .ok text) :
    (stages I caller m.next mode context (arrived m path d .unstarted [])).finish world s =
      (stagesOf I caller m.next d mode context ⟨m.directory.join path, text⟩
        (arrived m path d .reading [passage m path .unstarted .reading])).finish world
          (world (.read (m.directory.join path) mode) s).2 := by
  refine (finish_stages h).trans (Proc.finish_bind_value (p := TemplateFile.read _ _ _) ?_)
  refine (TemplateFile.finish_read _ _ _).trans ?_
  change Step.finish world (Proc.ofVerdict (Except.map _
    (TemplateFile.textOf path.text (world (.read (m.directory.join path) mode) s).1)) _) _ = _
  rw [ht]
  rfl

/-- A template whose text is not there is turned away before it is compiled. -/
theorem turnedAway_of_unreadable (h : Context.Accepts m.heap context r) {e : Thrown}
    (he : TemplateFile.textOf path.text (world (.read (m.directory.join path) mode) s).1 =
      .error e) :
    TurnedAway m path d .reading [passage m path .unstarted .reading] e
      (world (.read (m.directory.join path) mode) s).2
      ((start I caller path d mode context m).finish world s) := by
  refine finish_start_of_raise (TemplateFile.isA_of_textOf he) ?_
  refine (finish_stages h).trans (Proc.finish_bind_raised (p := TemplateFile.read _ _ _) ?_)
  refine (TemplateFile.finish_read _ _ _).trans ?_
  change Step.finish world (Proc.ofVerdict (Except.map _
    (TemplateFile.textOf path.text (world (.read (m.directory.join path) mode) s).1)) _) _ = _
  rw [he]
  exact congrArg (Step.finish world · _) raise_arrived

theorem source_of_parts {file text : Text} {parts : List Part}
    (hp : Template.parts d mode text = .ok parts) :
    Template.source d mode (some file) text (arrived m path d state entries) =
      .done (.value (Source.ofParts parts))
        (arrived m path d state (entries ++ [.compiled file parts.length mode])) := by
  rw [Template.source, hp]
  exact congrArg (fun log => Step.done _ { m with heap := _, log }) (Array.ext' (by simp [arrived]))

theorem build_arrived (h : Context.Accepts m.heap context r) {directory : Path} :
    Context.build context directory (fun directory parent =>
      return .capability (.inclusion directory parent d mode)) (arrived m path d state entries) =
    .done (.value (Context.supplied (m.heap.dict r) directory r d mode))
      (arrived m path d state (entries ++ Context.notices (m.heap.dict r) directory)) := by
  rw [Context.build_of_accepts (accepts_arrived.2 h), dict_arrived]
  exact congrArg (fun log => Step.done _ { m with heap := _, log }) (Array.ext' (by simp [arrived]))

/-- The text is a template: the run goes on with the procedure for it. -/
theorem stagesOf_of_parts (h : Context.Accepts m.heap context r) {text : Text} {parts : List Part}
    (hp : Template.parts d mode text = .ok parts) :
    stagesOf I caller m.next d mode context ⟨m.directory.join path, text⟩
        (arrived m path d .reading [passage m path .unstarted .reading]) =
      (do
        let source := Source.ofParts parts
        let entries :=
          Context.supplied (m.heap.dict r) (m.directory.join path).parent r d mode
        let o ← Procedure.check source.text (source.lines.map Int.ofNat) (entries.map (·.1)) mode
          (m.directory.join path).text
        let function ← Procedure.define I o mode (source.lines.map Int.ofNat)
          (m.directory.join path).text
        let _ ← Procedure.complete I ⟨function, entries.map (·.1), mode,
          (m.directory.join path).text⟩ caller (entries.map (·.2))
        return () : Proc Unit)
        (arrived m path d .executing
          (entriesUntilMade m path (m.heap.dict r) parts.length mode)) := by
  unfold stagesOf
  rw [Proc.bind_of_done (advance_arrived _), Proc.bind_of_done (source_of_parts hp),
    Proc.bind_of_done (advance_arrived _), Proc.bind_of_done (build_arrived h),
    Proc.bind_of_done (advance_arrived _)]
  simp only [Procedure.construct_eq, bind_assoc, pure_bind, entriesUntilMade, List.cons_append,
    List.nil_append]
  rfl

/-- Templates are turned away in one order, in both ways to run them and where they are included.
A run whose context is not accepted is turned away without a request. Otherwise one request is asked,
for its file: if it cannot be read, the run is turned away before the template is compiled; if the
text is no template, before the context is completed; and if the procedure for it cannot be made,
before anything is executed. Options that are not given as such are read before there is a run. -/
theorem turned_away_in_order (I : Interp) :
    (∀ path context options, blocking I path context options = (do
      let o ← Options.coerce options
      start I .none (Path.ofText path) o.delimiters .blocking context)) ∧
    (∀ path context, suspending I path context =
      start I .none (Path.ofText path) Options.standard.delimiters .suspending context) ∧
    (∀ (caller : Caller) directory parent d mode target override,
      include_ I caller directory parent d mode target override =
        includeBy (fun path inherited =>
            start I (caller.deeper (inclusionDepth mode)) path d mode inherited)
          directory parent mode target override) ∧
    ∀ (caller : Caller) (path : Path) (d : Delimiters) (mode : Mode) (context : Value) (m : Machine)
      {σ : Type} (world : (q : Request) → σ → q.Reply × σ) (s : σ),
    let file := m.directory.join path
    let reply := world (.read file mode) s
    let last := (start I caller path d mode context m).finish world s
    ((∀ r, ¬ Context.Accepts m.heap context r) →
      TurnedAway m path d .unstarted [] Context.refusal s last) ∧
    ∀ r, Context.Accepts m.heap context r →
      (∀ e, TemplateFile.textOf path.text reply.1 = .error e →
        TurnedAway m path d .reading [passage m path .unstarted .reading] e reply.2 last) ∧
      ∀ text, TemplateFile.textOf path.text reply.1 = .ok text →
        (∀ fault, Template.parts d mode text = .error fault →
          TurnedAway m path d .transpiling
            [passage m path .unstarted .reading, passage m path .reading .transpiling]
            (Template.refusal (TemplateError.of (some file.text) fault.message)) reply.2 last) ∧
        ∀ parts, Template.parts d mode text = .ok parts →
          let entries := entriesUntilMade m path (m.heap.dict r) parts.length mode
          let made := arrived m path d .executing entries
          let source := Source.ofParts parts
          let names := (Context.supplied (m.heap.dict r) file.parent r d mode).map (·.1)
          let check := Procedure.check source.text (source.lines.map Int.ofNat) names mode file.text
          (∃ o, check made = .done (.value o) made) ∨
            ∃ e, check made = (Proc.raise e : Proc Procedure.Outline) made ∧
              TurnedAway m path d .executing entries e reply.2 last := by
  refine ⟨fun _ _ _ => rfl, fun _ _ => rfl, fun _ _ _ _ _ _ _ => rfl, ?_⟩
  intro caller path d mode context m σ world s file reply last
  refine ⟨fun h => ?_, fun r h => ⟨fun e he => ?_, fun text ht => ⟨fun fault hf => ?_,
    fun parts hp => ?_⟩⟩⟩
  · refine finish_start_of_raise rfl (Proc.finish_bind_raised ?_)
    rw [Context.check_of_not_accepts fun r hr => h r (accepts_arrived.1 hr), raise_arrived]
    rfl
  · exact turnedAway_of_unreadable h he
  · refine finish_start_of_raise rfl ?_
    rw [finish_stages_of_text h ht, stagesOf, Proc.bind_of_done (advance_arrived _)]
    refine Proc.finish_bind_raised ?_
    rw [Template.source, hf]
    exact congrArg (Step.finish world · _) raise_arrived
  · obtain ⟨v, hv, hm⟩ := Procedure.looks_check
      (arrived m path d .executing (entriesUntilMade m path (m.heap.dict r) parts.length mode))
    cases v with
    | ok o => exact .inl ⟨o, hm⟩
    | error e =>
      refine .inr ⟨e, hm, finish_start_of_raise (hv e rfl) ?_⟩
      rw [finish_stages_of_text h ht, stagesOf_of_parts h hp]
      refine Proc.finish_bind_raised ?_
      rw [hm]
      exact congrArg (Step.finish world · _) raise_arrived

/-- A machine with a context that grants `write`. -/
def hosting : Machine := { Machine.fresh Path.here with
  heap := ⟨#[.dict [(.str "write", .capability (.write 0 "write"))]]⟩ }

/-- A disk with one file. -/
def holding (octets : Octets) : Disk := ⟨[(["t"], some octets)]⟩

/-- What the run of a template at "t" ends with on that machine. -/
def ending (context : Value) (disk : Disk) : Outcome Unit × Machine × Disk :=
  (start Interp.standard .none (Path.ofText "t") Delimiters.standard .blocking context
    hosting).finish Disk.answer disk

/-- A run is turned away in each of the four ways: it has no context, or there is no file, or a
section of it is not ended, or there is a zero in one. -/
theorem turned_away_in_order_hosting :
    let path := Path.ofText "t"
    let d := Delimiters.standard
    let reading := passage hosting path .unstarted .reading
    let unclosed := holding [37, 123]
    let zero := holding [37, 123, 39, 0, 39, 125, 37]
    TurnedAway hosting path d .unstarted [] Context.refusal Disk.empty
      (ending .none Disk.empty) ∧
    TurnedAway hosting path d .reading [reading] (TemplateFile.fault "t" .missing) Disk.empty
      (ending (.dict 0) Disk.empty) ∧
    TurnedAway hosting path d .transpiling [reading, passage hosting path .reading .transpiling]
      (Template.refusal ⟨"t", "has an un-paired %\x7b"⟩) unclosed (ending (.dict 0) unclosed) ∧
    ∃ entries e, TurnedAway hosting path d .executing entries e zero (ending (.dict 0) zero) := by
  intro path d reading unclosed zero
  have h : Context.Accepts hosting.heap (.dict 0) 0 := ⟨rfl, by decide⟩
  have order := (turned_away_in_order Interp.standard).2.2.2 .none path d .blocking
  refine ⟨?_, ?_, ?_, ?_⟩
  · exact (order .none hosting Disk.answer Disk.empty).1 nofun
  · exact ((order (.dict 0) hosting Disk.answer Disk.empty).2 0 h).1 _ rfl
  · exact (((order (.dict 0) hosting Disk.answer unclosed).2 0 h).2 "%\x7b" rfl).1
      (.unpaired "%\x7b") rfl
  · -- `Template.parts` is opened once, so that the verdict on its parts is a closed fact
    have refused : ((Template.parts d .blocking "%\x7b'\x00'\x7d%").toOption.map fun parts =>
        (Procedure.check (Source.ofParts parts).text
          ((Source.ofParts parts).lines.map Int.ofNat)
          ((Context.supplied (hosting.heap.dict 0) (hosting.directory.join path).parent 0 d
            .blocking).map (·.1)) .blocking (hosting.directory.join path).text
          (arrived hosting path d .executing (entriesUntilMade hosting path (hosting.heap.dict 0)
            parts.length .blocking))).hasRaised) = some true := by decide +kernel
    cases hp : Template.parts d .blocking "%\x7b'\x00'\x7d%" with
    | error fault => simp [hp, Except.toOption] at refused
    | ok parts =>
      obtain ⟨o, ho⟩ | ⟨e, -, he⟩ :=
        (((order (.dict 0) hosting Disk.answer zero).2 0 h).2 "%\x7b'\x00'\x7d%" rfl).2 parts hp
      · simp [hp, Except.toOption, ho, Step.hasRaised] at refused
      · exact ⟨_, e, he⟩

end Run

end Stencil
