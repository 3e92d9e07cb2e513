import Stencil.Proofs.Run.Calm
import Stencil.Proofs.Run.Evaluation

/-!
# Calls, modules and runs have derivations

Calls are tied in by induction on how deep they may go. With them everything has derivations that a
template can lead to: functions, modules that it loads, procedures that are constructed, and runs of
the templates that it includes.

## Main definitions

* `Grant.Derives` — what capabilities do has derivations.
* `Run.opening`, `Run.performing` — the stages of a run up to the last, and the last one.

## Main results

* `Interp.derives_ofFuel` — calls have derivations.
* `Procedure.derivable_construct` — a procedure is constructed.
* `Module.derivable_require` — a module is loaded.
* `Run.derivable_execute` — a template is run.
-/

namespace Stencil

open Script

variable {K : Code → Prop} {A : Replies} {D : Path} {I : Interp} {α : Type}
  {handling : Option Ref}

/-! ## Calls -/

/-- The body of a function is executed. -/
theorem Closure.derivable_run (hI : I.Derives K A D) {f : Closure} (hf : f.IsKnown K)
    {caller : Caller} {scope : Ref} :
    Derivable K A D ⟨none, caller.handling⟩ (f.run I caller scope) := by
  obtain ⟨c, known, h⟩ := hf
  refine .enter known (.function I caller scope h) (.inr rfl) ?_
  have hframe : (f.frame caller scope).IsOf K c := ⟨known, h.file, h.lines⟩
  refine (derivable_execAll hI hframe f.body h.spots).bind fun flow => ?_
  cases flow <;> exact .pure

/-- What capabilities do has derivations, if calls have. -/
def Grant.Derives (K : Code → Prop) (A : Replies) (D : Path) (grant : Grant) : Prop :=
  ∀ I : Interp, I.Derives K A D → ∀ caller c args,
    Derivable K A D ⟨none, caller.handling⟩ (grant I caller c args)

namespace Eval

variable {grant : Grant} {caller : Caller}

theorem derivable_exercise (hg : Grant.Derives K A D grant) (hI : I.Derives K A D) {c : Capability}
    {args : List Value} : Derivable K A D ⟨none, caller.handling⟩ (exercise grant I caller c args) := by
  unfold exercise
  split
  · exact .calm (Proc.Calm.text.bind fun _ => .bind .emit fun _ => .pure)
  · exact .calm (.heap fun _ => .bind .emit fun _ => .pure)
  · exact hg I hI caller _ _

theorem derivable_call (hg : Grant.Derives K A D grant) (hI : I.Derives K A D) {v : Value}
    {args : List Value} {named : Names} :
    Derivable K A D ⟨none, caller.handling⟩ (call grant I caller v args named) := by
  unfold call
  split
  · refine .heap fun h hk => ?_
    split
    · next f hr =>
      have hf : f.IsKnown K := hk _ _ f hr rfl
      refine .bind (.calm Closure.calm_enter) fun scope => ?_
      split
      · exact Closure.derivable_run hI hf
      · exact .calm (calm_suspend fun g s hg => by cases hg; exact hf)
    · exact .pure
  · exact .calm calm_native
  · exact .calm calm_method
  · exact .calm calm_unboundMethod
  · exact .calm calm_instantiate
  · refine .bind (.calm Capability.calm_arguments) fun values => ?_
    split
    · exact derivable_exercise hg hI
    · exact .calm (calm_suspend fun _ _ h => nomatch h)
  · exact .calm (calm_typeName.bind fun _ => .error)

theorem derivable_await (hg : Grant.Derives K A D grant) (hI : I.Derives K A D) {v : Value} :
    Derivable K A D ⟨none, caller.handling⟩ (await grant I caller v) := by
  unfold await
  split
  · refine fun m hm => .heap ?_
    split
    · next p hr =>
      have put : (Proc.put _ (.coroutine .finished)).CalmAt K m :=
        .put rfl (fun _ h => by cases h) (Heap.thrown?_eq_none hr fun _ h => by cases h)
      refine Derivable.calmBind hm put .modify fun _ => ?_
      split
      · exact .layer .guard trivial ⟨rfl, rfl⟩ trivial (Closure.derivable_run hI (hm.knows _ _ _ hr rfl))
      · exact .layer .guard trivial ⟨rfl, rfl⟩ trivial (derivable_exercise hg hI)
      · exact .calm .error
    · exact Derivable.pure m hm
  · exact .calm (calm_typeName.bind fun _ => .error)

end Eval

/-- Calls have derivations, by induction on how deep they may go. -/
theorem Interp.derives_ofFuel {grant : Grant} (hg : Grant.Derives K A D grant) (limit depth : Nat)
    (fuel : Nat) : (ofFuel grant limit depth fuel).Derives K A D := by
  induction fuel with
  | zero => exact ⟨fun _ _ _ _ => .exhausted, fun _ _ => .exhausted⟩
  | succ fuel ih =>
    exact ⟨fun _ _ _ _ => .bind (.calm calm_enter) fun _ => Eval.derivable_call hg ih,
      fun _ _ => .bind (.calm calm_enter) fun _ => Eval.derivable_await hg ih⟩

/-! ## Procedures -/

theorem Names.get?_set {id : Text} {v : Value} (names : Names) :
    Names.get? (Names.set id v names) id = some v := by
  induction names with
  | nil => simp [Names.set, Names.get?]
  | cons entry rest ih =>
    obtain ⟨i, w⟩ := entry
    by_cases h : i = id
    · simp [Names.set, Names.get?, h]
    · simpa [Names.set, Names.get?, h] using ih

namespace Procedure

/-- The script with which a procedure is defined. -/
def headOf (o : Outline) (mode : Mode) : List Stmt :=
  .define o.span (mode = .suspending) id o.params o.returns o.body :: o.rest

/-- A name of a module that has been bound to a new function stands for this function. -/
theorem function_of_bound {h : Heap} {globals r : Ref} {id : Text} {f g : Closure}
    (hr : (((h.alloc (.function f)).2.updateNames globals
      (Names.set id (.function (h.alloc (.function f)).1))).namesOfModule globals).get? id =
        some (.function r))
    (hg : ((h.alloc (.function f)).2.updateNames globals
      (Names.set id (.function (h.alloc (.function f)).1))).get? r = some (.function g)) :
    g = f := by
  have hnew := Heap.get?_alloc h (.function f)
  generalize (h.alloc (.function f)).1 = new at *
  generalize (h.alloc (.function f)).2 = h₁ at *
  unfold Heap.updateNames at hr hg
  split at hr
  · next owned bound ho =>
    simp [Heap.namesOfModule, Heap.get?_set ho, Names.get?] at hr
  · next i names ho =>
    have hne : globals ≠ new := by
      rintro rfl
      rw [ho] at hnew
      cases hnew
    simp only [Heap.namesOfModule, Heap.get?_set ho, Names.get?_set, Option.some.injEq,
      Value.function.injEq] at hr
    simp only [ho] at hg
    subst hr
    rw [Heap.get?_set_of_ne hne, hnew] at hg
    obtain ⟨⟩ := hg
    rfl
  · next hn hm =>
    unfold Heap.namesOfModule at hr
    split at hr
    · next i names ho => exact absurd ho (hm i names)
    · cases hr

/-- The function with a name, if the statement that defines it has been executed in a module: it is
the one of the statement. -/
theorem ensures_define {f : Frame} {s : Span} {suspending : Bool} {id : Text} {params : Params}
    {returns : Option Expr} {body : List Stmt} {globals : Ref} (hf : f.own = globals) :
    ((Stmt.define s suspending id params returns body).exec I f).Ensures fun _ m =>
      ∀ r g, (m.heap.namesOfModule globals).get? id = some (.function r) →
        m.heap.get? r = some (.function g) → g.file = f.file ∧ g.body = body := by
  simp only [Stmt.exec]
  refine Proc.ensures_bind fun defaults => Proc.ensures_bind fun _ => Proc.ensures_bind fun _ => ?_
  intro m r g hr hg
  subst hf
  obtain rfl := function_of_bound hr hg
  exact ⟨rfl, rfl⟩

theorem derivable_defineIn (hI : I.Derives K A D) (free : ∀ c : Code, c.lines = [] → K c)
    {o : Outline} {mode : Mode} {lines : LineMap} {f : Frame} (hscopes : f.scopes = [])
    (hlines : f.lines = []) (hhandling : f.handling = none) (known : K ⟨f.file, lines, spotsOf o.body⟩) :
    Derivable K A D ⟨none, handling⟩ (defineIn I o mode lines f) := by
  have hf : f.IsOf K ⟨f.file, [], spotsOf (headOf o mode)⟩ := ⟨free _ rfl, rfl, hlines⟩
  refine .enter hf.known (.head I hscopes rfl hlines) (.inl hhandling) ?_
  have hspots : (spotsOf (headOf o mode)) ⊆ spotsOf (headOf o mode) := fun _ h => h
  simp only [headOf, spotsOf, List.append_subset] at hspots
  have ends : Derivable K A D (f.standing ⟨f.file, [], spotsOf (headOf o mode)⟩) (do
      let _ ← execAll I f o.rest
      return ((← Proc.heap).namesOfModule f.globals |>.get? id).getD .none) :=
    (derivable_execAll hI hf o.rest hspots.2).bind fun _ => .heap fun _ _ => .pure
  have own : f.own = f.globals := by rw [Frame.own, hscopes, List.headD_nil]
  refine (Stmt.derivable_exec hI hf _ hspots.1).bindEnsures (ensures_define own)
    fun _ m he hk => .heap ?_
  split
  · next r hr =>
    refine .heap ?_
    split
    · next g hg =>
      obtain ⟨hfile, hbody⟩ := he r g hr hg
      have put : (Proc.put r (.function { g with lines })).CalmAt K m := by
        intro A o m' h
        obtain ⟨rfl, rfl⟩ := (Proc.goes_of_done rfl).1 h
        refine ⟨.set (fun g' hg' => ?_) (fun _ h => by cases h) fun h => ?_, fun _ h => by cases h⟩
        · obtain rfl := Option.some.inj hg'
          exact ⟨_, known, hfile, rfl, fun p hp => by rwa [← hbody]⟩
        · rw [Heap.thrown?_eq_none hg fun _ h => by cases h] at h
          cases h
      exact Derivable.calmBind hk put .modify fun _ => ends
    · exact ends m hk
  · exact ends m hk

/-- Statements are what the function of a procedure executes whose script is written in a text: those
of the script, or if there are none those that the head of the function brings with it. -/
inductive IsBodyOf (source : Text) : List Stmt → Prop
  | own {body : List Stmt} (h : Script.parse source = .ok body) : IsBodyOf source body
  | head {mode : Mode} {names : List Text} {s : Span} {suspending : Bool} {id : Text}
      {params : Params} {returns : Option Expr} {empty rest : List Stmt}
      (none : Script.parse source = .ok [])
      (h : Script.parse (Procedure.head mode names) =
        .ok (.define s suspending id params returns empty :: rest)) : IsBodyOf source empty

theorem ensures_parse {file t : Text} {moved : Nat → Int} :
    (parse file moved t).Ensures fun stmts _ => Script.parse t = .ok stmts := by
  unfold parse
  split
  · exact Proc.ensures_error
  · refine .ite Proc.ensures_error ?_
    split
    · next h => exact .ite Proc.ensures_error (.pure fun _ => h)
    · exact fun _ => trivial

/-- An outline for statements has them as its body, or has none but those of its head. -/
theorem ensures_outline {source : Text} {mode : Mode} {names : List Text} {body : List Stmt}
    (h : Script.parse source = .ok body) :
    (outline mode names body).Ensures fun o _ => IsBodyOf source o.body := by
  refine ensures_parse.bind fun stmts m hs => ?_
  revert m
  change Proc.Ensures _ _
  split
  · refine .pure fun _ => ?_
    dsimp only
    split
    · next he =>
      obtain rfl := List.isEmpty_iff.1 he
      exact .head h hs
    · exact .own h
  · exact fun _ => trivial

theorem ensures_approve {o : Outline} {body : List Stmt} {lines : LineMap} {mode : Mode}
    {file : Text} {P : Outline → Prop} (h : P o) :
    (approve o body lines mode file).Ensures fun o _ => P o := by
  refine .ite Proc.ensures_error (.ite Proc.ensures_error ?_)
  split
  · exact Proc.ensures_error
  · split
    · exact fun _ => trivial
    · exact .pure fun _ => h

theorem ensures_check {source file : Text} {lines : LineMap} {names : List Value} {mode : Mode} :
    (check source lines names mode file).Ensures fun o _ => IsBodyOf source o.body :=
  Proc.ensures_bind fun _ => ensures_parse.bind fun _ m h =>
    Proc.ensures_bind (fun _ => (ensures_outline h).bind fun _ m ho => ensures_approve ho m) m

theorem derivable_define (hI : I.Derives K A D) (free : ∀ c : Code, c.lines = [] → K c)
    {o : Outline} {mode : Mode} {lines : LineMap} {file : Text}
    (known : K ⟨file, lines, spotsOf o.body⟩) :
    Derivable K A D ⟨none, handling⟩ (define I o mode lines file) :=
  .bind (.calm (.allocPlain rfl fun _ h => nomatch h)) fun _ =>
    derivable_defineIn hI free rfl rfl rfl known

/-- A procedure is constructed. -/
theorem derivable_construct (hI : I.Derives K A D) (free : ∀ c : Code, c.lines = [] → K c)
    {source file : Text} {lines : LineMap} {names : List Value} {mode : Mode}
    (known : ∀ body, IsBodyOf source body → K ⟨file, lines, spotsOf body⟩) :
    Derivable K A D ⟨none, handling⟩ (construct I source lines names mode file) := by
  rw [construct_eq]
  exact (Derivable.calm calm_check).bindEnsures ensures_check fun o m ho hk =>
    ((derivable_define hI free (known o.body ho)).bind fun _ => .pure) m hk

/-- A procedure is called. -/
theorem derivable_complete (hI : I.Derives K A D) {p : Procedure} {caller : Caller}
    {args : List Value} : Derivable K A D ⟨none, caller.handling⟩ (p.complete I caller args) := by
  refine .bind (.ite (hI.call _ _ _ _) (.calm .error)) fun v => ?_
  split
  · exact .pure
  · exact hI.await _ _

end Procedure

/-! ## Modules -/

namespace Module

/-- The file of a module is executed. -/
theorem derivable_execute (hI : I.Derives K A D) (free : ∀ c : Code, c.lines = [] → K c)
    {caller : Caller} {resolved : Path} {r : Ref} :
    Derivable K A D ⟨none, caller.handling⟩ (execute I caller resolved r) := by
  refine .bind (.calm .ask) fun reply => ?_
  split
  · exact .calm calm_pathError
  · refine .bind (.calm calm_scriptOf) fun stmts => .bind (.calm Interp.calm_enter) fun _ => ?_
    have known : K ⟨resolved.text, [], spotsOf stmts⟩ := free _ rfl
    exact .bind (.enter known (.module_ I rfl ⟨rfl, rfl, fun _ h => h⟩) (.inr rfl)
      (derivable_execAll hI ⟨known, rfl, rfl⟩ stmts fun _ h => h)) fun _ => .pure

/-- The module in a file is loaded. -/
theorem derivable_load (hI : I.Derives K A D) (free : ∀ c : Code, c.lines = [] → K c)
    {caller : Caller} {path : Path} :
    Derivable K A D ⟨none, caller.handling⟩ (load I caller path) := by
  refine .bind (.calm calm_candidate) fun _ => .bind (.calm calm_resolve) fun resolved =>
    .bind (.calm calm_loaded?) fun found => ?_
  split
  · exact .pure
  · refine .bind (.calm calm_probe) fun _ => .ite (.calm .error) (.ite (.calm .error) ?_)
    exact .bind (.calm (.allocPlain rfl fun _ h => nomatch h)) fun r =>
      .bind (.calm calm_keep) fun _ =>
        .bind (.layer (.forget resolved.text) trivial ⟨rfl, rfl⟩ trivial (derivable_execute hI free))
          fun _ => .pure

/-- The module that a template asks for. -/
theorem derivable_require (hI : I.Derives K A D) (free : ∀ c : Code, c.lines = [] → K c)
    {caller : Caller} {directory : Path} {v : Value} :
    Derivable K A D ⟨none, caller.handling⟩ (require I caller directory v) := by
  unfold require
  split
  · exact .ite (derivable_load hI free) (.calm calm_named)
  · exact .calm Eval.calm_noAttribute

end Module

/-! ## Runs -/

namespace Run

/-- The stages of a run up to the last one, which is reached with the template file, what has been
made of it, and what the procedure is called with. -/
def opening (mode : Mode) (context : Value) (run : Ref) :
    Proc (TemplateFile × Source × Entries) := do
  let _ ← Context.check context
  advance run .reading
  let r ← get run
  let file ← TemplateFile.read r.path.text r.path mode
  advance run .transpiling
  let source ← Template.source r.delimiters mode (some file.path.text) file.text
  advance run .contextBuilding
  let entries ← supply context mode r.delimiters file.directory
  advance run .executing
  return (file, source, entries)

/-- The last stage of a run. -/
def performing (I : Interp) (caller : Caller) (mode : Mode) :
    TemplateFile × Source × Entries → Proc Unit
  | (file, source, entries) => do
    let procedure ← Procedure.construct I source.text (source.lines.map Int.ofNat)
      (entries.map (·.1)) mode file.path.text
    let _ ← procedure.complete I caller (entries.map (·.2))
    return ()

theorem execute_eq_concluding (I : Interp) (caller : Caller) (run : Ref) (mode : Mode)
    (context : Value) : execute I caller run mode context =
      concluding run (opening mode context run >>= performing I caller mode) := by
  have stages_eq : stages I caller run mode context =
      opening mode context run >>= performing I caller mode := by
    simp only [stages, opening, performing, supply, bind_assoc, pure_bind]
  rw [execute, stages_eq]
  rfl

/-- A process passes a run on through the stages that follow the first ones, and through all of them
if it comes to a value. -/
def Climbs (K : Code → Prop) (run : Ref) (k : Nat) (p : Proc α) : Prop :=
  ∀ A m o m', m.HasOther run → p.Goes A m o m' → ∃ j, k ≤ j ∧
    m.Grows K (((RunState.stages.take j).drop k).map (run, ·)) m' ∧
    (∀ a, o = .value a → j = 4) ∧ ∀ r, o = .raised r → m'.IsNew m r

namespace Climbs

variable {β : Type} {run : Ref} {k : Nat} {p : Proc β} {f : β → Proc α}

theorem pure {a : α} : Climbs K run 4 (Pure.pure a : Proc α) := by
  intro A m o m' _ h
  obtain ⟨rfl, rfl⟩ := Proc.goes_pure.1 h
  exact ⟨4, Nat.le_refl 4, .refl K m', fun _ _ => rfl, fun _ h => nomatch h⟩

theorem bind (hp : p.Calm K) (hf : ∀ a, Climbs K run k (f a)) : Climbs K run k (p >>= f) := by
  intro A m o m' hr h
  have still : ((RunState.stages.take k).drop k).map (run, ·) = [] := by simp
  obtain ⟨a, m₁, h₁, h₂⟩ | ⟨r, h₁, rfl⟩ | ⟨h₁, rfl⟩ := Proc.goes_bind.1 h
  · have before := (hp _ _ _ _ h₁).1
    obtain ⟨j, hj, grows, all, new⟩ := hf a A m₁ o m' (before.hasOther hr) h₂
    exact ⟨j, hj, before.trans grows, all,
      fun r hr => ⟨Nat.le_trans before.size (new r hr).1, (new r hr).2⟩⟩
  · obtain ⟨grows, new⟩ := hp _ _ _ _ h₁
    refine ⟨k, Nat.le_refl k, still ▸ grows, fun _ h => (nomatch h), ?_⟩
    rintro _ ⟨⟩
    exact new r rfl
  · exact ⟨k, Nat.le_refl k, still ▸ (hp _ _ _ _ h₁).1, fun _ h => (nomatch h),
      fun _ h => nomatch h⟩

theorem advance {state : RunState} {f : Unit → Proc α} (hk : RunState.stages[k]? = some state)
    (hf : Climbs K run (k + 1) (f ())) : Climbs K run k (advance run state >>= f) := by
  intro A m o m' hr h
  rw [Proc.Goes, Proc.bind_of_done (advance_eq m run state)] at h
  have before : m.Grows K [(run, state)] (m.advanced run state) := .advanced hr
  obtain ⟨j, hj, grows, all, new⟩ := hf A _ o m' (before.hasOther hr) h
  have step : (RunState.stages.take j).drop k = state :: (RunState.stages.take j).drop (k + 1) := by
    obtain ⟨hlt, hget⟩ := List.getElem?_eq_some_iff.1 hk
    rw [List.drop_eq_getElem_cons (by simp; omega), List.getElem_take, hget]
  refine ⟨j, Nat.le_of_succ_le hj, step ▸ before.trans grows, all, fun r hr => ?_⟩
  exact ⟨Nat.le_trans before.size (new r hr).1, (new r hr).2⟩

end Climbs

theorem calm_get {run : Ref} : (get run).Calm K := .heap fun _ => by
  split
  · exact .pure
  · exact .pure

/-- Until the last stage a run does nothing but to pass through its stages. -/
theorem climbs_opening {mode : Mode} {context : Value} {run : Ref} :
    Climbs K run 0 (opening mode context run) :=
  .bind Context.calm_check fun _ => .advance rfl <| .bind calm_get fun _ =>
    .bind TemplateFile.calm_read fun _ => .advance rfl <| .bind Template.calm_source fun _ =>
      .advance rfl <| .bind (Context.calm_build fun _ _ => .pure) fun _ => .advance rfl .pure

end Run

/-- Code of templates as it may be executed: a file has been read, as seen from a directory, its text
is a template, and the statements are those that the source of the template is made up of. The code
says that it comes from the path of the file, by the lines that the source keeps. -/
inductive Code.IsTemplate (A : Replies) (D : Path) : Code → Prop
  | intro {path : Path} {mode : Mode} {octets : Octets} {text : Text} {d : Delimiters}
      {parts : List Part} {body : List Stmt}
      (read : A (.read (D.join path) mode) (.ok octets))
      (decoded : Text.decode? octets = some text) (compiled : Template.parts d mode text = .ok parts)
      (written : Procedure.IsBodyOf (Source.ofParts parts).text body) :
      IsTemplate A D ⟨(D.join path).text, (Source.ofParts parts).lines.map Int.ofNat, spotsOf body⟩

/-- Code that is executed while templates are run: that of a template, or code without a map of its
lines, as that of modules and of the heads of functions is. -/
def Code.IsRun (A : Replies) (D : Path) (c : Code) : Prop := c.lines = [] ∨ c.IsTemplate A D

namespace Run

/-- A process that comes to a value through another one. -/
theorem goes_value {β : Type} {m m' : Machine} {p : Proc β} {f : β → Proc α} {a : α}
    (h : (p >>= f).Goes A m (.value a) m') :
    ∃ b m₁, p.Goes A m (.value b) m₁ ∧ (f b).Goes A m₁ (.value a) m' := by
  obtain h | ⟨r, -, h⟩ | ⟨-, h⟩ := Proc.goes_bind.1 h
  · exact h
  · nomatch h
  · nomatch h

/-- A template file that has been read is what a reply holds. -/
theorem goes_read {given : Text} {path : Path} {mode : Mode} {file : TemplateFile}
    {m m' : Machine} (h : (TemplateFile.read given path mode).Goes A m (.value file) m') :
    ∃ octets, A (.read (m.directory.join path) mode) (.ok octets) ∧
      Text.decode? octets = some file.text ∧ file.path = m.directory.join path := by
  obtain ⟨reply, m₁, hask, h⟩ := goes_value (p := Proc.ask _) h
  obtain ⟨_, hA, hv, rfl⟩ | ⟨hv, -⟩ := Proc.goes_ask hask
  · obtain rfl := Outcome.value.inj hv
    match reply with
    | .error e =>
      dsimp only at h
      split at h
      · nomatch (Proc.goes_raise.1 h).1
      · nomatch (Proc.goes_raise.1 h).1
    | .ok octets =>
      cases hd : Text.decode? octets with
      | some text =>
        simp only [hd] at h
        obtain ⟨hv, -⟩ := Proc.goes_pure.1 h
        obtain rfl := Outcome.value.inj hv
        exact ⟨octets, hA, hd, rfl⟩
      | none =>
        simp only [hd] at h
        nomatch (Proc.goes_raise.1 h).1
  · nomatch hv

/-- The source of a template is made of its parts. -/
theorem ensures_source {d : Delimiters} {mode : Mode} {name : Option Text} {text : Text} :
    (Template.source d mode name text).Ensures fun source _ =>
      ∃ parts, Template.parts d mode text = .ok parts ∧ source = Source.ofParts parts := by
  unfold Template.source
  split
  · exact fun _ => trivial
  · next parts h => exact Proc.ensures_bind fun _ => .pure fun _ => ⟨parts, h, rfl⟩

/-- What the last stage of a run is reached with is made of a file that has been read. -/
theorem isTemplate_of_goes {mode : Mode} {context : Value} {run : Ref} {file : TemplateFile}
    {source : Source} {entries : Entries} {m m' : Machine} {body : List Stmt}
    (h : (opening mode context run).Goes A m (.value (file, source, entries)) m')
    (hb : Procedure.IsBodyOf source.text body) : Code.IsTemplate A m.directory
      ⟨file.path.text, source.lines.map Int.ofNat, spotsOf body⟩ := by
  obtain ⟨_, m₁, checked, h⟩ := goes_value h
  obtain ⟨_, m₂, reading, h⟩ := goes_value h
  obtain ⟨r, m₃, got, h⟩ := goes_value h
  obtain ⟨_, m₄, read, h⟩ := goes_value h
  obtain ⟨_, m₅, -, h⟩ := goes_value h
  obtain ⟨_, m₆, compiled, h⟩ := goes_value h
  obtain ⟨_, m₇, -, h⟩ := goes_value h
  obtain ⟨_, m₈, -, h⟩ := goes_value h
  obtain ⟨_, m₉, -, h⟩ := goes_value h
  obtain ⟨hv, -⟩ := Proc.goes_pure.1 h
  obtain ⟨rfl, rfl, rfl⟩ := by simpa using hv
  obtain ⟨-, rfl⟩ := (Proc.goes_of_done (advance_eq m₁ run .reading)).1 reading
  have same : m₃.directory = m.directory :=
    ((calm_get (K := fun _ => True) _ _ _ _ got).1.directory).trans
      (Context.calm_check (K := fun _ => True) _ _ _ _ checked).1.directory
  obtain ⟨octets, hA, hd, hp⟩ := goes_read read
  obtain ⟨parts, hparts, rfl⟩ := (ensures_source _).goes compiled
  rw [hp, same] at *
  exact .intro hA hd hparts hb

/-- The last stage of a run. -/
theorem derivable_performing (hI : I.Derives K A D) (hK : ∀ c, Code.IsRun A D c → K c)
    {caller : Caller} {mode : Mode} {file : TemplateFile} {source : Source} {entries : Entries}
    (known : ∀ body, Procedure.IsBodyOf source.text body → Code.IsTemplate A D
      ⟨file.path.text, source.lines.map Int.ofNat, spotsOf body⟩) :
    Derivable K A D ⟨none, caller.handling⟩ (performing I caller mode (file, source, entries)) :=
  .bind (Procedure.derivable_construct hI (fun c hc => hK c (.inl hc)) fun body hb =>
      hK _ (.inr (known body hb))) fun _ =>
    .bind (Procedure.derivable_complete hI) fun _ => .pure

/-- A run of a template from its creation on. -/
theorem derivable_start (hI : I.Derives K A D) (hK : ∀ c, Code.IsRun A D c → K c) {caller : Caller}
    {path : Path} {d : Delimiters} {mode : Mode} {context : Value} :
    Derivable K A D ⟨none, caller.handling⟩ (start I caller path d mode context) := by
  intro m hm o m' h
  simp only [start, execute_eq_concluding] at h ⊢
  have created : m.Grows K [] (m.created path d) := .created
  rw [Proc.Goes, Proc.bind_of_done (create_eq_created m path d)] at h
  obtain ⟨o₁, m₂, h, rest⟩ := goes_concluding.1 h
  obtain ⟨a, m₁, h₁, h₂⟩ | ⟨r, h₁, rfl⟩ | ⟨h₁, rfl⟩ := Proc.goes_bind.1 h
  · obtain ⟨j, -, grows, all, new⟩ := climbs_opening _ _ _ _ Machine.hasOther_created h₁
    obtain rfl := all a rfl
    obtain ⟨file, source, entries⟩ := a
    have minds : m₁.Minds K D :=
      ⟨grows.knows (created.knows hm.knows), grows.directory.trans hm.directory⟩
    refine .run ⟨h₁, grows, all, new⟩ (derivable_performing hI hK (fun body hb => ?_) _ minds _ _ h₂)
      rest
    have hd : (m.created path d).directory = D := hm.directory
    exact hd ▸ isTemplate_of_goes h₁ hb
  · obtain ⟨j, -, grows, all, new⟩ := climbs_opening _ _ _ _ Machine.hasOther_created h₁
    refine .stopped ⟨h₁, grows, all, new⟩ ?_ ?_ rest
    · exact fun _ h => by cases h
    · exact ⟨rfl, fun _ h => by cases h⟩
  · obtain ⟨j, -, grows, all, new⟩ := climbs_opening _ _ _ _ Machine.hasOther_created h₁
    refine .stopped ⟨h₁, grows, all, new⟩ ?_ ?_ rest
    · exact fun _ h => by cases h
    · exact ⟨rfl, fun _ h => by cases h⟩

/-- A template is included. -/
theorem derivable_include (hI : I.Derives K A D) (hK : ∀ c, Code.IsRun A D c → K c)
    {caller : Caller} {directory : Path} {context : Ref} {d : Delimiters} {mode : Mode}
    {target override : Value} :
    Derivable K A D ⟨none, caller.handling⟩
      (include_ I caller directory context d mode target override) := by
  have starts (path : Path) (context : Value) :
      Derivable K A D ⟨none, (caller.deeper (inclusionDepth mode)).handling⟩
        (start I (caller.deeper (inclusionDepth mode)) path d mode context) := derivable_start hI hK
  exact .bind (.calm calm_pathOf) fun _ => .bind (.calm (.log rfl)) fun _ =>
    .bind (.calm Context.calm_inherit) fun inherited => .bind (starts _ inherited) fun _ => .pure

/-- What the capabilities do that a run supplies. -/
theorem derives_grant (hK : ∀ c, Code.IsRun A D c → K c) : Grant.Derives K A D grant := by
  intro I hI caller c args
  unfold grant
  split
  · exact derivable_include hI hK
  · exact Module.derivable_require hI fun c hc => hK c (.inl hc)
  · exact .pure

end Run

/-- Calls have derivations when capabilities do what a run supplies. -/
theorem Interp.derives_run (hK : ∀ c, Code.IsRun A D c → K c) (limit depth fuel : Nat) :
    (ofFuel Run.grant limit depth fuel).Derives K A D :=
  derives_ofFuel (Run.derives_grant hK) limit depth fuel

end Stencil
