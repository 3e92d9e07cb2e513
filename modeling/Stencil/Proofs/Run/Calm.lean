import Stencil.Proofs.Eval.Calm
import Stencil.Proofs.Run.Refusal

/-!
# What runs do between is calm

Whatever a run does apart from passing on and executing scripts goes on in one go: contexts are
checked and built, files are read, templates and scripts are made out, modules are looked for.

## Main results

* `Context.calm_check`, `Context.calm_build`, `Context.calm_inherit` — contexts.
* `TemplateFile.calm_read`, `Template.calm_source` — templates.
* `Procedure.calm_parse`, `Procedure.calm_outline` — scripts.
* `Module.calm_named`, `Module.calm_candidate`, `Module.calm_scriptOf` — modules.
-/

namespace Stencil

open Script Proc

variable {K : Code → Prop} {α : Type}

/-! ## Contexts -/

namespace Context

theorem calm_refuse : (refuse : Proc α).Calm K := .error

theorem calm_check {v : Value} : (check v).Calm K := by
  unfold check
  split
  · exact .heap fun _ => .ite .pure calm_refuse
  · exact calm_refuse

/-- The entries of a run, if the making of what includes other templates is calm. -/
theorem calm_build {context : Value} {directory : Path} {factory : Path → Ref → Proc Value}
    (hf : ∀ directory r, (factory directory r).Calm K) :
    (build context directory factory).Calm K := by
  refine calm_check.bind fun r => .heap fun h => ?_
  have injected (id : String) : (Proc.log (.injected id directory)).Calm K := .log rfl
  have rest (require : Option Value) : Calm K (if (h.dict r).lacks "include" then do
      Proc.log (.injected "include" directory)
      let include_ ← some <$> factory directory r
      return bind (h.dict r) require include_
    else do
      let include_ ← Pure.pure none
      return bind (h.dict r) require include_) :=
    .ite (.bind (injected _) fun _ => .bind ((hf directory r).bind fun _ => .pure) fun _ => .pure)
      (.bind .pure fun _ => .pure)
  exact .ite (.bind (injected _) fun _ => .bind .pure rest) (.bind .pure rest)

theorem calm_inherit {context : Ref} {override : Value} : (inherit context override).Calm K :=
  .heap fun _ => by
    split
    · exact Eval.calm_newDict
    · exact Eval.calm_newDict
    · exact .error

end Context

/-! ## Templates -/

namespace TemplateFile

theorem calm_unreadable {given reason : Text} {cause : ExceptionClass} :
    (unreadable given reason cause : Proc α).Calm K := .raise rfl

theorem calm_read {given : Text} {path : Path} {mode : Mode} : (read given path mode).Calm K :=
  .machine fun m => Calm.ask.bind fun reply => by
    split
    · exact .ite calm_unreadable .error
    · split
      · exact .pure
      · exact calm_unreadable

end TemplateFile

namespace Template

theorem calm_refuse {e : TemplateError} : (refuse e : Proc α).Calm K := .raise rfl

theorem calm_source {d : Delimiters} {mode : Mode} {name : Option Text} {text : Text} :
    (source d mode name text).Calm K := by
  unfold source
  split
  · exact calm_refuse
  · exact .bind (.log rfl) fun _ => .pure

end Template

/-! ## Scripts -/

namespace Procedure

theorem calm_notAScript {file : Text} {line : Int} : (notAScript file line : Proc α).Calm K :=
  .raise rfl

theorem calm_parse {file t : Text} {moved : Nat → Int} : (parse file moved t).Calm K := by
  unfold parse
  split
  · exact .error
  · refine .ite .error ?_
    split
    · exact .ite .error .pure
    · exact calm_notAScript

theorem calm_outline {mode : Mode} {names : List Text} {body : List Stmt} :
    (outline mode names body).Calm K :=
  calm_parse.bind fun _ => by
    split
    · exact .pure
    · exact calm_notAScript

theorem calm_nameTexts {names : List Value} : (nameTexts names).Calm K := Eval.calm_joinTexts

theorem calm_refuseRepeated {names : List Value} : (refuseRepeated names).Calm K :=
  .ite ((Calm.mapM fun _ => .quoted).bind fun _ => .error) .pure

theorem calm_approve {o : Outline} {body : List Stmt} {lines : LineMap} {mode : Mode}
    {file : Text} : (approve o body lines mode file).Calm K := by
  refine .ite .error (.ite .error ?_)
  split
  · exact .error
  · split
    · exact calm_notAScript
    · exact .pure

theorem calm_check {source : Text} {lines : LineMap} {names : List Value} {mode : Mode}
    {file : Text} : (check source lines names mode file).Calm K :=
  calm_refuseRepeated.bind fun _ => calm_parse.bind fun _ => calm_nameTexts.bind fun _ =>
    calm_outline.bind fun _ => calm_approve

end Procedure

/-! ## Modules -/

namespace Module

theorem calm_loaded? {key : Text} : (loaded? key).Calm K := .machine fun _ => .pure

/-- What becomes of the modules of a machine only. -/
theorem calm_keep {key : Text} {r : Ref} : (keep key r).Calm K :=
  .modify fun _ => .of_heap_eq rfl rfl ⟨[], (List.append_nil _).symm, rfl⟩
    ⟨[], (List.append_nil _).symm⟩

theorem calm_named {id : Text} : (named id).Calm K := by
  unfold named
  refine .ite .error (.ite .error ?_)
  dsimp only
  split
  · exact .error
  · refine .ite .error (calm_loaded?.bind fun found => ?_)
    split
    · exact .pure
    · exact .bind (.allocPlain rfl fun _ h => nomatch h) fun _ => calm_keep.bind fun _ => .pure

theorem calm_pathError {e : FileError} {path : Path} : (pathError e path : Proc α).Calm K := .error

theorem calm_probe {path : Path} : (probe path).Calm K :=
  .machine fun _ => Calm.ask.bind fun reply => by
    split
    · exact .pure
    · exact calm_pathError

theorem calm_candidate {path : Path} : (candidate path).Calm K := by
  have fallback : (candidate.fallback path).Calm K := calm_probe.bind fun _ => .ite .pure .pure
  exact .ite (.ite .error (calm_probe.bind fun _ => .ite .pure fallback)) fallback

theorem calm_resolve {path : Path} : (resolve path).Calm K :=
  .machine fun _ => Calm.ask.bind fun reply => by
    split
    · exact .pure
    · exact .error
    · exact calm_pathError

theorem calm_scriptOf {file : Text} {octets : Octets} : (scriptOf file octets).Calm K := by
  unfold scriptOf
  split
  · exact Procedure.calm_notAScript
  · refine Procedure.calm_parse.bind fun _ => ?_
    split
    · exact Procedure.calm_notAScript
    · exact Procedure.calm_notAScript
    · exact Procedure.calm_notAScript
    · exact .pure

end Module

namespace Run

theorem calm_pathOf {v : Value} : (pathOf v).Calm K := by
  unfold pathOf
  split
  · exact .pure
  · exact Eval.calm_typeName.bind fun _ => .error

end Run

end Stencil
