import Stencil.Proofs.Eval.Native

/-!
# Scripts are safe

Expressions are evaluated and statements are executed in a frame. If calls are safe, so is all that
a script does, by induction on its syntax.

## Main definitions

* `Interp.Safe` — calls are safe.

## Main results

* `Script.Expr.safe_eval`, `Script.Target.safe_assign` — expressions and targets.
* `Script.Stmt.safe_exec`, `Script.safe_execAll` — statements.
-/

namespace Stencil

open Script

variable {P : Policy} {R : Rights} {ρ : Roles P}

/-- Calls are safe, in variants that have the same bounds on loops and on calls. -/
structure Interp.Safe (R : Rights) (limit depth : Nat) (𝓘 : P.Variant → Interp) : Prop where
  limit : ∀ v, (𝓘 v).limit = limit
  depth : ∀ v, (𝓘 v).depth = depth
  call : ∀ {ρ : Roles P} {caller : Caller} {f : Value} {args : List Value} {named : Names},
    ρ.Fits caller → ρ.Fits f → ρ.Fits args → ρ.Fits named →
    Stencil.Safe R ρ (fun v => (𝓘 v).call caller f args named) Roles.Fits
  await : ∀ {ρ : Roles P} {caller : Caller} {f : Value}, ρ.Fits caller → ρ.Fits f →
    Stencil.Safe R ρ (fun v => (𝓘 v).await caller f) Roles.Fits

variable {limit depth : Nat} {𝓘 : P.Variant → Interp}

theorem Interp.Safe.enter (hI : Interp.Safe R limit depth 𝓘) {caller : Caller} :
    Stencil.Safe R ρ (fun v => (𝓘 v).enter caller) Roles.Fits := by
  simp only [Interp.enter, hI.depth]
  exact .ite (fun _ => .error) fun _ => .pure (by simp)

namespace Script

theorem Const.fits_value (c : Const) : ρ.Fits c.value := by
  cases c <;> simp [Const.value]

theorem safe_conversion {c : Conversion} {v : Value} :
    Safe R ρ (fun _ => c.apply v) Roles.Fits := by
  cases c with
  | plain => exact .text
  | quoted => exact .quoted
  | ascii => exact Safe.quoted.bind fun _ _ _ _ => .pure (by simp)

theorem safe_putEntries {es added : Entries} (he : ρ.Fits es) (ha : ρ.Fits added) :
    Safe R ρ (fun _ => putEntries es added) Roles.Fits :=
  (Safe.forM fun _ _ _ _ => Eval.safe_checkKey).bind fun _ h _ _ =>
    .pure ((Entries.fits_update he ha).mono h)

mutual

theorem Expr.safe_eval {ρ : Roles P} (hI : Interp.Safe R limit depth 𝓘) {f : Frame}
    (hf : ρ.Fits f) (e : Expr) : Safe R ρ (fun v => e.eval (𝓘 v) f) Roles.Fits := by
  cases e with
  | const s c =>
    simp only [Expr.eval]
    exact .pure (Const.fits_value c)
  | name s id =>
    simp only [Expr.eval]
    exact Frame.safe_locate (Frame.safe_lookup hf)
  | joined s pieces =>
    simp only [Expr.eval]
    exact (safe_evalPieces hI hf s.row pieces).bind fun _ _ _ _ => .pure (by simp)
  | list s items =>
    simp only [Expr.eval]
    exact (safe_evalAll hI hf items).bind fun _ _ _ hvs => Eval.safe_newList hvs
  | tuple s items =>
    simp only [Expr.eval]
    exact (safe_evalAll hI hf items).bind fun _ _ _ hvs =>
      .ite (fun _ => .pure (by simpa using hvs)) fun _ => Eval.safe_newTuple hvs
  | dict s entries =>
    simp only [Expr.eval]
    exact (safe_evalEntries hI hf s.row _ Roles.fits_nil Roles.fits_nil entries).bind
      fun _ _ _ hes => Eval.safe_newDict hes
  | binary s op left right =>
    simp only [Expr.eval]
    exact (left.safe_eval hI hf).bind fun ρ₁ h₁ x hx =>
      (right.safe_eval hI (hf.mono h₁)).bind fun ρ₂ h₂ y hy =>
        Frame.safe_locate (Eval.safe_binary (hx.mono h₂) hy)
  | unary s op operand =>
    simp only [Expr.eval]
    exact (operand.safe_eval hI hf).bind fun ρ₁ h₁ x hx => Frame.safe_locate Eval.safe_unary
  | logic s conjunction first rest =>
    simp only [Expr.eval]
    exact (first.safe_eval hI hf).bind fun ρ₁ h₁ x hx =>
      safe_evalLogic hI (hf.mono h₁) hx rest
  | compare s first rest =>
    simp only [Expr.eval]
    exact (first.safe_eval hI hf).bind fun ρ₁ h₁ x hx =>
      safe_evalComparisons hI (hf.mono h₁) s.row rest
  | choose s test yes no =>
    simp only [Expr.eval]
    exact (test.safe_eval hI hf).bind fun ρ₁ h₁ x hx => .heap_bind fun _ _ =>
      .ite (fun _ => yes.safe_eval hI (hf.mono h₁)) fun _ => no.safe_eval hI (hf.mono h₁)
  | index s base key =>
    simp only [Expr.eval]
    exact (base.safe_eval hI hf).bind fun ρ₁ h₁ b hb =>
      (key.safe_eval hI (hf.mono h₁)).bind fun ρ₂ h₂ k hk =>
        Frame.safe_locate (Eval.safe_index (hb.mono h₂) hk)
  | slice s lower upper step =>
    simp only [Expr.eval]
    exact (safe_evalBound hI hf lower).bind fun ρ₁ h₁ a ha =>
      (safe_evalBound hI (hf.mono h₁) upper).bind fun ρ₂ h₂ b hb =>
        (safe_evalBound hI ((hf.mono h₁).mono h₂) step).bind fun ρ₃ h₃ c hc =>
          .pure (by simpa using ⟨(ha.mono h₂).mono h₃, hb.mono h₃, hc⟩)
  | attr s base id nameRow =>
    simp only [Expr.eval]
    exact (base.safe_eval hI hf).bind fun ρ₁ h₁ b hb => Frame.safe_locate (Eval.safe_attr hb)
  | call s function args named =>
    simp only [Expr.eval]
    exact (function.safe_eval hI hf).bind fun ρ₁ h₁ g hg =>
      (safe_evalAll hI (hf.mono h₁) args).bind fun ρ₂ h₂ vs hvs =>
        (safe_evalNamed hI ((hf.mono h₁).mono h₂) named).bind fun ρ₃ h₃ ns hns =>
          Frame.safe_locate (hI.call (Frame.fits_caller (((hf.mono h₁).mono h₂).mono h₃))
            ((hg.mono h₂).mono h₃) (hvs.mono h₃) hns)
  | comprehension s item target source conditions =>
    simp only [Expr.eval, hI.limit]
    refine (source.safe_eval hI hf).bind fun ρ₁ h₁ x hx =>
      (Frame.safe_locate (Eval.safe_start hx)).bind fun ρ₂ h₂ cursor hc =>
        Frame.safe_locate (hI.enter.bind fun ρ₃ h₃ _ _ =>
          (Safe.alloc .scope (.scope target.names []) Roles.fits_nil).bind
            fun ρ₄ h₄ scope hscope => ?_)
    have hf₄ := (((hf.mono h₁).mono h₂).mono h₃).mono h₄
    have hg : ρ₄.Fits { f with scopes := scope :: f.scopes, depth := f.depth + 1 } := by
      refine ⟨fun r hr => ?_, hf₄.2⟩
      rcases List.mem_cons.1 hr with rfl | hr
      · exact hscope
      · exact hf₄.1 r hr
    refine (Safe.iterate (fun ρ₅ h₅ x hx => ?_) limit
      (by simpa using (hc.mono h₃).mono h₄)).bind fun _ _ items hi =>
        Eval.safe_newList (hi.of_subset fun _ => List.mem_reverse.1)
    obtain ⟨cursor, done⟩ := x
    simp only [Roles.fits_prod] at hx
    have hg₅ := hg.mono h₅
    refine (Frame.safe_locate (Eval.safe_advance hx.1)).bind fun ρ₆ h₆ next hn => ?_
    cases next with
    | none => exact .pure (by simpa using hx.2.mono h₆)
    | some next =>
      obtain ⟨v, cursor⟩ := next
      simp only [Roles.fits_some, Roles.fits_prod] at hn
      have hg₆ := hg₅.mono h₆
      refine (target.safe_assign hI hg₆ hn.1).bind fun ρ₇ h₇ _ _ =>
        (safe_evalConditions hI (hg₆.mono h₇) conditions).bind fun ρ₈ h₈ b _ => .ite
          (fun _ => (item.safe_eval hI ((hg₆.mono h₇).mono h₈)).bind fun ρ₉ h₉ w hw => .pure ?_)
          fun _ => .pure ?_
      · simpa using ⟨((hn.2.mono h₇).mono h₈).mono h₉, hw,
          (((hx.2.mono h₆).mono h₇).mono h₈).mono h₉⟩
      · simpa using ⟨(hn.2.mono h₇).mono h₈, ((hx.2.mono h₆).mono h₇).mono h₈⟩
  | await s value =>
    simp only [Expr.eval]
    exact (value.safe_eval hI hf).bind fun ρ₁ h₁ x hx =>
      Frame.safe_locate (hI.await (Frame.fits_caller (hf.mono h₁)) hx)

theorem safe_evalAll {ρ : Roles P} (hI : Interp.Safe R limit depth 𝓘) {f : Frame}
    (hf : ρ.Fits f) (es : List Expr) : Safe R ρ (fun v => evalAll (𝓘 v) f es) Roles.Fits := by
  cases es with
  | nil =>
    simp only [evalAll]
    exact .pure Roles.fits_nil
  | cons e es =>
    simp only [evalAll]
    exact (e.safe_eval hI hf).bind fun ρ₁ h₁ v hv =>
      (safe_evalAll hI (hf.mono h₁) es).bind fun ρ₂ h₂ vs hvs =>
        .pure (by simpa using ⟨hv.mono h₂, hvs⟩)

theorem safe_evalPieces {ρ : Roles P} (hI : Interp.Safe R limit depth 𝓘) {f : Frame}
    (hf : ρ.Fits f) (row : Nat) (pieces : List Piece) :
    Safe R ρ (fun v => evalPieces (𝓘 v) f row pieces) Roles.Fits := by
  cases pieces with
  | nil =>
    simp only [evalPieces]
    exact .pure (by simp)
  | cons p rest =>
    cases p with
    | text t =>
      simp only [evalPieces]
      exact (safe_evalPieces hI hf row rest).bind fun _ _ _ _ => .pure (by simp)
    | value e conversion =>
      simp only [evalPieces]
      exact (e.safe_eval hI hf).bind fun ρ₁ h₁ v _ =>
        (Frame.safe_locate safe_conversion).bind fun ρ₂ h₂ t _ =>
          (safe_evalPieces hI ((hf.mono h₁).mono h₂) row rest).bind fun _ _ _ _ => .pure (by simp)

theorem safe_evalBound {ρ : Roles P} (hI : Interp.Safe R limit depth 𝓘) {f : Frame}
    (hf : ρ.Fits f) (e : Option Expr) : Safe R ρ (fun v => evalBound (𝓘 v) f e) Roles.Fits := by
  cases e with
  | none =>
    simp only [evalBound]
    exact .pure (by simp)
  | some e =>
    simp only [evalBound]
    exact e.safe_eval hI hf

theorem safe_evalEntries {ρ : Roles P} (hI : Interp.Safe R limit depth 𝓘) {f : Frame}
    (hf : ρ.Fits f) (row direct : Nat) {done waiting : Entries} (hd : ρ.Fits done)
    (hw : ρ.Fits waiting) (entries : List Entry) :
    Safe R ρ (fun v => evalEntries (𝓘 v) f row direct done waiting entries) Roles.Fits := by
  cases entries with
  | nil =>
    simp only [evalEntries]
    exact Frame.safe_locate (safe_putEntries hd hw)
  | cons entry rest =>
    obtain ⟨key, value⟩ := entry
    cases direct with
    | zero =>
      simp only [evalEntries]
      refine (key.safe_eval hI hf).bind fun ρ₁ h₁ k hk =>
        (value.safe_eval hI (hf.mono h₁)).bind fun ρ₂ h₂ v hv =>
          safe_evalEntries hI ((hf.mono h₁).mono h₂) row 0 ((hd.mono h₁).mono h₂) ?_ rest
      simpa using ⟨(hw.mono h₁).mono h₂, hk.mono h₂, hv⟩
    | succ direct =>
      simp only [evalEntries]
      refine (key.safe_eval hI hf).bind fun ρ₁ h₁ k hk =>
        (value.safe_eval hI (hf.mono h₁)).bind fun ρ₂ h₂ v hv =>
          (Frame.safe_locate (safe_putEntries ((hd.mono h₁).mono h₂)
            (by simpa using ⟨hk.mono h₂, hv⟩))).bind fun ρ₃ h₃ done hdone => ?_
      exact safe_evalEntries hI (((hf.mono h₁).mono h₂).mono h₃) row direct hdone
        (((hw.mono h₁).mono h₂).mono h₃) rest

theorem safe_evalNamed {ρ : Roles P} (hI : Interp.Safe R limit depth 𝓘) {f : Frame}
    (hf : ρ.Fits f) (named : List Named) :
    Safe R ρ (fun v => evalNamed (𝓘 v) f named) Roles.Fits := by
  cases named with
  | nil =>
    simp only [evalNamed]
    exact .pure Roles.fits_nil
  | cons n rest =>
    obtain ⟨s, id, value⟩ := n
    simp only [evalNamed]
    exact (value.safe_eval hI hf).bind fun ρ₁ h₁ v hv =>
      (safe_evalNamed hI (hf.mono h₁) rest).bind fun ρ₂ h₂ ns hns =>
        .pure (by simpa using ⟨hv.mono h₂, hns⟩)

theorem safe_evalLogic {ρ : Roles P} (hI : Interp.Safe R limit depth 𝓘) {f : Frame}
    (hf : ρ.Fits f) {conjunction : Bool} {v : Value} (hv : ρ.Fits v) (es : List Expr) :
    Safe R ρ (fun x => evalLogic (𝓘 x) f conjunction v es) Roles.Fits := by
  cases es with
  | nil =>
    simp only [evalLogic]
    exact .pure hv
  | cons e es =>
    simp only [evalLogic]
    exact .heap_bind fun _ _ => .ite
      (fun _ => (e.safe_eval hI hf).bind fun ρ₁ h₁ w hw =>
        safe_evalLogic hI (hf.mono h₁) hw es)
      fun _ => .pure hv

theorem safe_evalComparisons {ρ : Roles P} (hI : Interp.Safe R limit depth 𝓘) {f : Frame}
    (hf : ρ.Fits f) (row : Nat) {v : Value} (rest : List Comparison) :
    Safe R ρ (fun x => evalComparisons (𝓘 x) f row v rest) Roles.Fits := by
  cases rest with
  | nil =>
    simp only [evalComparisons]
    exact .pure (by simp)
  | cons c rest =>
    obtain ⟨op, right⟩ := c
    simp only [evalComparisons]
    exact (right.safe_eval hI hf).bind fun ρ₁ h₁ w hw =>
      (Frame.safe_locate Eval.safe_compare).bind fun ρ₂ h₂ b _ => .ite
        (fun _ => safe_evalComparisons hI ((hf.mono h₁).mono h₂) row rest)
        fun _ => .pure (by simp)

theorem safe_evalConditions {ρ : Roles P} (hI : Interp.Safe R limit depth 𝓘) {f : Frame}
    (hf : ρ.Fits f) (es : List Expr) :
    Safe R ρ (fun v => evalConditions (𝓘 v) f es) Roles.Fits := by
  cases es with
  | nil =>
    simp only [evalConditions]
    exact .pure (by simp)
  | cons e es =>
    simp only [evalConditions]
    exact (e.safe_eval hI hf).bind fun ρ₁ h₁ v _ => .heap_bind fun _ _ =>
      .ite (fun _ => safe_evalConditions hI (hf.mono h₁) es) fun _ => .pure (by simp)

theorem Target.safe_assign {ρ : Roles P} (hI : Interp.Safe R limit depth 𝓘) {f : Frame}
    (hf : ρ.Fits f) {v : Value} (hv : ρ.Fits v) (t : Target) :
    Safe R ρ (fun x => t.assign (𝓘 x) f v) Roles.Fits := by
  cases t with
  | name s id =>
    simp only [Target.assign]
    exact Frame.safe_bind hf hv
  | items s targets =>
    simp only [Target.assign]
    exact (Frame.safe_locate (Eval.safe_unpack hv)).bind fun ρ₁ h₁ vs hvs =>
      safe_assignAll hI (hf.mono h₁) hvs targets
  | index s base key =>
    simp only [Target.assign]
    exact (base.safe_eval hI hf).bind fun ρ₁ h₁ b hb =>
      (key.safe_eval hI (hf.mono h₁)).bind fun ρ₂ h₂ k hk =>
        Frame.safe_locate (Eval.safe_setIndex (hb.mono h₂) hk ((hv.mono h₁).mono h₂))
  | attr s base id nameRow =>
    simp only [Target.assign]
    exact (base.safe_eval hI hf).bind fun ρ₁ h₁ b hb =>
      Frame.safe_locate (Eval.safe_setAttr hb (hv.mono h₁))

theorem safe_assignAll {ρ : Roles P} (hI : Interp.Safe R limit depth 𝓘) {f : Frame}
    (hf : ρ.Fits f) {vs : List Value} (hvs : ρ.Fits vs) (ts : List Target) :
    Safe R ρ (fun x => assignAll (𝓘 x) f vs ts) Roles.Fits := by
  cases ts with
  | nil =>
    simp only [assignAll]
    exact .pure (by simp)
  | cons t ts =>
    simp only [assignAll]
    have hhead : ρ.Fits (vs.headD .none) := by cases vs <;> simp_all
    have htail : ρ.Fits vs.tail := hvs.of_subset fun _ => List.mem_of_mem_tail
    exact (t.safe_assign hI hf hhead).bind fun ρ₁ h₁ _ _ =>
      safe_assignAll hI (hf.mono h₁) (htail.mono h₁) ts

end

end Script

namespace Eval

variable {α : Type} {Q : Roles P → α → Prop} {r : Ref} {v : Value}

theorem safe_throwValue (hv : ρ.Fits v) : Safe R ρ (fun _ => (throwValue v : Proc α)) Q := by
  unfold throwValue
  split
  · exact .throw (by simpa using hv)
  · refine (safe_instantiate Roles.fits_nil Roles.fits_nil).bind fun ρ₁ h₁ w hw => ?_
    split
    · exact .throw (by simpa using hw)
    · exact .error
  · exact .error

theorem safe_rethrow {f : Frame} {row : Nat} (hf : ρ.Fits f) :
    Safe R ρ (fun _ => (rethrow f row : Proc α)) Q := by
  unfold rethrow
  split
  · next r hr => exact .throw (hf.2.2 r hr)
  · exact Frame.safe_locate .error

theorem safe_catches : Safe R ρ (fun _ => catches r v) Roles.Fits :=
  .heap_bind fun _ _ => by
    split
    · exact .pure (by simp)
    · exact .pure (by simp)
    · exact .error

end Eval

namespace Script

variable {f : Frame}

theorem Target.safe_inspect (hI : Interp.Safe R limit depth 𝓘) (hf : ρ.Fits f) (t : Target) :
    Safe R ρ (fun v => t.inspect (𝓘 v) f) Roles.Fits := by
  cases t with
  | name s id =>
    simp only [Target.inspect]
    exact .pure (by simp)
  | items s targets =>
    simp only [Target.inspect]
    exact .pure (by simp)
  | index s base key =>
    simp only [Target.inspect]
    exact (base.safe_eval hI hf).bind fun ρ₁ h₁ _ _ =>
      (key.safe_eval hI (hf.mono h₁)).bind fun _ _ _ _ => .pure (by simp)
  | attr s base id nameRow =>
    simp only [Target.inspect]
    exact (base.safe_eval hI hf).bind fun ρ₁ h₁ _ _ => .pure (by simp)

theorem safe_evalDefaults (hI : Interp.Safe R limit depth 𝓘) (hf : ρ.Fits f)
    (params : List Param) :
    Safe R ρ (fun v => Stmt.exec.evalDefaults (𝓘 v) f params) Roles.Fits := by
  induction params generalizing ρ with
  | nil =>
    simp only [Stmt.exec.evalDefaults]
    exact .pure Roles.fits_nil
  | cons q rest ih =>
    simp only [Stmt.exec.evalDefaults]
    cases q.default with
    | none => exact ih hf
    | some e =>
      exact (e.safe_eval hI hf).bind fun ρ₁ h₁ v hv => (ih (hf.mono h₁)).bind
        fun ρ₂ h₂ ds hds => .pure (by simpa using ⟨hv.mono h₂, hds⟩)

theorem safe_evalAnnotations (hI : Interp.Safe R limit depth 𝓘) (hf : ρ.Fits f)
    (params : List Param) :
    Safe R ρ (fun v => Stmt.exec.evalAnnotations (𝓘 v) f params) Roles.Fits := by
  induction params generalizing ρ with
  | nil =>
    simp only [Stmt.exec.evalAnnotations]
    exact .pure (by simp)
  | cons q rest ih =>
    simp only [Stmt.exec.evalAnnotations]
    cases q.ascription with
    | none => exact ih hf
    | some e =>
      exact (e.safe_eval hI hf).bind fun ρ₁ h₁ _ _ => ih (hf.mono h₁)

mutual

theorem Stmt.safe_exec {ρ : Roles P} (hI : Interp.Safe R limit depth 𝓘) {f : Frame}
    (hf : ρ.Fits f) (s : Stmt) : Safe R ρ (fun v => s.exec (𝓘 v) f) Roles.Fits := by
  cases s with
  | expr s value =>
    simp only [Stmt.exec]
    exact (value.safe_eval hI hf).bind fun _ _ _ _ => .pure (by simp)
  | assign s targets value =>
    simp only [Stmt.exec]
    exact (value.safe_eval hI hf).bind fun ρ₁ h₁ v hv => (Safe.forM fun ρ₂ h₂ t _ =>
      t.safe_assign hI ((hf.mono h₁).mono h₂) (hv.mono h₂)).bind fun _ _ _ _ => .pure (by simp)
  | annotate s target ascription value =>
    simp only [Stmt.exec]
    have after (ρ₁ : Roles P) (h₁ : ρ ≤ ρ₁) : Safe R ρ₁ (fun v =>
        if f.scopes.isEmpty then (do
          let _ ← ascription.eval (𝓘 v) f
          return Flow.normal) else return Flow.normal) Roles.Fits :=
      .ite (fun _ => (ascription.safe_eval hI (hf.mono h₁)).bind fun _ _ _ _ => .pure (by simp))
        fun _ => .pure (by simp)
    cases value with
    | none => exact (target.safe_inspect hI hf).bind fun ρ₁ h₁ _ _ => after ρ₁ h₁
    | some e =>
      exact (e.safe_eval hI hf).bind fun ρ₁ h₁ v hv =>
        (target.safe_assign hI (hf.mono h₁) hv).bind fun ρ₂ h₂ _ _ =>
          after ρ₂ (Roles.le_trans h₁ h₂)
  | update s target op value =>
    simp only [Stmt.exec]
    cases target with
    | name t id =>
      exact (Frame.safe_locate (Frame.safe_lookup hf)).bind fun ρ₁ h₁ old ho =>
        (value.safe_eval hI (hf.mono h₁)).bind fun ρ₂ h₂ v hv =>
          (Frame.safe_locate (Eval.safe_update (ho.mono h₂) hv)).bind fun ρ₃ h₃ new hn =>
            (Frame.safe_bind (((hf.mono h₁).mono h₂).mono h₃) hn).bind
              fun _ _ _ _ => .pure (by simp)
    | items t targets => exact .pure (by simp)
    | index t base key =>
      exact (base.safe_eval hI hf).bind fun ρ₁ h₁ b hb =>
        (key.safe_eval hI (hf.mono h₁)).bind fun ρ₂ h₂ k hk =>
          (Frame.safe_locate (Eval.safe_index (hb.mono h₂) hk)).bind fun ρ₃ h₃ old ho =>
            (value.safe_eval hI (((hf.mono h₁).mono h₂).mono h₃)).bind fun ρ₄ h₄ v hv =>
              (Frame.safe_locate (Eval.safe_update (ho.mono h₄) hv)).bind fun ρ₅ h₅ new hn =>
                (Frame.safe_locate (Eval.safe_setIndex
                  ((((hb.mono h₂).mono h₃).mono h₄).mono h₅) (((hk.mono h₃).mono h₄).mono h₅)
                  hn)).bind fun _ _ _ _ => .pure (by simp)
    | attr t base id nameRow =>
      exact (base.safe_eval hI hf).bind fun ρ₁ h₁ b hb =>
        (Frame.safe_locate (Eval.safe_attr hb)).bind fun ρ₂ h₂ old ho =>
          (value.safe_eval hI ((hf.mono h₁).mono h₂)).bind fun ρ₃ h₃ v hv =>
            (Frame.safe_locate (Eval.safe_update (ho.mono h₃) hv)).bind fun ρ₄ h₄ new hn =>
              (Frame.safe_locate (Eval.safe_setAttr (((hb.mono h₂).mono h₃).mono h₄) hn)).bind
                fun _ _ _ _ => .pure (by simp)
  | branch s test yes no =>
    simp only [Stmt.exec]
    exact (test.safe_eval hI hf).bind fun ρ₁ h₁ x hx => .heap_bind fun _ _ =>
      .ite (fun _ => safe_execAll hI (hf.mono h₁) yes) fun _ => safe_execAll hI (hf.mono h₁) no
  | each s target source body orelse =>
    simp only [Stmt.exec, hI.limit]
    refine (source.safe_eval hI hf).bind fun ρ₁ h₁ x hx =>
      (Frame.safe_locate (Eval.safe_start hx)).bind fun ρ₂ h₂ cursor hc =>
        (Safe.iterate (fun ρ₃ h₃ cursor hc => ?_) limit hc).bind fun ρ₃ h₃ left hl => ?_
    · have hf₃ := ((hf.mono h₁).mono h₂).mono h₃
      refine (Frame.safe_locate (Eval.safe_advance hc)).bind fun ρ₄ h₄ next hn => ?_
      cases next with
      | none => exact .pure (by simp)
      | some next =>
        obtain ⟨v, cursor⟩ := next
        simp only [Roles.fits_some, Roles.fits_prod] at hn
        have hf₄ := hf₃.mono h₄
        refine (target.safe_assign hI hf₄ hn.1).bind fun ρ₅ h₅ _ _ =>
          (safe_execAll hI (hf₄.mono h₅) body).bind fun ρ₆ h₆ flow hflow => ?_
        cases flow with
        | normal | again => exact .pure (by simpa using (hn.2.mono h₅).mono h₆)
        | leave => exact .pure (by simp)
        | give v => exact .pure (by simpa using hflow)
    · cases left with
      | none => exact safe_execAll hI (((hf.mono h₁).mono h₂).mono h₃) orelse
      | some flow => exact .pure (by simpa using hl)
  | loop s test body orelse =>
    simp only [Stmt.exec, hI.limit]
    refine (Safe.iterate (fun ρ₁ h₁ _ _ => ?_) limit (Roles.fits_unit ())).bind
      fun ρ₁ h₁ left hl => ?_
    · refine (test.safe_eval hI (hf.mono h₁)).bind fun ρ₂ h₂ x hx => .heap_bind fun _ _ =>
        .ite (fun _ => (safe_execAll hI ((hf.mono h₁).mono h₂) body).bind
          fun ρ₃ h₃ flow hflow => ?_) fun _ => .pure (by simp)
      cases flow with
      | normal | again => exact .pure (by simp)
      | leave => exact .pure (by simp)
      | give v => exact .pure (by simpa using hflow)
    · cases left with
      | none => exact safe_execAll hI (hf.mono h₁) orelse
      | some flow => exact .pure (by simpa using hl)
  | attempt s body handlers orelse final =>
    simp only [Stmt.exec]
    refine (Safe.attempt (Q := Roles.Fits) ((safe_execAll hI hf body).attempt.bind
      fun ρ₁ h₁ result hres => ?_)).bind fun ρ₁ h₁ result hres =>
        (safe_execAll hI ?_ final).bind fun ρ₂ h₂ flow hflow => ?_
    · cases result with
      | error r => exact safe_execHandlers hI (hf.mono h₁) hres handlers
      | ok flow =>
        cases flow with
        | normal => exact safe_execAll hI (hf.mono h₁) orelse
        | _ => exact .pure hres
    · cases result with
      | ok flow => exact hf.mono h₁
      | error r => exact Frame.fits_handling (hf.mono h₁) hres
    · cases flow with
      | normal =>
        cases result with
        | ok flow => exact .pure (Roles.Fits.mono hres h₂)
        | error r => exact .throw (h₂ _ _ hres)
      | _ => exact .pure hflow
  | raise s exception =>
    simp only [Stmt.exec]
    cases exception with
    | none => exact Eval.safe_rethrow hf
    | some e =>
      exact (e.safe_eval hI hf).bind fun ρ₁ h₁ v hv => Frame.safe_locate (Eval.safe_throwValue hv)
  | give s value =>
    simp only [Stmt.exec]
    cases value with
    | none => exact .pure (by simp)
    | some e => exact (e.safe_eval hI hf).bind fun ρ₁ h₁ v hv => .pure (by simpa using hv)
  | define s suspending id params returns body =>
    simp only [Stmt.exec]
    refine (safe_evalDefaults hI hf _).bind fun ρ₁ h₁ defaults hdef =>
      (safe_evalAnnotations hI (hf.mono h₁) _).bind fun ρ₂ h₂ _ _ =>
        (safe_evalBound hI ((hf.mono h₁).mono h₂) returns).bind fun ρ₃ h₃ _ _ =>
          (Safe.alloc .function (.function _) ?_).bind fun ρ₄ h₄ r hr =>
            (Frame.safe_bind ?_ (by simpa using hr)).bind fun _ _ _ _ => .pure (by simp)
    · have hf₃ := ((hf.mono h₁).mono h₂).mono h₃
      exact ⟨(hdef.mono h₂).mono h₃, hf₃.1, hf₃.2.1⟩
    · exact (((hf.mono h₁).mono h₂).mono h₃).mono h₄
  | pass s | leave s | again s =>
    simp only [Stmt.exec]
    exact .pure (by simp)

theorem safe_execAll {ρ : Roles P} (hI : Interp.Safe R limit depth 𝓘) {f : Frame}
    (hf : ρ.Fits f) (stmts : List Stmt) :
    Safe R ρ (fun v => execAll (𝓘 v) f stmts) Roles.Fits := by
  cases stmts with
  | nil =>
    simp only [execAll]
    exact .pure (by simp)
  | cons s rest =>
    simp only [execAll]
    refine (s.safe_exec hI hf).bind fun ρ₁ h₁ flow hflow => ?_
    cases flow with
    | normal => exact safe_execAll hI (hf.mono h₁) rest
    | _ => exact .pure hflow

theorem safe_execHandlers {ρ : Roles P} (hI : Interp.Safe R limit depth 𝓘) {f : Frame}
    (hf : ρ.Fits f) {r : Ref} (hr : ρ r = some .exception) (handlers : List Handler) :
    Safe R ρ (fun v => execHandlers (𝓘 v) f r handlers) Roles.Fits := by
  cases handlers with
  | nil =>
    simp only [execHandlers]
    exact .throw hr
  | cons handler rest =>
    obtain ⟨s, type, id, body⟩ := handler
    have hg (ρ₁ : Roles P) (h₁ : ρ ≤ ρ₁) : ρ₁.Fits { f with handling := some r } :=
      Frame.fits_handling (hf.mono h₁) (h₁ _ _ hr)
    have after (ρ₁ : Roles P) (h₁ : ρ ≤ ρ₁) (taken : Bool) : Safe R ρ₁ (fun v =>
        if taken then
          match id with
          | none => execAll (𝓘 v) { f with handling := some r } body
          | some id => do
            f.bind id (.exception r)
            (execAll (𝓘 v) { f with handling := some r } body).andFinally (f.unbind id)
        else execHandlers (𝓘 v) f r rest) Roles.Fits := by
      refine .ite (fun _ => ?_) fun _ => safe_execHandlers hI (hf.mono h₁) (h₁ _ _ hr) rest
      cases id with
      | none => exact safe_execAll hI (hg ρ₁ h₁) body
      | some id =>
        exact (Frame.safe_bind (hf.mono h₁) (by simpa using h₁ _ _ hr)).bind fun ρ₂ h₂ _ _ =>
          .andFinally (safe_execAll hI (hg ρ₂ (Roles.le_trans h₁ h₂)) body) fun ρ₃ h₃ =>
            Frame.safe_unbind (((hf.mono h₁).mono h₂).mono h₃)
    simp only [execHandlers]
    cases type with
    | none =>
      exact (Safe.pure (Q := Roles.Fits) (Roles.fits_bool true)).bind
        fun ρ₁ h₁ taken _ => after ρ₁ h₁ taken
    | some e =>
      exact (e.safe_eval hI (hg ρ (Roles.le_refl ρ))).bind fun ρ₁ h₁ v _ =>
        (Frame.safe_locate Eval.safe_catches).bind fun ρ₂ h₂ taken _ =>
          after ρ₂ (Roles.le_trans h₁ h₂) taken

end

end Script

end Stencil
