import Stencil.Proofs.Script.Stage

/-!
# The nodes of expressions

The nodes of an expression lie within the rows of its terminals, and none ends before it begins.
This holds of the values in strings as well, whose terminals are read from a text of their own and
moved to the row on which they stand.

## Main results

* `Parse.sound_ofExpr?` — what an expression can be assigned to has its nodes.
* `Parse.inRows_field` — the terminals of a value in a string stand on the rows of the string.
* `Parse.yields_expression`, `Parse.yields_expressions` — expressions.
-/

namespace Stencil.Script

variable {lo hi : Nat}

namespace Parse

open Script.Parser

variable {self primary condition operand : Parser Expr} {w : Text} {P B : List Span}

/-- The nodes of an expression lie within rows. -/
abbrev SoundExpr (lo hi : Nat) (e : Expr) : Prop := Sound lo hi e.nodes

/-- The nodes of an expression that may be missing lie within rows. -/
abbrev SoundBound (lo hi : Nat) (e : Option Expr) : Prop := Sound lo hi (nodesOfBound e)

theorem nodesOfPieces_append (ps qs : List Piece) :
    nodesOfPieces (ps ++ qs) = nodesOfPieces ps ++ nodesOfPieces qs := by
  induction ps with
  | nil => rfl
  | cons p ps ih => cases p <;> simp [nodesOfPieces, ih]

/-! ## Targets -/

mutual

/-- What an expression can be assigned to has its nodes. -/
theorem sound_ofExpr? {t : Target} : (e : Expr) → Target.ofExpr? e = some t → SoundExpr lo hi e →
    Sound lo hi t.nodes
  | .name .., h, he | .index .., h, he | .attr .., h, he => by
    obtain rfl := Option.some.inj h
    exact he
  | .tuple _ es, h, he | .list _ es, h, he => by
    obtain ⟨ts, hts, rfl⟩ := Option.map_eq_some_iff.1 h
    simp only [SoundExpr, Expr.nodes, sound_cons] at he
    rw [Target.nodes, sound_cons]
    exact ⟨he.1, sound_ofAll? es hts he.2⟩
  | .const .., h, _ | .joined .., h, _ | .dict .., h, _ | .binary .., h, _ | .unary .., h, _
  | .logic .., h, _ | .compare .., h, _ | .choose .., h, _ | .slice .., h, _ | .call .., h, _
  | .comprehension .., h, _ | .await .., h, _ => by cases h

theorem sound_ofAll? {ts : List Target} : (es : List Expr) → Target.ofExpr?.ofAll? es = some ts →
    Sound lo hi (nodesOfAll es) → Sound lo hi (nodesOfTargets ts)
  | [], h, _ => by
    obtain rfl := Option.some.inj h
    exact sound_nil
  | e :: es, h, he => by
    rw [Target.ofExpr?.ofAll?] at h
    rw [nodesOfAll, sound_append] at he
    split at h
    · rename_i t ts ht hts
      obtain rfl := Option.some.inj h
      rw [nodesOfTargets, sound_append]
      exact ⟨sound_ofExpr? e ht he.1, sound_ofAll? es hts he.2⟩
    · cases h

end

/-! ## Atoms -/

theorem yields_itemsUpTo (h : Yields lo hi [] [] self (SoundExpr lo hi)) : ∀ fuel,
    Yields lo hi [] [] (itemsUpTo self w fuel) fun es => Sound lo hi (nodesOfAll es)
  | 0 => yields_fail
  | fuel + 1 => by
    unfold itemsUpTo
    refine yields_askOp _ (yields_pure sound_nil) (h.bind fun e he => yields_askOp _ ?_ ?_)
    · exact (yields_itemsUpTo h fuel).bind fun es hes =>
        yields_pure (by simp [nodesOfAll, he, hes])
    · exact (yields_op w).bind fun _ _ => yields_pure (by simp [nodesOfAll, he])

theorem yields_entriesUpTo (h : Yields lo hi [] [] self (SoundExpr lo hi)) : ∀ fuel,
    Yields lo hi [] [] (entriesUpTo self fuel) fun es =>
      Sound lo hi (nodesOfKeys es ++ nodesOfEntryValues es)
  | 0 => yields_fail
  | fuel + 1 => by
    unfold entriesUpTo
    refine yields_askOp _ (yields_pure sound_nil) (h.bind fun key hkey => ?_)
    refine (yields_op ":").bind fun _ _ => h.bind fun value hvalue => yields_askOp _ ?_ ?_
    · refine (yields_entriesUpTo h fuel).bind fun es hes => yields_pure ?_
      rw [sound_append] at hes
      simp [nodesOfKeys, nodesOfEntryValues, hkey, hvalue, hes]
    · exact (yields_op _).bind fun _ _ =>
        yields_pure (by simp [nodesOfKeys, nodesOfEntryValues, hkey, hvalue])

theorem yields_loopConditions (h : Yields lo hi [] [] condition (SoundExpr lo hi)) : ∀ fuel,
    Yields lo hi [] [] (loopConditions condition fuel) fun es => Sound lo hi (nodesOfAll es)
  | 0 => yields_fail
  | fuel + 1 => by
    unfold loopConditions
    refine yields_askWord _ (h.bind fun e he => ?_) (yields_pure sound_nil)
    exact (yields_loopConditions h fuel).bind fun es hes =>
      yields_pure (by simp [nodesOfAll, he, hes])

theorem yields_targetItems (h : Yields lo hi [] [] primary (SoundExpr lo hi)) : ∀ fuel,
    Yields lo hi [] [] (targetItems primary w fuel) fun r => Sound lo hi (nodesOfAll r.1)
  | 0 => yields_fail
  | fuel + 1 => by
    unfold targetItems
    refine h.bind fun e he => yields_askOp _ ?_ (yields_pure (by simp [nodesOfAll, he]))
    refine (yields_atWord w).bind fun _ _ => yields_ite ?_ ?_
    · exact yields_pure (by simp [nodesOfAll, he])
    · exact (yields_targetItems h fuel).bind fun r hr =>
        yields_pure (by simpa [nodesOfAll, he] using hr)

theorem closes_targetItems (h : Closes primary) : ∀ fuel, Closes (targetItems primary w fuel)
  | 0 => closes_fail
  | fuel + 1 => by
    unfold targetItems
    refine h.bind fun e => (asks_op? (by decide)).rests ?_ (rests_pure _)
    refine (rests_atWord w).bind fun _ => rests_ite (rests_pure _) ?_
    exact (closes_targetItems h fuel).rests.bind fun _ => rests_pure _

/-- What is to be assigned to. -/
theorem yields_finished {e : Expr} (he : SoundExpr lo hi e) : Yields lo hi P B
    (match Target.ofExpr? e with
      | some target => pure target
      | none => failAt e.span.row) fun t => Sound lo hi t.nodes := by
  split
  · rename_i ht
    exact yields_pure (sound_ofExpr? e ht he)
  · exact yields_failAt _

theorem yields_loopTarget (fuel : Nat) (h : Yields lo hi [] [] primary (SoundExpr lo hi))
    (hc : Closes primary) :
    Yields lo hi [] [] (loopTarget fuel primary) fun t => Sound lo hi t.nodes := by
  unfold loopTarget
  refine yields_here fun start => ?_
  refine (yields_targetItems h fuel).weaken.seize (closes_targetItems hc fuel)
    fun found hfound => ?_
  obtain ⟨items, several⟩ := found
  simp only at hfound ⊢
  split
  · rename_i e
    refine (yields_pure (Q := SoundExpr lo hi) ?_).bind fun e he => yields_finished he
    simpa [nodesOfAll] using hfound
  · refine yields_since (by simp) fun span hspan => ?_
    refine (yields_pure (Q := SoundExpr lo hi) ?_).bind fun e he => yields_finished he
    simp [SoundExpr, Expr.nodes, hspan, hfound]

/-! ## Texts with values -/

/-- What is read from the text of an expression inside a string stands on the rows of the string. -/
theorem inRows_field {t : Terminal} {token : StringToken} {raw : Bool} {fuel offset : Nat}
    {fields : List Field} {source : Text} {conversion : Conversion} (h : InRows lo hi [t])
    (visible : t.isVisible = true) (htoken : StringToken.ofText? t.text = some token)
    (hfields : Field.split? raw fuel 0 token.body = some fields)
    (hm : .value source offset conversion ∈ fields)
    (complete : (Terminals.ofText ("(" ++ source ++ ")")).ending = .complete) :
    InRows lo hi ((Terminals.ofText ("(" ++ source ++ ")")).list.map fun u =>
      { u with span := u.span.relocate (· + (t.span.row + offset - 1)) }) := by
  have ht : t ∈ [t] := List.mem_singleton_self t
  obtain ⟨-, feeds, inside⟩ := Field.within_of_split? hfields hm
  have body := StringToken.body_infix htoken
  have keeps := h.keeps t ht visible
  have rows := h.rows t ht visible
  have more : token.body.lineFeeds ≤ t.text.lineFeeds := body.sublist.count_le _
  have plain : (13 : CodePoint) ∉ source := fun hr =>
    h.plain t ht visible (body.subset (inside.subset hr))
  have unified : (13 : CodePoint) ∉ ("(" : Text) ++ source ++ ")" := by
    simp only [List.mem_append, not_or]
    exact ⟨⟨by decide, plain⟩, by decide⟩
  have last : (("(" : Text) ++ source ++ ")").getLast? ≠ some 10 := by
    rw [show (")" : Text) = [41] from rfl, List.getLast?_concat]
    decide
  have count : (("(" : Text) ++ source ++ ")").lineFeeds = source.lineFeeds := by
    have before : Text.lineFeeds "(" = 0 := by decide
    have behind : Text.lineFeeds ")" = 0 := by decide
    rw [Text.lineFeeds_append, Text.lineFeeds_append, before, behind, Nat.zero_add, Nat.add_zero]
  have positive := h.positive
  have first := keeps.first
  have end_ := keeps.last
  refine ((inRows_ofText unified last complete).relocate _).widen positive (by omega) ?_
  rw [count]
  omega

/-- The value of a parser on terminals of their own. -/
theorem sound_onAll {Q : Expr → Prop} {ts : List Terminal} {last : Span} {e : Expr}
    (h : Yields lo hi [] [] self Q) (hts : InRows lo hi ts) (he : self.onAll ts last = .ok e) :
    Q e := by
  unfold onAll at he
  cases hs : self ⟨ts, last⟩ with
  | error fault => simp [hs, bind, Except.bind] at he
  | ok found =>
    obtain ⟨value, rest, end_⟩ := found
    simp only [hs, bind, Except.bind] at he
    cases rest with
    | nil =>
      obtain rfl := Except.ok.inj he
      exact (h ⟨hts, nofun, nofun⟩ hs).2
    | cons t rest => simp at he

/-- A piece of a string has the nodes of its value. -/
theorem sound_pieces {ps : List Piece} (h : ∀ p ∈ ps, Sound lo hi (nodesOfPieces [p])) :
    Sound lo hi (nodesOfPieces ps) := by
  induction ps with
  | nil => exact sound_nil
  | cons p ps ih =>
    rw [← List.singleton_append, nodesOfPieces_append, sound_append]
    exact ⟨h p List.mem_cons_self, ih fun q hq => h q (List.mem_cons_of_mem p hq)⟩

/-- A piece of text, if its escapes have values. -/
theorem yields_decoded (found : Option Text) (row : Nat) : Yields lo hi P B (match found with
    | some value => pure (.text value)
    | none => failAt row : Parser Piece) fun p => Sound lo hi (nodesOfPieces [p]) := by
  split
  · exact yields_pure sound_nil
  · exact yields_failAt _

theorem yields_stringPieces {t : Terminal} (h : Yields lo hi [] [] self (SoundExpr lo hi))
    (ht : InRows lo hi [t]) (visible : t.isVisible = true) :
    Yields lo hi P B (stringPieces self t) fun ps => Sound lo hi (nodesOfPieces ps) := by
  unfold stringPieces
  split
  · rename_i token htoken
    refine yields_ite (yields_failAt _) (yields_ite ?_ ?_)
    · split
      · rename_i fields hfields
        refine (Yields.mapM fun field hfield => ?_).imp fun ps => sound_pieces
        cases field with
        | text raw => exact yields_decoded _ _
        | shown shown => exact yields_pure sound_nil
        | value source offset conversion =>
          simp only
          split
          · exact yields_failAt _
          · rename_i complete
            split
            · rename_i e he
              have inner := inRows_field ht visible htoken hfields hfield (not_not.1 complete)
              have se := sound_onAll h (inner.sublist List.filter_sublist) he
              exact yields_pure (by simpa [nodesOfPieces] using se)
            · exact yields_throw _
      · exact yields_failAt _
    · exact (yields_decoded _ _).bind fun p hp => yields_pure hp
  · exact yields_failAt _

theorem yields_strings (h : Yields lo hi [] [] self (SoundExpr lo hi)) : ∀ fuel,
    Yields lo hi [] [] (strings self fuel) fun r => Sound lo hi (nodesOfPieces r.2)
  | 0 => yields_fail
  | fuel + 1 => by
    have none_ : Yields lo hi [] [] (pure (false, []) : Parser (Bool × List Piece)) fun r =>
      Sound lo hi (nodesOfPieces r.2) := yields_pure sound_nil
    unfold strings
    refine yields_peekAt none_ fun t => yieldsAt_ite (fun hk => ?_) fun _ => none_.at t
    have visible : t.isVisible = true := by simp [Terminal.isVisible, hk]
    refine yieldsAt_inRows fun inRows => yieldsAt_take visible fun u => ?_
    refine (yields_stringPieces h inRows visible).bind fun pieces hp => ?_
    refine (yields_strings h fuel).bind fun r hr => yields_pure ?_
    rw [nodesOfPieces_append, sound_append]
    exact ⟨hp, hr⟩

/-- An expression may be there or not. -/
theorem yields_optional {β : Type} {b : Prop} [Decidable b] {p : Parser Expr}
    {f : Option Expr → Parser β} {S : β → Prop} (h : Yields lo hi [] [] p (SoundExpr lo hi))
    (hf : ∀ e, SoundBound lo hi e → Yields lo hi P B (f e) S) :
    Yields lo hi P B (if b then some <$> p >>= f else pure none >>= f) S := by
  refine yields_ite ?_ ((yields_pure (Q := SoundBound lo hi) sound_nil).bind hf)
  exact (h.weaken.map (g := some) (S := SoundBound lo hi) fun e he => he).bind hf

/-- What has begun is given its extent. -/
theorem yields_extent {α : Type} {start : Span} {f : Span → α} {Q : α → Prop} (hs : start ∈ B)
    (hf : ∀ w : Span, w.Keeps lo hi → Q (f w)) :
    Yields lo hi P B (since start >>= fun w => pure (f w)) Q :=
  yields_since hs fun w hw => yields_pure (hf w hw)

theorem yields_atom (fuel : Nat) (h : Yields lo hi [] [] self (SoundExpr lo hi))
    (hp : Yields lo hi [] [] primary (SoundExpr lo hi)) (hpc : Closes primary)
    (hc : Yields lo hi [] [] condition (SoundExpr lo hi)) :
    Yields lo hi [] [] (atom fuel self primary condition) (SoundExpr lo hi) := by
  unfold atom
  refine yields_here fun start => yields_peekAt yields_fail fun t => ?_
  have constant (value : Const) : Yields lo hi [start] [start]
      (pure (.const start value)) (SoundExpr lo hi) :=
    yields_begun (List.mem_singleton_self start) fun keeps =>
      yields_pure (by simp [SoundExpr, Expr.nodes, keeps])
  cases hk : t.kind with
  | name =>
    have visible : t.isVisible = true := by simp [Terminal.isVisible, hk]
    simp only [hk]
    refine yieldsAt_ite (fun _ => yieldsAt_take visible fun _ => constant _) fun _ => ?_
    refine yieldsAt_ite (fun _ => yieldsAt_take visible fun _ => constant _) fun _ => ?_
    refine yieldsAt_ite (fun _ => yieldsAt_take visible fun _ => constant _) fun _ => ?_
    refine (yields_name.seize closes_name fun id _ => ?_).at t
    refine yields_begun (List.mem_singleton_self start) fun keeps => yields_pure ?_
    simp [SoundExpr, Expr.nodes, keeps]
  | number =>
    simp only [hk]
    split
    · exact yieldsAt_take (by simp [Terminal.isVisible, hk]) fun _ => constant _
    · exact yields_fail.at t
  | string =>
    simp only [hk]
    intro c e c' ht hc he
    obtain ⟨found, u, hs, he⟩ := exists_of_bind_ok he
    obtain ⟨reaches, pieces⟩ := (yields_strings h fuel).weaken hc hs
    have whole : Yields lo hi [start] [start] (since start >>= fun w =>
        pure (if found.1 then .joined w found.2 else .const w (.str (piecesText found.2))))
        (SoundExpr lo hi) := yields_extent (List.mem_singleton_self start) fun w hw => by
      split <;> simp [SoundExpr, Expr.nodes, hw, pieces]
    obtain ⟨more, sound⟩ := whole (hc.took reaches (took_strings ht hk hs)) he
    exact ⟨reaches.trans more, sound⟩
  | op =>
    simp only [hk]
    refine (yields_askOp _ ?_ (yields_askOp _ ?_ (yields_askOp _ ?_ yields_fail))).at t
    · -- a parenthesis
      refine yields_askOp _ (yields_extent (by simp) fun w hw => ?_) ?_
      · simp [SoundExpr, Expr.nodes, nodesOfAll, hw]
      refine h.weaken.bind fun e he => yields_askOp _ ?_ ?_
      · refine (yields_itemsUpTo h fuel).weaken.bind fun others ho => ?_
        refine yields_extent (by simp) fun w hw => ?_
        simp [SoundExpr, Expr.nodes, nodesOfAll, hw, he, ho]
      · exact (yields_op _).bind fun _ _ => yields_pure he
    · -- a list
      refine yields_askOp _ (yields_extent (by simp) fun w hw => ?_) ?_
      · simp [SoundExpr, Expr.nodes, nodesOfAll, hw]
      refine h.weaken.bind fun e he => yields_askWord _ ?_ (yields_askOp _ ?_ ?_)
      · refine (yields_loopTarget fuel hp hpc).weaken.bind fun target ht => ?_
        refine (yields_word _).bind fun _ _ => hc.weaken.bind fun source hsource => ?_
        refine (yields_loopConditions hc fuel).weaken.bind fun conditions hconditions => ?_
        refine (yields_op _).bind fun _ _ => yields_extent (by simp) fun w hw => ?_
        simp [SoundExpr, Expr.nodes, hw, he, ht, hsource, hconditions]
      · refine (yields_itemsUpTo h fuel).weaken.bind fun others ho => ?_
        refine yields_extent (by simp) fun w hw => ?_
        simp [SoundExpr, Expr.nodes, nodesOfAll, hw, he, ho]
      · refine (yields_op _).bind fun _ _ => yields_extent (by simp) fun w hw => ?_
        simp [SoundExpr, Expr.nodes, nodesOfAll, hw, he]
    · refine (yields_entriesUpTo h fuel).weaken.bind fun entries he => ?_
      refine yields_extent (by simp) fun w hw => ?_
      rw [sound_append] at he
      simp [SoundExpr, Expr.nodes, hw, he]
  | comment => simp only [hk]; exact yields_fail.at t
  | newline => simp only [hk]; exact yields_fail.at t
  | rowEnd => simp only [hk]; exact yields_fail.at t
  | indent => simp only [hk]; exact yields_fail.at t
  | dedent => simp only [hk]; exact yields_fail.at t
  | unknown => simp only [hk]; exact yields_fail.at t
  | endMarker => simp only [hk]; exact yields_fail.at t

/-! ## Calls and subscripts -/

theorem yields_arguments (h : Yields lo hi [] [] self (SoundExpr lo hi)) :
    ∀ (fuel : Nat) (seen : Bool), Yields lo hi [] [] (arguments self seen fuel) fun r =>
      Sound lo hi (nodesOfAll r.1 ++ nodesOfNamed r.2)
  | 0, _ => by
    unfold arguments
    exact yields_fail
  | fuel + 1, seen => by
    have more (seen : Bool) : Yields lo hi [] [] (moreArguments (arguments self seen fuel)) fun r =>
        Sound lo hi (nodesOfAll r.1 ++ nodesOfNamed r.2) := by
      unfold moreArguments
      refine yields_askOp _ (yields_arguments h fuel seen) ?_
      exact (yields_op _).bind fun _ _ => yields_pure (by simp [nodesOfAll, nodesOfNamed])
    let positional : Parser (List Expr × List Named) := do
      let e ← self
      let rest ← moreArguments (arguments self seen fuel)
      pure (e :: rest.1, rest.2)
    have hpos : Yields lo hi [] [] positional fun r =>
        Sound lo hi (nodesOfAll r.1 ++ nodesOfNamed r.2) := by
      refine h.bind fun e he => (more seen).bind fun r hr => yields_pure ?_
      rw [sound_append] at hr
      simp [nodesOfAll, he, hr]
    unfold arguments
    refine yields_askOp _ (yields_pure (by simp [nodesOfAll, nodesOfNamed])) ?_
    intro c r c' hc hr
    obtain ⟨d, u, hd, hr⟩ := exists_of_bind_ok hr
    obtain ⟨rfl, rfl⟩ := Prod.mk.inj (Except.ok.inj hd)
    have unnamed := yields_guard (b := seen = true) (g := fun _ => positional) hpos
    extract_lets byName others at hr
    split at hr
    · rename_i named
      obtain ⟨start, d, hd, hnamed⟩ := exists_of_bind_ok hr
      obtain ⟨rfl, stage⟩ := hc.here hd
      simp only [byName] at named
      split at named
      · rename_i t u rest next
        rw [Bool.and_eq_true] at named
        refine yieldsAt_nameTake (S := fun r => Sound lo hi (nodesOfAll r.1 ++ nodesOfNamed r.2))
          (visible_of_isOp named.2) (fun id => ?_) stage next hnamed
        refine h.weaken.bind fun value hv => yields_since (by simp) fun w hw => ?_
        refine (more true).weaken.bind fun r hr => yields_pure ?_
        rw [sound_append] at hr
        simp [nodesOfNamed, hw, hv, hr]
      · cases named
    · exact unnamed hc hr

theorem yields_bound (h : Yields lo hi [] [] self (SoundExpr lo hi)) :
    Yields lo hi [] [] (bound self) (SoundBound lo hi) := by
  unfold bound
  refine (yields_atOp _).bind fun _ _ => (yields_atOp _).bind fun _ _ => ?_
  refine (yields_atOp _).bind fun _ _ => yields_ite (yields_pure sound_nil) ?_
  exact h.map fun e he => he

/-- What follows the lower bound of a slice, or a key, before the closing bracket. -/
theorem yields_further {start : Span} (h : Yields lo hi [] [] self (SoundExpr lo hi))
    (lower : Option Expr) (hl : SoundBound lo hi lower) : Yields lo hi [start] [] (do
      if ← op? ":" then
        let upper ← bound self
        let step ← if ← op? ":" then bound self else pure none
        return .slice (← since start) lower upper step
      else
        match lower with
        | some e => return e
        | none => fail : Parser Expr) (SoundExpr lo hi) := by
  refine yields_askOp _ ?_ ?_
  · refine (yields_bound h).weaken.bind fun upper hu => (yields_op? _).bind fun _ _ => ?_
    have sliced (step : Option Expr) (hs : SoundBound lo hi step) : Yields lo hi [start]
        [start] (since start >>= fun w => pure (.slice w lower upper step))
        (SoundExpr lo hi) :=
      yields_extent (by simp) fun w hw => by simp [SoundExpr, Expr.nodes, hw, hl, hu, hs]
    split
    · exact (yields_bound h).weaken.bind sliced
    · exact (yields_pure (Q := SoundBound lo hi) sound_nil).bind sliced
  · cases lower with
    | some e => exact yields_pure hl
    | none => exact yields_fail

theorem yields_key (h : Yields lo hi [] [] self (SoundExpr lo hi)) :
    Yields lo hi [] [] (key self) (SoundExpr lo hi) := by
  unfold key
  refine yields_here fun start => (yields_atOp _).bind fun _ _ => ?_
  split
  · exact (yields_pure (Q := SoundBound lo hi) sound_nil).bind (yields_further h)
  · exact (h.weaken.map (g := some) (S := SoundBound lo hi) fun e he => he).bind (yields_further h)

theorem yields_moreKeys (h : Yields lo hi [] [] self (SoundExpr lo hi)) : ∀ fuel,
    Yields lo hi [] [] (moreKeys self fuel) fun es => Sound lo hi (nodesOfAll es)
  | 0 => yields_fail
  | fuel + 1 => by
    unfold moreKeys
    refine (yields_atOp _).bind fun _ _ => yields_ite (yields_pure sound_nil) ?_
    refine (yields_key h).bind fun e he => yields_askOp _ ?_ ?_
    · exact (yields_moreKeys h fuel).bind fun es hes =>
        yields_pure (by simp [nodesOfAll, he, hes])
    · exact yields_pure (by simp [nodesOfAll, he])

theorem yields_subscript (fuel : Nat) (h : Yields lo hi [] [] self (SoundExpr lo hi)) (start : Span)
    {base : Expr} (hb : SoundExpr lo hi base) :
    Yields lo hi [] [start] (subscript fuel self start base) (SoundExpr lo hi) := by
  unfold subscript
  refine yields_here fun keyStart => (yields_key h).weaken.bind fun first hf => ?_
  have closed {B : List Span} (hB : start ∈ B) (whole : Expr) (hw : SoundExpr lo hi whole) :
      Yields lo hi [keyStart] B (do
        op "]"
        return .index (← since start) base whole : Parser Expr) (SoundExpr lo hi) :=
    (yields_op _).bind fun _ _ => yields_extent hB fun w hspan => by
      simp [SoundExpr, Expr.nodes, hspan, hb, hw]
  refine yields_askOp _ ?_ ?_
  · refine (yields_moreKeys h fuel).weaken.bind fun others ho => ?_
    refine yields_since (by simp) fun w hw => ?_
    refine (yields_pure (Q := SoundExpr lo hi) ?_).bind (closed (by simp))
    simp [SoundExpr, Expr.nodes, nodesOfAll, hw, hf, ho]
  · exact (yields_pure hf).bind (closed (by simp))

theorem yields_trailers (h : Yields lo hi [] [] self (SoundExpr lo hi)) (start : Span) :
    ∀ (fuel : Nat) (e : Expr), SoundExpr lo hi e →
      Yields lo hi [] [start] (trailers self start fuel e) (SoundExpr lo hi)
  | 0, _, _ => yields_fail
  | fuel + 1, e, he => by
    have others {P B : List Span} (hB : start ∈ B) (e : Expr) (he : SoundExpr lo hi e) :
        Yields lo hi P B (trailers self start fuel e) (SoundExpr lo hi) :=
      (yields_trailers h start fuel e he).mono (List.nil_subset _)
        (by simpa using hB)
    unfold trailers
    refine yields_askOp _ ?_ (yields_askOp _ ?_ (yields_askOp _ ?_ (yields_pure he)))
    · refine yields_here fun nameSpan => yields_name.bind fun id _ => ?_
      refine yields_since (by simp) fun w hw => others (by simp) _ ?_
      simp [SoundExpr, Expr.nodes, hw, he]
    · refine (yields_arguments h fuel false).weaken.bind fun r hr => ?_
      refine yields_since (by simp) fun w hw => others (by simp) _ ?_
      rw [sound_append] at hr
      simp [SoundExpr, Expr.nodes, hw, he, hr]
    · have inside : Yields lo hi [] [start]
          (subscript fuel self start e >>= fun e => trailers self start fuel e)
          (SoundExpr lo hi) := (yields_subscript fuel h start he).bind (others (by simp))
      exact (yields_atOp _).bind fun _ _ => yields_guard inside

/-! ## Operators -/

theorem yields_chain {operator : Terminal → Option BinaryOp}
    (hop : ∀ t op, operator t = some op → t.isVisible = true)
    (h : Yields lo hi [] [] operand (SoundExpr lo hi)) (start : Span) :
    ∀ (fuel : Nat) (left : Expr), SoundExpr lo hi left →
      Yields lo hi [] [start] (chain operator operand start fuel left) (SoundExpr lo hi)
  | 0, _, _ => yields_fail
  | fuel + 1, left, hl => by
    unfold chain
    refine yields_peekAt (yields_pure hl) fun t => ?_
    simp only [Option.bind_some]
    split
    · rename_i op ht
      refine yieldsAt_take (hop t op ht) fun _ => h.weaken.bind fun right hr => ?_
      refine yields_since (by simp) fun w hw => ?_
      refine (yields_chain hop h start fuel _ ?_).mono (List.nil_subset _) (by simp)
      simp [SoundExpr, Expr.nodes, hw, hl, hr]
    · exact (yields_pure hl).at t

theorem yields_signed (h : Yields lo hi [] [] operand (SoundExpr lo hi)) :
    ∀ fuel, Yields lo hi [] [] (signed operand fuel) (SoundExpr lo hi)
  | 0 => yields_fail
  | fuel + 1 => by
    have others := yields_signed h fuel
    unfold signed
    refine yields_here fun start => yields_askOp _ ?_ (yields_askOp _ ?_ h.weaken)
    all_goals
      refine others.weaken.bind fun e he => yields_extent (by simp) fun w hw => ?_
      simp [SoundExpr, Expr.nodes, hw, he]

theorem yields_negated (h : Yields lo hi [] [] operand (SoundExpr lo hi)) :
    ∀ fuel, Yields lo hi [] [] (negated operand fuel) (SoundExpr lo hi)
  | 0 => yields_fail
  | fuel + 1 => by
    unfold negated
    refine yields_here fun start => yields_askWord _ ?_ h.weaken
    refine (yields_negated h fuel).weaken.bind fun e he => yields_extent (by simp) fun w hw => ?_
    simp [SoundExpr, Expr.nodes, hw, he]

theorem yields_comparisonOp? : Yields lo hi P B comparisonOp? fun _ => True := by
  have found (op : Option CompareOp) {P B : List Span} :
    Yields lo hi P B (pure op : Parser (Option CompareOp)) fun _ => True := yields_pure trivial
  unfold comparisonOp?
  refine yields_peekAt (found _) fun t => ?_
  simp only
  split
  · rename_i entry hentry
    have isOp := List.find?_some hentry
    exact yieldsAt_take (visible_of_isOp isOp) fun _ => found _
  · refine (yields_askWord _ (found _) (yields_askWord _ ?_ ?_)).at t
    · exact (yields_word? _).bind fun _ _ => yields_ite (found _) (found _)
    · exact yields_askWord _ ((yields_word _).bind fun _ _ => found _) (found _)

theorem yields_comparisons (h : Yields lo hi [] [] operand (SoundExpr lo hi)) : ∀ fuel,
    Yields lo hi [] [] (comparisons operand fuel) fun rest => Sound lo hi (nodesOfComparisons rest)
  | 0 => yields_fail
  | fuel + 1 => by
    unfold comparisons
    refine yields_comparisonOp?.bind fun op _ => ?_
    cases op with
    | some op =>
      refine h.bind fun right hr => (yields_comparisons h fuel).bind fun rest hrest => ?_
      exact yields_pure (by simp [nodesOfComparisons, hr, hrest])
    | none => exact yields_pure sound_nil

theorem yields_operands (h : Yields lo hi [] [] operand (SoundExpr lo hi)) : ∀ fuel,
    Yields lo hi [] [] (operands w operand fuel) fun es => Sound lo hi (nodesOfAll es)
  | 0 => yields_fail
  | fuel + 1 => by
    unfold operands
    refine yields_askWord _ (h.bind fun e he => ?_) (yields_pure sound_nil)
    exact (yields_operands h fuel).bind fun es hes =>
      yields_pure (by simp [nodesOfAll, he, hes])

/-! ## Expressions -/

theorem visible_of_productOp (t : Terminal) (op : BinaryOp) (h : productOp t = some op) :
    t.isVisible = true := by
  unfold productOp at h
  split at h
  · exact visible_of_isOp ‹_›
  split at h
  · exact visible_of_isOp ‹_›
  split at h
  · exact visible_of_isOp ‹_›
  split at h
  · exact visible_of_isOp ‹_›
  · cases h

theorem visible_of_sumOp (t : Terminal) (op : BinaryOp) (h : sumOp t = some op) :
    t.isVisible = true := by
  unfold sumOp at h
  split at h
  · exact visible_of_isOp ‹_›
  split at h
  · exact visible_of_isOp ‹_›
  · cases h

/-- An operand with more of its kind after it. -/
theorem yields_from {more : Span → Expr → Parser Expr}
    (h : Yields lo hi [] [] operand (SoundExpr lo hi)) (hc : Closes operand)
    (hmore : ∀ start e, SoundExpr lo hi e →
      Yields lo hi [] [start] (more start e) (SoundExpr lo hi)) :
    Yields lo hi [] [] (here >>= fun start => operand >>= more start) (SoundExpr lo hi) :=
  yields_here fun start => h.weaken.seize hc fun e he =>
    (hmore start e he).mono (List.nil_subset _) (List.Subset.refl _)

theorem yields_disjunction_succ {fuel : Nat}
    (h : Yields lo hi [] [] (Parse.primary fuel) (SoundExpr lo hi)) :
    Yields lo hi [] [] (disjunction (fuel + 1)) (SoundExpr lo hi) := by
  have hprimary : Closes (Parse.primary fuel) := (closes_levels fuel).1
  unfold disjunction
  extract_lets awaited factor term sum comparison inversion joined
  have cawaited : Closes awaited :=
    rests_here.passes.closes fun start => (asks_word? "await").passes.closes fun _ =>
      closes_ite (closes_extent hprimary start) hprimary
  have yawaited : Yields lo hi [] [] awaited (SoundExpr lo hi) := by
    refine yields_here fun start => yields_askWord _ ?_ h.weaken
    refine h.weaken.bind fun e he => yields_extent (by simp) fun w hw => ?_
    simp [SoundExpr, Expr.nodes, hw, he]
  have cfactor : Closes factor := closes_signed cawaited (fuel + 1)
  have yfactor : Yields lo hi [] [] factor (SoundExpr lo hi) := yields_signed yawaited (fuel + 1)
  have cterm : Closes term := rests_here.passes.closes fun start =>
    cfactor.bind fun left => rests_chain cfactor start _ left
  have yterm : Yields lo hi [] [] term (SoundExpr lo hi) := yields_from yfactor cfactor
    fun start e he => yields_chain visible_of_productOp yfactor start _ e he
  have csum : Closes sum := rests_here.passes.closes fun start =>
    cterm.bind fun left => rests_chain cterm start _ left
  have ysum : Yields lo hi [] [] sum (SoundExpr lo hi) := yields_from yterm cterm
    fun start e he => yields_chain visible_of_sumOp yterm start _ e he
  have ccomparison : Closes comparison := by
    refine rests_here.passes.closes fun start => csum.bind fun first => ?_
    refine (rests_comparisons csum (fuel + 1)).bind fun rest => ?_
    cases rest with
    | nil => exact rests_pure _
    | cons => exact (rests_since start).bind fun _ => rests_pure _
  have ycomparison : Yields lo hi [] [] comparison (SoundExpr lo hi) := by
    refine yields_from ysum csum fun start first hf => ?_
    refine (yields_comparisons ysum (fuel + 1)).weaken.bind fun rest hrest => ?_
    cases rest with
    | nil => exact yields_pure hf
    | cons op rest =>
      refine yields_extent (by simp) fun w hw => ?_
      simp [SoundExpr, Expr.nodes, hw, hf, hrest]
  have cinversion : Closes inversion := closes_negated ccomparison (fuel + 1)
  have yinversion : Yields lo hi [] [] inversion (SoundExpr lo hi) :=
    yields_negated ycomparison (fuel + 1)
  have cjoined (joint : Text) (conjunction : Bool) {operand : Parser Expr} (h : Closes operand) :
      Closes (joined joint conjunction operand) := by
    refine rests_here.passes.closes fun start => h.bind fun first => ?_
    refine (rests_operands h (fuel + 1)).bind fun rest => ?_
    cases rest with
    | nil => exact rests_pure _
    | cons => exact (rests_since start).bind fun _ => rests_pure _
  have yjoined (joint : Text) (conjunction : Bool) {operand : Parser Expr} (hc : Closes operand)
      (h : Yields lo hi [] [] operand (SoundExpr lo hi)) :
      Yields lo hi [] [] (joined joint conjunction operand) (SoundExpr lo hi) := by
    refine yields_from h hc fun start first hf => ?_
    refine (yields_operands h (fuel + 1)).weaken.bind fun rest hrest => ?_
    cases rest with
    | nil => exact yields_pure hf
    | cons e rest =>
      refine yields_extent (by simp) fun w hw => ?_
      simp [SoundExpr, Expr.nodes, hw, hf, hrest]
  exact yjoined "or" false (cjoined "and" true cinversion)
    (yjoined "and" true cinversion yinversion)

/-- The nodes of an expression lie within its rows, whatever its level. -/
theorem yields_levels (fuel : Nat) :
    Yields lo hi [] [] (Parse.primary fuel) (SoundExpr lo hi) ∧
      Yields lo hi [] [] (disjunction fuel) (SoundExpr lo hi) ∧
      Yields lo hi [] [] (expression fuel) (SoundExpr lo hi) := by
  induction fuel with
  | zero => exact ⟨yields_fail, yields_fail, yields_fail⟩
  | succ fuel ih =>
    obtain ⟨hprimary, hdisjunction, hexpression⟩ := ih
    obtain ⟨cprimary, cdisjunction, cexpression⟩ := closes_levels fuel
    refine ⟨?_, yields_disjunction_succ hprimary, ?_⟩
    · unfold Parse.primary
      exact yields_from (yields_atom fuel hexpression hprimary cprimary hdisjunction)
        (closes_atom fuel cexpression cprimary cdisjunction)
        fun start e he => yields_trailers hexpression start (fuel + 1) e he
    · unfold expression
      refine yields_from hdisjunction cdisjunction fun start yes hy => ?_
      refine yields_askWord _ ?_ (yields_pure hy)
      refine hdisjunction.weaken.bind fun test ht => (yields_word _).bind fun _ _ => ?_
      refine hexpression.weaken.bind fun no hn => yields_extent (by simp) fun w hw => ?_
      simp [SoundExpr, Expr.nodes, hw, ht, hy, hn]

theorem yields_expression (fuel : Nat) :
    Yields lo hi [] [] (expression fuel) (SoundExpr lo hi) := (yields_levels fuel).2.2

theorem yields_atExpression : Yields lo hi P B atExpression fun _ => True :=
  yields_look fun _ => ⟨_, rfl⟩

theorem yields_moreExpressions (depth : Nat) : ∀ fuel,
    Yields lo hi [] [] (moreExpressions depth fuel) fun es => Sound lo hi (nodesOfAll es)
  | 0 => yields_fail
  | fuel + 1 => by
    unfold moreExpressions
    refine yields_atExpression.bind fun _ _ => yields_ite ?_ (yields_pure sound_nil)
    refine (yields_expression depth).bind fun e he => yields_askOp _ ?_ ?_
    · exact (yields_moreExpressions depth fuel).bind fun es hes =>
        yields_pure (by simp [nodesOfAll, he, hes])
    · exact yields_pure (by simp [nodesOfAll, he])

theorem yields_expressions (fuel : Nat) :
    Yields lo hi [] [] (expressions fuel) (SoundExpr lo hi) := by
  unfold expressions
  refine yields_from (yields_expression fuel) (closes_expression fuel) fun start e he => ?_
  refine yields_askOp _ ?_ (yields_pure he)
  refine (yields_moreExpressions fuel fuel).weaken.bind fun others ho => ?_
  refine yields_extent (by simp) fun w hw => ?_
  simp [SoundExpr, Expr.nodes, nodesOfAll, hw, he, ho]

end Parse

end Stencil.Script
