import Stencil.Proofs.Script.Ladder
import Stencil.Proofs.Script.Past

/-!
# Lines on their way up a ladder

The terminals of rows of code, from one place before a statement to another, are lines that stand in
these rows, one below the other, between which blocks begin and end at the levels that the scan
remembers. So their items are a ladder where the rows are moved apart, if the first line follows what
stands before it.

## Main definitions

* `Climbs` — terminals that lead from the levels of some blocks to those of others.

## Main results

* `Terminals.Scan.Leads.climbs` — the levels that a scan remembers.
* `Terminals.Scan.Leads.behind_blanks` — no terminal stands before the blanks of the first row.
* `Ladder.of_cut` — the lines of code.
-/

namespace Stencil.Script

variable {moved : Nat → Nat} {count lo hi depth : Nat} {a c : Standing} {ws vs us : List Nat}
  {t : Terminal} {ts xs : List Terminal} {items : List Item}

/-- Terminals that begin and end blocks lead from the levels of the blocks around them, innermost
first, to those behind them. -/
inductive Climbs : (ws : List Nat) → List Terminal → (vs : List Nat) → Prop where
  | nil {ws : List Nat} : Climbs ws [] ws
  | indent {ws vs : List Nat} {t : Terminal} {ts : List Terminal} (w : Nat) (kind : t.kind = .indent)
      (after : Climbs (w :: ws) ts vs) : Climbs ws (t :: ts) vs
  | dedent {ws vs : List Nat} {t : Terminal} {ts : List Terminal} {w : Nat} (kind : t.kind = .dedent)
      (after : Climbs ws ts vs) : Climbs (w :: ws) (t :: ts) vs
  | solid {ws vs : List Nat} {t : Terminal} {ts : List Terminal} (kind : t.kind ≠ .indent)
      (kind' : t.kind ≠ .dedent) (after : Climbs ws ts vs) : Climbs ws (t :: ts) vs

namespace Climbs

theorem append (h : Climbs ws ts vs) (k : Climbs vs xs us) : Climbs ws (ts ++ xs) us := by
  induction h with
  | nil => exact k
  | indent w kind _ ih => exact .indent w kind (ih k)
  | dedent kind _ ih => exact .dedent kind (ih k)
  | solid kind kind' _ ih => exact .solid kind kind' (ih k)

/-- Terminals that are no layout leave all blocks as they are. -/
theorem of_solid (h : Climbs ws (ts ++ xs) vs)
    (hts : ∀ t ∈ ts, t.kind ≠ .indent ∧ t.kind ≠ .dedent) : Climbs ws xs vs := by
  induction ts with
  | nil => exact h
  | cons t ts ih =>
    obtain ⟨⟨indent, dedent⟩, hts⟩ := List.forall_mem_cons.1 hts
    cases h with
    | indent w kind => exact absurd kind indent
    | dedent kind => exact absurd kind dedent
    | solid _ _ after => exact ih after hts

end Climbs

theorem Terminal.isVisible_kind (h : t.isVisible = true) :
    t.kind ≠ .indent ∧ t.kind ≠ .dedent ∧ t.kind ≠ .newline := by
  refine ⟨?_, ?_, ?_⟩ <;> intro hk <;> simp [Terminal.isVisible, hk] at h

namespace Terminals.Scan

variable {s s' s₁ : Scan} {m m' : Margin} {fuel : Nat} {r v w z blanks rest : Text}

/-! ## Levels -/

/-- The levels of the blocks that a scan stands inside of. -/
def widths (s : Scan) : List Nat := s.indents.map Prod.fst

theorem climbs_dedents {wide narrow n : Nat} {ws kept : List (Nat × Nat)}
    (h : dedent? wide narrow ws = some (n, kept)) (ht : t.kind = .dedent) :
    Climbs (ws.map Prod.fst) (List.replicate n t) (kept.map Prod.fst) := by
  induction ws generalizing n with
  | nil =>
    simp only [dedent?, Option.ite_none_right_eq_some, Option.some.injEq, Prod.mk.injEq] at h
    obtain ⟨-, rfl, rfl⟩ := h
    exact .nil
  | cons level outer ih =>
    obtain ⟨w, k⟩ := level
    rw [dedent?] at h
    split at h
    · obtain ⟨⟨n', kept'⟩, hd, he⟩ := Option.map_eq_some_iff.1 h
      obtain ⟨rfl, rfl⟩ := Prod.mk.inj he
      exact .dedent ht (ih hd)
    · simp only [Option.ite_none_right_eq_some, Option.some.injEq, Prod.mk.injEq] at h
      obtain ⟨-, rfl, rfl⟩ := h
      exact .nil

theorem climbs_indent (h : s.indent m = .ok (ts, s')) : Climbs s.widths ts s'.widths := by
  simp only [indent] at h
  split at h
  · split at h
    · cases h
    · obtain ⟨rfl, rfl⟩ := Prod.mk.inj (Except.ok.inj h)
      exact .indent _ rfl .nil
  · split at h
    · rename_i ended kept hd
      obtain ⟨rfl, rfl⟩ := Prod.mk.inj (Except.ok.inj h)
      exact climbs_dedents hd rfl
    · cases h

/-- The innermost block behind the layout before a statement is that of the margin. -/
theorem headD_indent (h : s.indent m = .ok (ts, s')) : s'.indents.headD (0, 0) = m.measures := by
  have kept {wide narrow n : Nat} {ws kept : List (Nat × Nat)}
      (h : dedent? wide narrow ws = some (n, kept)) : kept.headD (0, 0) = (wide, narrow) := by
    induction ws generalizing n with
    | nil =>
      simp only [dedent?, Option.ite_none_right_eq_some, Option.some.injEq, Prod.mk.injEq] at h
      obtain ⟨⟨rfl, rfl⟩, -, rfl⟩ := h
      rfl
    | cons level outer ih =>
      obtain ⟨w, k⟩ := level
      rw [dedent?] at h
      split at h
      · obtain ⟨⟨n', kept'⟩, hd, he⟩ := Option.map_eq_some_iff.1 h
        obtain ⟨-, rfl⟩ := Prod.mk.inj he
        exact ih hd
      · simp only [Option.ite_none_right_eq_some, Option.some.injEq, Prod.mk.injEq] at h
        obtain ⟨⟨rfl, rfl⟩, -, rfl⟩ := h
        rfl
  simp only [indent] at h
  split at h
  · split at h
    · cases h
    · obtain ⟨-, rfl⟩ := Prod.mk.inj (Except.ok.inj h)
      rfl
  · split at h
    · rename_i hd
      obtain ⟨-, rfl⟩ := Prod.mk.inj (Except.ok.inj h)
      exact kept hd
    · cases h

theorem margin_indents (h : s.margin fuel m = .ok (m', s')) : s'.indents = s.indents := by
  induction fuel generalizing s m with
  | zero =>
    obtain ⟨-, rfl⟩ := Prod.mk.inj (Except.ok.inj h)
    rfl
  | succ fuel ih =>
    unfold margin at h
    split at h
    · obtain ⟨-, rfl⟩ := Prod.mk.inj (Except.ok.inj h)
      rfl
    · split at h
      · have kept := ih h
        exact kept
      · split at h
        · split at h
          · split at h
            · cases h
            · split at h
              · cases h
              · have kept := ih h
                exact kept
          · cases h
        · obtain ⟨-, rfl⟩ := Prod.mk.inj (Except.ok.inj h)
          rfl

theorem climbs_of_steps (h : Steps s ts s') : Climbs s.widths ts s'.widths := by
  have same {s' : Scan} (he : s'.indents = s.indents) : Climbs s.widths [] s'.widths := by
    rw [widths, widths, he]
    exact .nil
  cases h with
  | quiet _ margin =>
    have kept := margin_indents margin
    exact same kept
  | inside _ margin =>
    have kept := margin_indents margin
    exact same kept
  | layout _ margin _ _ indent =>
    have climbs := climbs_indent indent
    rwa [widths, margin_indents margin] at climbs
  | blank => exact same rfl
  | comment => exact same rfl
  | lineEnd =>
    split
    · exact .solid (by simp [empty, terminal]) (by simp [empty, terminal]) (same rfl)
    · exact same rfl
  | joint => exact same rfl
  | visible _ _ _ found =>
    have kind := Terminal.isVisible_kind (visible?_kind found [] default 0)
    exact .solid kind.1 kind.2.1 (same rfl)

/-- The levels that a scan remembers are those of the blocks that its terminals begin and end. -/
theorem Leads.climbs (h : Leads s ts s') : Climbs s.widths ts s'.widths := by
  induction h with
  | refl => exact .nil
  | step first _ ih => exact (climbs_of_steps (step_cases first)).append ih

/-! ## Places -/

/-- A margin goes on beyond the blanks of the first row. -/
theorem upto_margin (h : s.margin s.rest.length m = .ok (m', s')) (hr : s.rest = blanks ++ r)
    (hall : ∀ b ∈ blanks, isBlank b = true) (hn : s'.rest ≠ []) :
    (⟨s.row, s.column + blanks.length⟩ : Pos).upto s'.place := by
  rw [hr, List.length_append, margin_pass _ _ hall hr] at h
  obtain ⟨w, past⟩ := past_margin h
  exact past.upto hn

/-- No terminal stands before the blanks of the first row. -/
theorem Leads.behind_blanks (h : Leads s ts s') (hf : s.fresh = true) (hr : s.rest = blanks ++ r)
    (hall : ∀ b ∈ blanks, isBlank b = true) (ht : t ∈ ts) (hv : t.isVisible = true) :
    (⟨s.row, s.column + blanks.length⟩ : Pos).upto t.span.begins := by
  cases h with
  | refl => cases ht
  | @step _ next _ layout others first further =>
    obtain ⟨w, tracks⟩ := further.tracks
    have found (ht : t ∈ others) : next.Finds w t := tracks.finds t ht (.inl hv)
    have more (ht : t ∈ others) : next.rest ≠ [] := by
      rw [tracks.past.rest]
      exact List.append_ne_nil_of_left_ne_nil (found ht).ne_nil _
    cases step_cases first with
    | @quiet m₁ s₁ c u _ margin rest nothing =>
      have upto := upto_margin margin hr hall (by rw [rest]; exact List.cons_ne_nil c u)
      have further : s₁.row < t.span.row := by
        have start := (found ht).start.row
        have left : (fromRowEnd s₁.rest).tail ≠ [] := more ht
        have next : (s₁.nextRow (fromRowEnd s₁.rest).tail).row = s₁.row + 1 :=
          if_neg (by simpa using left)
        exact Nat.lt_of_lt_of_le (Nat.lt_of_lt_of_eq (Nat.lt_succ_self _) next.symm) start
      exact .inl (Nat.lt_of_le_of_lt upto.row further)
    | inside _ margin => exact (upto_margin margin hr hall (more ht)).trans (found ht).start
    | @layout m₁ s₁ _ _ _ margin brackets _ indent =>
      have place := indent_place indent
      rcases List.mem_append.1 ht with hl | ht
      · rcases indent_kinds indent t hl with hk | hk <;> simp [Terminal.isVisible, hk] at hv
      · have start := (found ht).start
        have left := more ht
        rw [place] at start left
        exact (upto_margin margin hr hall left).trans start
    | blank notFresh => simp [hf] at notFresh
    | comment notFresh => simp [hf] at notFresh
    | lineEnd notFresh => simp [hf] at notFresh
    | joint notFresh => simp [hf] at notFresh
    | visible notFresh => simp [hf] at notFresh

/-- Terminals that are found before the end of rows stand in them. -/
theorem Leads.row_lt (h : Leads s ts s') (hr : s.rest = r ++ v) (hr' : v <:+ s'.rest)
    (hl : r ≠ [] → r.getLast? = some 10) (ht : t ∈ ts) (hv : t.isVisible = true) :
    t.span.row < s.row + r.lineFeeds := by
  obtain ⟨w, tracks⟩ := h.tracks
  obtain ⟨z, hz⟩ := hr'
  have split : r = w ++ z := by
    have past := tracks.past.rest
    rw [hr, ← hz, ← List.append_assoc] at past
    exact List.append_cancel_right past
  have found := (tracks.finds t ht (.inl hv)).append z
  rw [← split] at found
  exact Nat.lt_of_le_of_lt found.extent.row (found.endRow_lt (hl found.ne_nil))

/-- The terminals that are found in rows stand in these rows one after another. -/
theorem Tracks.inRows (h : s.Tracks w ts s') (hpos : 0 < s.row) (hl : w.getLast? = some 10)
    (hw : (13 : CodePoint) ∉ w) : InRows s.row (s.row + w.lineFeeds - 1) ts := by
  refine ⟨hpos, fun t ht hv => ?_, fun t ht hv => (h.finds t ht (.inl hv)).rows, fun t ht hv hm => ?_,
    h.apart.imp fun {x y} precedes => precedes.apart⟩
  · have found := h.finds t ht (.inl hv)
    exact ⟨found.start.row, found.extent, Nat.le_sub_one_of_lt (found.endRow_lt hl)⟩
  · obtain ⟨x, y, he, -, -⟩ := (h.finds t ht (.inl hv)).inside
    exact hw (by simp [he, hm])

end Terminals.Scan

/-! ## Ladders -/

/-- Layout leads from one level to another, and no line is passed. -/
theorem Ladder.of_layout (h : Climbs ws ts vs) (hts : ∀ t ∈ ts, t.kind = .indent ∨ t.kind = .dedent) :
    Ladder moved count a ws (Item.ofTerminals [] ts) a vs ∧ ∀ xs,
      Item.ofTerminals [] (ts ++ xs) = Item.ofTerminals [] ts ++ Item.ofTerminals [] xs := by
  induction h with
  | nil => exact ⟨.nil, fun _ => rfl⟩
  | @indent _ _ t ts w kind _ ih =>
    obtain ⟨ladder, append⟩ := ih (List.forall_mem_cons.1 hts).2
    have item (xs : List Terminal) := (Item.ofTerminals_layout (t := t) xs).1 kind
    refine ⟨by rw [item]; exact .indent w ladder, fun xs => ?_⟩
    rw [List.cons_append, item, item, append]
    rfl
  | @dedent _ _ t ts _ kind _ ih =>
    obtain ⟨ladder, append⟩ := ih (List.forall_mem_cons.1 hts).2
    have item (xs : List Terminal) := (Item.ofTerminals_layout (t := t) xs).2.1 kind
    refine ⟨by rw [item]; exact .dedent ladder, fun xs => ?_⟩
    rw [List.cons_append, item, item, append]
    rfl
  | @solid _ _ t ts kind kind' =>
    rcases hts t List.mem_cons_self with hk | hk
    · exact absurd hk kind
    · exact absurd hk kind'

/-- The standing at the end of items: that of the last line, or the one before them. -/
inductive Ladder.Last (moved : Nat → Nat) (depth : Nat) (a : Standing) (items : List Item) :
    Standing → Prop where
  | none (none : ∀ first others, .line first others ∉ items) : Last moved depth a items a
  | line (before : List Item) {first : Terminal} {others : List Terminal}
      (last : items = before ++ [.line first others]) :
      Last moved depth a items (.ofLine moved false depth first others)

theorem Ladder.Last.cons {item : Item} (h : Ladder.Last moved depth a items c)
    (hi : ∀ first others, item ≠ .line first others) : Ladder.Last moved depth a (item :: items) c := by
  cases h with
  | none none =>
    refine .none fun first others hm => ?_
    rcases List.mem_cons.1 hm with he | hm
    · exact hi first others he.symm
    · exact none first others hm
  | line before last => exact .line (item :: before) (by rw [last]; rfl)

/-- The first terminal of a line is one of the terminals. -/
theorem Phase.Cut.mem_line {p q : Phase} {first : Terminal} {others : List Terminal}
    (h : Phase.Cut p ts items q) (hm : .line first others ∈ items) :
    first ∈ ts ∧ first.isVisible = true := by
  induction h with
  | nil => cases hm
  | line _ visible _ _ ih =>
    rcases List.mem_cons.1 hm with he | hm
    · obtain ⟨rfl, rfl⟩ := Item.line.inj he
      exact ⟨by simp, visible _ List.mem_cons_self⟩
    · exact ⟨by simp [(ih hm).1], (ih hm).2⟩
  | indent _ _ ih =>
    have found := ih ((List.mem_cons.1 hm).resolve_left nofun)
    exact ⟨List.mem_cons_of_mem _ found.1, found.2⟩
  | dedent _ _ _ ih =>
    have found := ih ((List.mem_cons.1 hm).resolve_left nofun)
    exact ⟨List.mem_cons_of_mem _ found.1, found.2⟩
  | stop => exact absurd (List.mem_singleton.1 hm) nofun

/-- Lines of code that stand in rows which are moved apart are a ladder if the first of them follows
what stands before it. -/
theorem Ladder.of_cut {p q : Phase} (cut : Phase.Cut p ts items q) (hq : q = .start)
    (climbs : Climbs ws ts vs) (rows : InRows lo hi ts) (apart : ts.Pairwise Terminal.Precedes)
    (spread : Spread moved count lo hi)
    (follows : ∀ first others, .line first others ∈ items →
      a.Follows (.ofLine moved false depth first others)) :
    ∃ c, Ladder moved count a ws items c vs ∧ Ladder.Last moved depth a items c := by
  induction cut generalizing a ws with
  | nil =>
    cases climbs
    exact ⟨a, .nil, .none nofun⟩
  | @line p q first t others ts items _ visible newline after ih =>
    have hfirst : first.isVisible = true := visible first List.mem_cons_self
    have solid (x : Terminal) (hx : x ∈ first :: others ++ [t]) :
        x.kind ≠ .indent ∧ x.kind ≠ .dedent := by
      rcases List.mem_append.1 hx with hx | hx
      · exact (Terminal.isVisible_kind (visible x hx)).imp_right And.left
      · rw [List.mem_singleton.1 hx, newline]
        decide
    rw [show first :: others ++ t :: ts = first :: others ++ [t] ++ ts by simp] at climbs rows apart
    have keeps := rows.keeps first (by simp) hfirst
    obtain ⟨own, further, beyond⟩ := List.pairwise_append.1 apart
    -- a line ends in its last row, and the next one begins in a later row
    have later (x : Terminal) (hx : x ∈ ts) (hv : x.isVisible = true) :
        moved first.span.row < moved x.span.row := by
      have ended : first.span.endRow ≤ t.span.row :=
        ((List.pairwise_append.1 own).2.2 first List.mem_cons_self t List.mem_cons_self).ended
          hfirst newline
      have below := (beyond t (by simp) x hx).later newline hv
      have inside := rows.keeps x (List.mem_append_right _ hx) hv
      have order := keeps.order.row
      have upto : first.span.row ≤ first.span.endRow := order
      have upto' : x.span.row ≤ x.span.endRow := inside.order.row
      exact spread.increases keeps.first (by omega) (Nat.le_trans upto' inside.last)
    obtain ⟨c, ladder, last⟩ := ih hq (climbs.of_solid solid)
      (rows.sublist (List.sublist_append_right _ _)) further (a := .ofLine moved false depth first others)
      fun f o hm => by
        obtain ⟨hf, hv⟩ := after.mem_line hm
        have below := later f hf hv
        exact ⟨Nat.le_of_lt below, fun he => absurd he (Nat.ne_of_lt below),
          fun he => absurd he (Nat.ne_of_lt below)⟩
    refine ⟨c, .line (rows.sublist ?_) hfirst spread ?_ (follows first others List.mem_cons_self)
      ladder, ?_⟩
    · rw [List.append_assoc]
      exact List.sublist_append_left _ _
    · nofun
    · cases last with
      | none none =>
        rcases after.last hq with ⟨rfl, -⟩ | ⟨before, f, o, rfl⟩
        · exact .line [] rfl
        · exact absurd (List.mem_append_right _ List.mem_cons_self) (none f o)
      | line before last => exact .line (.line first others :: before) (by rw [last]; rfl)
  | @indent q t ts items kind after ih =>
    cases climbs with
    | indent w _ climbs =>
      obtain ⟨c, ladder, last⟩ := ih hq climbs (rows.sublist (List.sublist_cons_self _ _))
        (List.pairwise_cons.1 apart).2 fun f o hm => follows f o (List.mem_cons_of_mem _ hm)
      exact ⟨c, .indent w ladder, last.cons nofun⟩
    | dedent kind' => simp [kind] at kind'
    | solid kind' => exact absurd kind kind'
  | @dedent p q t ts items kind phase after ih =>
    cases climbs with
    | indent w kind' => simp [kind] at kind'
    | dedent _ climbs =>
      obtain ⟨c, ladder, last⟩ := ih hq climbs (rows.sublist (List.sublist_cons_self _ _))
        (List.pairwise_cons.1 apart).2 fun f o hm => follows f o (List.mem_cons_of_mem _ hm)
      exact ⟨c, .dedent ladder, last.cons nofun⟩
    | solid _ kind' => exact absurd kind kind'
  | stop => cases hq

end Stencil.Script
