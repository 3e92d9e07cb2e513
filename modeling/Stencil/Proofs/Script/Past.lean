import Stencil.Proofs.Script.Complete
import Stencil.Proofs.Script.Lines
import Stencil.Proofs.Script.Order
import Stencil.Proofs.Text.Rows

/-!
# Where terminals stand

A scan passes a script from its beginning to its end, so the terminals that it finds stand one after
another: each begins where the one before it ends or further on, and after the end of a line the
next one begins on a later row. A terminal spans as many rows as its text has.

## Main definitions

* `Span.begins`, `Span.ends` — the two places of an extent.
* `Scan.Past` — a scan has passed a text.
* `Terminal.Precedes` — one terminal stands before another.
* `Scan.Finds` — the terminals that are found in a text that is passed.

## Main results

* `Scan.Leads.finds` — what is found on the way from one place to another.
-/

namespace Stencil.Script

namespace Span

/-- The place at which an extent begins; columns count octets. -/
def begins (s : Span) : Pos := ⟨s.row, s.column⟩

/-- The place at which an extent ends. -/
def ends (s : Span) : Pos := ⟨s.endRow, s.endColumn⟩

end Span

theorem Pos.upto.row {p q : Pos} (h : p.upto q) : p.row ≤ q.row := by
  unfold Pos.upto at h
  omega

/-- One terminal stands before another, as far as they are no layout. -/
structure Terminal.Precedes (a b : Terminal) : Prop where
  apart : a.isVisible = true → b.isVisible = true → a.span.ends.upto b.span.begins
  later : a.kind = .newline → b.isVisible = true → a.span.row < b.span.row
  ended : a.isVisible = true → b.kind = .newline → a.span.endRow ≤ b.span.row

namespace Terminals

variable {c : CodePoint} {t u v w : Text} {q : Quote} {k m n : Nat} {kind : Kind}

/-! ## Ends of terminals -/

/-- A string ends in its quotes. -/
theorem getLast?_stringEnd (h : stringEnd? q n t = some m) :
    (t.take (m - n)).getLast? = some q.mark := by
  induction hl : t.length using Nat.strongRecOn generalizing t n with
  | ind l ih =>
    subst hl
    rcases t with _ | ⟨c, _ | ⟨d, t⟩⟩
    · simp [stringEnd?] at h
    · simp only [stringEnd?, Option.ite_none_right_eq_some, Option.some.injEq] at h
      obtain ⟨hc, rfl⟩ := h
      have mark : c ∈ q.marks := by rw [hc]; exact List.mem_singleton_self c
      rw [Nat.add_sub_cancel_left, List.eq_of_mem_replicate mark]
      rfl
    · have before := stringEnd?_lt h
      rw [stringEnd?_cons (List.cons_ne_nil d t)] at h
      split at h
      · have last := ih t.length (by simp only [List.length_cons]; omega) h rfl
        have after := stringEnd?_lt h
        obtain ⟨k, hk⟩ : ∃ k, m - n = k + 2 := ⟨m - n - 2, by omega⟩
        rw [show m - (n + 2) = k by omega] at last
        rw [List.tail_cons] at last
        rw [hk, List.take_succ_cons, List.take_succ_cons, List.getLast?_cons, List.getLast?_cons,
          last]
        rfl
      · split at h
        · rename_i hp
          obtain rfl := Option.some.inj h
          rw [Nat.add_sub_cancel_left,
            ← List.prefix_iff_eq_take.1 (List.isPrefixOf_iff_prefix.1 hp)]
          unfold Quote.marks
          split <;> rfl
        · split at h
          · simp at h
          · have last := ih (d :: t).length (by simp) h rfl
            have after := stringEnd?_lt h
            obtain ⟨k, hk⟩ : ∃ k, m - n = k + 1 := ⟨m - n - 1, by omega⟩
            rw [show m - (n + 1) = k by omega] at last
            rw [hk, List.take_succ_cons, List.getLast?_cons, last]
            rfl

/-- No terminal ends in a line feed. -/
theorem getLast?_visible (h : visible? (c :: t) = some (kind, n)) (hc : c ≠ 10) :
    ((c :: t).take n).getLast? ≠ some 10 := by
  cases hs : stringStart? (c :: t) with
  | some start =>
    obtain ⟨letters, q⟩ := start
    rw [visible?_of_string hs] at h
    obtain ⟨m, hm, he⟩ := Option.map_eq_some_iff.1 h
    obtain ⟨-, rfl⟩ := Prod.mk.inj he
    have last := getLast?_stringEnd hm
    have inside := stringEnd?_lt hm
    have mark : q.mark ≠ 10 := by
      rcases (stringStart?_eq_some hs).2.1 with hq | hq <;> rw [hq] <;> decide
    obtain ⟨k, hk⟩ : ∃ k, m = letters + q.marks.length + k :=
      ⟨m - (letters + q.marks.length), by omega⟩
    rw [hk, Nat.add_sub_cancel_left] at last
    rw [hk, List.take_add, List.getLast?_append, last]
    simpa using mark
  | none =>
    rw [visible?_of_plain hs] at h
    refine fun last => ?_
    have mem : (10 : CodePoint) ∈ (c :: t).take n := List.mem_of_getLast? last
    have feed : (10 : CodePoint) ∈ t :=
      (List.mem_cons.1 (List.mem_of_mem_take mem)).resolve_left (Ne.symm hc)
    obtain ⟨u, v, rfl, hu⟩ := List.eq_append_cons_of_mem feed
    have row : (10 : CodePoint) ∉ c :: u := by simp [Ne.symm hc, hu]
    rw [← List.cons_append, List.take_append_of_le_length (by simpa using plain?_le h)] at mem
    exact row (List.mem_of_mem_take mem)

namespace Scan

variable {s s' : Scan} {ts us : List Terminal} {fuel : Nat} {mg mg' : Margin}

/-! ## What is passed -/

/-- The place at which a scan stands. -/
def place (s : Scan) : Pos := ⟨s.row, s.column⟩

/-- A scan has passed a text. Where nothing is left it does not go to a further row. -/
structure Past (s : Scan) (w : Text) (s' : Scan) : Prop where
  rest : s.rest = w ++ s'.rest
  row : s'.rest ≠ [] → s'.row = s.row + w.lineFeeds
  upto : s'.rest ≠ [] → s.place.upto s'.place

theorem Past.refl (s : Scan) : s.Past [] s := ⟨rfl, fun _ => rfl, fun _ => Pos.upto_refl _⟩

/-- A scan that stands where another one does has passed the same. -/
theorem Past.congr (h : s.Past w s') {s₁ : Scan} (rest : s₁.rest = s'.rest)
    (place : s₁.place = s'.place) : s.Past w s₁ := by
  have row : s₁.row = s'.row := congrArg Pos.row place
  exact ⟨rest ▸ h.rest, fun hn => row ▸ h.row (rest ▸ hn), fun hn => place ▸ h.upto (rest ▸ hn)⟩

theorem Past.trans {s₁ : Scan} (h : s.Past v s₁) (k : s₁.Past w s') : s.Past (v ++ w) s' := by
  have more (hn : s'.rest ≠ []) : s₁.rest ≠ [] := by
    rw [k.rest]
    exact List.append_ne_nil_of_right_ne_nil _ hn
  refine ⟨by rw [h.rest, k.rest, List.append_assoc], fun hn => ?_, fun hn => ?_⟩
  · rw [k.row hn, h.row (more hn), Text.lineFeeds_append, Nat.add_assoc]
  · exact (h.upto (more hn)).trans (k.upto hn)

theorem past_pass (hr : s.rest = c :: t) (hc : c ≠ 10) : s.Past [c] (s.pass [c] t) := by
  refine ⟨hr, fun _ => ?_, fun _ => .inr ⟨rfl, Nat.le_add_right _ _⟩⟩
  simp [pass, Text.lineFeeds, hc]

/-- The end of a row is passed with what stands before it. -/
theorem past_nextRow (hr : s.rest = w ++ 10 :: t) (hw : (10 : CodePoint) ∉ w) :
    s.Past (w ++ [10]) (s.nextRow t) := by
  have feeds : (w ++ [10]).lineFeeds = 1 := by
    rw [Text.lineFeeds_append, lineFeeds_of_notMem hw]
    rfl
  have next (hn : t ≠ []) : (s.nextRow t).row = s.row + 1 := if_neg (by simpa using hn)
  refine ⟨by rw [hr, List.append_assoc]; rfl, fun hn => by rw [next hn, feeds], fun hn => .inl ?_⟩
  exact Nat.lt_of_lt_of_eq (Nat.lt_succ_self s.row) (next hn).symm

theorem past_margin (h : s.margin fuel mg = .ok (mg', s')) : ∃ w, s.Past w s' := by
  induction fuel generalizing s mg with
  | zero =>
    obtain ⟨-, rfl⟩ := Prod.mk.inj (Except.ok.inj h)
    exact ⟨[], .refl s⟩
  | succ fuel ih =>
    unfold margin at h
    split at h
    · obtain ⟨-, rfl⟩ := Prod.mk.inj (Except.ok.inj h)
      exact ⟨[], .refl s⟩
    · rename_i c rest hr
      split at h
      · rename_i hb
        obtain ⟨w, past⟩ := ih h
        exact ⟨_, (past_pass hr (ne_lineFeed_of_isBlank hb)).trans past⟩
      · split at h
        · rename_i hj
          subst hj
          split at h
          · rename_i d after
            split at h
            · simp at h
            · rename_i hd
              obtain rfl : d = 10 := not_not.1 hd
              split at h
              · simp at h
              · obtain ⟨w, past⟩ := ih h
                exact ⟨_, (past_nextRow (w := ['\\']) hr (by decide)).trans past⟩
          · simp at h
        · obtain ⟨-, rfl⟩ := Prod.mk.inj (Except.ok.inj h)
          exact ⟨[], .refl s⟩

theorem upto_after (s : Scan) (n : Nat) : s.place.upto (s.after n).place := by
  by_cases hf : Text.lineFeeds (s.rest.take n) = 0
  · refine .inr ⟨(congrArg (s.row + ·) hf).symm, ?_⟩
    rw [place, place, Scan.after]
    simp only [hf, ↓reduceIte]
    exact Nat.le_add_right _ _
  · exact .inl (Nat.lt_add_of_pos_right (Nat.pos_of_ne_zero hf))

theorem past_after (s : Scan) (n : Nat) : s.Past (s.rest.take n) (s.after n) :=
  ⟨(List.take_append_drop n s.rest).symm, fun _ => rfl, fun _ => upto_after s n⟩

/-- A comment is passed without its octets. -/
theorem past_comment (s : Scan) : ∃ w, s.Past w (s.pass [] (fromRowEnd s.rest)) := by
  refine ⟨s.rest.takeWhile fun (c : CodePoint) => c != '\n',
    List.takeWhile_append_dropWhile.symm, fun _ => ?_, fun _ => .inr ⟨rfl, Nat.le_refl _⟩⟩
  have plain : (10 : CodePoint) ∉ s.rest.takeWhile fun (c : CodePoint) => c != '\n' := fun hm =>
    absurd (mem_takeWhile hm) (by decide)
  rw [lineFeeds_of_notMem plain]
  rfl

theorem past_row (s : Scan) : ∃ w, s.Past w (s.nextRow (fromRowEnd s.rest).tail) := by
  have plain : (10 : CodePoint) ∉ s.rest.takeWhile fun (c : CodePoint) => c != '\n' := fun hm =>
    absurd (mem_takeWhile hm) (by decide)
  have whole : s.rest = (s.rest.takeWhile fun (c : CodePoint) => c != '\n') ++ fromRowEnd s.rest :=
    List.takeWhile_append_dropWhile.symm
  cases hd : fromRowEnd s.rest with
  | nil =>
    exact ⟨s.rest, (List.append_nil _).symm, fun hn => absurd rfl hn, fun hn => absurd rfl hn⟩
  | cons c t =>
    have first := List.head?_dropWhile_not (fun (c : CodePoint) => c != '\n') s.rest
    rw [show s.rest.dropWhile _ = c :: t from hd] at first
    obtain rfl : c = 10 := by simpa using first
    rw [hd] at whole
    exact ⟨_, past_nextRow whole plain⟩

/-! ## What is found -/

/-- A terminal is found in a text that is passed from a place on. -/
structure Finds (s : Scan) (w : Text) (t : Terminal) : Prop where
  start : s.place.upto t.span.begins
  extent : t.span.begins.upto t.span.ends
  rows : t.span.endRow = t.span.row + t.text.lineFeeds
  inside : ∃ a b, w = a ++ (t.text ++ b) ∧ t.span.row = s.row + a.lineFeeds ∧ t.text ++ b ≠ []
  last : t.text.getLast? ≠ some 10

theorem Finds.before {s₁ : Scan} {t : Terminal} (h : s.Past v s₁) (k : s₁.Finds w t)
    (hn : s₁.rest ≠ []) : s.Finds (v ++ w) t := by
  obtain ⟨a, b, he, hrow, hne⟩ := k.inside
  refine ⟨(h.upto hn).trans k.start, k.extent, k.rows, ⟨v ++ a, b, ?_, ?_, hne⟩, k.last⟩
  · rw [he, List.append_assoc]
  · rw [hrow, h.row hn, Text.lineFeeds_append, Nat.add_assoc]

theorem Finds.append {t : Terminal} (h : s.Finds v t) (w : Text) : s.Finds (v ++ w) t := by
  obtain ⟨a, b, he, hrow, hne⟩ := h.inside
  refine ⟨h.start, h.extent, h.rows, ⟨a, b ++ w, ?_, hrow, ?_⟩, h.last⟩
  · rw [he]
    simp only [List.append_assoc]
  · rw [← List.append_assoc]
    exact List.append_ne_nil_of_left_ne_nil hne w

/-- What is found is a piece of what is passed, so something is left before it. -/
theorem Finds.ne_nil {t : Terminal} (h : s.Finds w t) : w ≠ [] := by
  obtain ⟨a, b, rfl, -, hne⟩ := h.inside
  exact List.append_ne_nil_of_right_ne_nil a hne

/-- What is found in rows stands on one of them. -/
theorem Finds.endRow_lt {t : Terminal} (h : s.Finds w t) (hw : w.getLast? = some 10) :
    t.span.endRow < s.row + w.lineFeeds := by
  obtain ⟨a, b, rfl, hrow, hne⟩ := h.inside
  have hb : b.getLast? = some 10 := by
    cases b with
    | nil =>
      rw [List.append_nil] at hw hne
      rw [List.getLast?_append_of_ne_nil a hne] at hw
      exact absurd hw h.last
    | cons c b =>
      rwa [← List.append_assoc, List.getLast?_append_of_ne_nil _ (List.cons_ne_nil c b)] at hw
  have feed : 0 < b.lineFeeds := List.count_pos_iff.2 (List.mem_of_getLast? hb)
  rw [h.rows, hrow, Text.lineFeeds_append, Text.lineFeeds_append]
  omega

/-- A terminal that is no layout of blocks. -/
def IsSolid (t : Terminal) : Prop := t.isVisible = true ∨ t.kind = .newline

/-- The terminals that are found while a text is passed stand one after another. -/
structure Tracks (s : Scan) (w : Text) (ts : List Terminal) (s' : Scan) : Prop where
  past : s.Past w s'
  finds : ∀ t ∈ ts, IsSolid t → s.Finds w t
  ends : ∀ t ∈ ts, t.isVisible = true → s'.rest ≠ [] → t.span.ends.upto s'.place
  later : ∀ t ∈ ts, t.kind = .newline → s'.rest ≠ [] → t.span.row < s'.row
  apart : ts.Pairwise Terminal.Precedes

namespace Tracks

theorem refl (s : Scan) : s.Tracks [] [] s := ⟨.refl s, nofun, nofun, nofun, .nil⟩

theorem trans {s₁ : Scan} (h : s.Tracks v ts s₁) (k : s₁.Tracks w us s') :
    s.Tracks (v ++ w) (ts ++ us) s' := by
  have left : w ≠ [] ∨ s'.rest ≠ [] → s₁.rest ≠ [] := by
    rw [k.past.rest]
    simp only [ne_eq, List.append_eq_nil_iff]
    tauto
  refine ⟨h.past.trans k.past, fun t ht hs => ?_, fun t ht hv hn => ?_, fun t ht hk hn => ?_,
    List.pairwise_append.2 ⟨h.apart, k.apart, fun t ht u hu => ?_⟩⟩
  · rcases List.mem_append.1 ht with ht | ht
    · exact (h.finds t ht hs).append w
    · have found := k.finds t ht hs
      exact found.before h.past (left (.inl found.ne_nil))
  · rcases List.mem_append.1 ht with ht | ht
    · exact (h.ends t ht hv (left (.inr hn))).trans (k.past.upto hn)
    · exact k.ends t ht hv hn
  · rcases List.mem_append.1 ht with ht | ht
    · exact Nat.lt_of_lt_of_le (h.later t ht hk (left (.inr hn))) (k.past.upto hn).row
    · exact k.later t ht hk hn
  · have found (hs : IsSolid u) : s₁.rest ≠ [] ∧ s₁.place.upto u.span.begins :=
      ⟨left (.inl (k.finds u hu hs).ne_nil), (k.finds u hu hs).start⟩
    refine ⟨fun hv hv' => ?_, fun hk hv' => ?_, fun hv hk' => ?_⟩
    · obtain ⟨hn, start⟩ := found (.inl hv')
      exact (h.ends t ht hv hn).trans start
    · obtain ⟨hn, start⟩ := found (.inl hv')
      exact Nat.lt_of_lt_of_le (h.later t ht hk hn) start.row
    · obtain ⟨hn, start⟩ := found (.inr hk')
      exact ((h.ends t ht hv hn).trans start).row

/-- Nothing but layout is found. -/
theorem of_layout (h : s.Past w s') (hts : ∀ t ∈ ts, ¬ IsSolid t) : s.Tracks w ts s' := by
  have none_ {t : Terminal} (ht : t ∈ ts) (hs : IsSolid t) {p : Prop} : p := absurd hs (hts t ht)
  refine ⟨h, fun t ht hs => none_ ht hs, fun t ht hv => none_ ht (.inl hv),
    fun t ht hk => none_ ht (.inr hk), List.pairwise_of_forall_mem_list fun t ht u hu => ?_⟩
  exact ⟨fun hv => none_ ht (.inl hv), fun hk => none_ ht (.inr hk), fun hv => none_ ht (.inl hv)⟩

theorem of_nil (h : s.Past w s') : s.Tracks w [] s' := of_layout h nofun

theorem single {t : Terminal} (h : s.Past w s') (found : s.Finds w t)
    (ends : t.isVisible = true → s'.rest ≠ [] → t.span.ends.upto s'.place)
    (later : t.kind = .newline → s'.rest ≠ [] → t.span.row < s'.row) : s.Tracks w [t] s' := by
  refine ⟨h, fun u hu _ => ?_, fun u hu => ?_, fun u hu => ?_, List.pairwise_singleton _ _⟩ <;>
    obtain rfl := List.mem_singleton.1 hu
  · exact found
  · exact ends
  · exact later

end Tracks

theorem tracks_of_steps (h : Steps s ts s') : ∃ w, s.Tracks w ts s' := by
  cases h with
  | @quiet m s₁ c u fresh margin rest nothing =>
    obtain ⟨v, past⟩ := past_margin margin
    obtain ⟨w, further⟩ := past_row s₁
    exact ⟨v ++ w, .of_nil ((past.trans further).congr rfl rfl)⟩
  | @inside m s₁ fresh margin brackets =>
    obtain ⟨w, past⟩ := past_margin margin
    exact ⟨w, .of_nil (past.congr rfl rfl)⟩
  | @layout m s₁ _ _ fresh margin brackets more indent =>
    obtain ⟨w, past⟩ := past_margin margin
    have place := indent_place indent
    refine ⟨w, .of_layout (past.congr (by rw [place]) (by rw [place]; rfl)) fun t ht hs => ?_⟩
    rcases indent_kinds indent t ht with hk | hk <;> rcases hs with hs | hs <;>
      simp [Terminal.isVisible, hk] at hs
  | blank fresh rest blank =>
    exact ⟨_, .of_nil (past_pass rest (ne_lineFeed_of_isBlank blank))⟩
  | comment fresh rest =>
    obtain ⟨w, past⟩ := past_comment s
    exact ⟨w, .of_nil past⟩
  | @lineEnd u fresh rest =>
    have past : s.Past [10] { s.nextRow u with fresh := true } :=
      (past_nextRow (w := []) rest List.not_mem_nil).congr rfl rfl
    by_cases hb : s.brackets.isEmpty = true
    · rw [if_pos hb]
      have found : s.Finds [10] (s.empty .newline) :=
        ⟨Pos.upto_refl _, Pos.upto_refl _, rfl, ⟨[], [10], rfl, rfl, by simp⟩, by simp [empty, terminal]⟩
      refine ⟨_, .single past found (fun hv => Bool.noConfusion hv) fun _ hn => ?_⟩
      exact Nat.lt_of_lt_of_eq (Nat.lt_succ_self s.row) (past.row hn).symm
    · rw [if_neg hb]
      exact ⟨_, .of_nil past⟩
  | @joint u fresh rest ne =>
    exact ⟨_, .of_nil (past_nextRow (w := ['\\']) rest (by decide))⟩
  | @visible c u kind n brackets fresh rest begins found beyond =>
    have past : s.Past (s.rest.take n) { s.after n with brackets } :=
      (past_after s n).congr rfl rfl
    have hv : (s.terminal { s.after n with brackets } kind (s.rest.take n)).isVisible = true :=
      visible?_kind found _ _ _
    have hn : kind ≠ .newline := fun hk => by simp [Terminal.isVisible, terminal, hk] at hv
    have ne : s.rest.take n ≠ [] := by
      obtain ⟨n, rfl⟩ : ∃ m, n = m + 1 := ⟨n - 1, by have := visible?_pos found; omega⟩
      rw [rest]
      exact List.cons_ne_nil _ _
    refine ⟨_, .single past ⟨Pos.upto_refl _, upto_after s n, rfl, ⟨[], [], ?_, rfl, ?_⟩, ?_⟩
      (fun _ _ => Pos.upto_refl _) fun hk => absurd hk hn⟩
    · simp [terminal]
    · simpa [terminal] using ne
    · rw [rest] at found ⊢
      exact getLast?_visible found begins.2.2.1

/-- The terminals found on the way from a place to another stand one after another. -/
theorem Leads.tracks (h : Leads s ts s') : ∃ w, s.Tracks w ts s' := by
  induction h with
  | refl s => exact ⟨[], .refl s⟩
  | step first _ ih =>
    obtain ⟨v, tracks⟩ := tracks_of_steps (step_cases first)
    obtain ⟨w, others⟩ := ih
    exact ⟨v ++ w, tracks.trans others⟩

/-- A complete script is passed up to its end. -/
theorem leads_of_complete (h : s.all.ending = .complete) :
    ∃ ts s', Leads s ts s' ∧ s'.rest = [] ∧ s.all.list = ts ++ [s'.empty .endMarker] := by
  induction hn : s.work using Nat.strongRecOn generalizing s with
  | ind n ih =>
    subst hn
    cases hs : s.step with
    | ok next =>
      obtain ⟨ts, m⟩ := next
      rw [all_of_ok hs] at h ⊢
      obtain ⟨us, s', leads, rest, list⟩ := ih m.work (step_work_lt hs) h rfl
      exact ⟨ts ++ us, s', .step hs leads, rest, by rw [preceded, list, List.append_assoc]⟩
    | error stop =>
      obtain ⟨ts, e⟩ := stop
      rw [all_of_error hs] at h ⊢
      obtain rfl : e = .complete := h
      obtain ⟨rfl, -, rest, -⟩ := step_complete hs
      exact ⟨[], s, .refl s, rest, rfl⟩

end Scan

end Terminals

end Stencil.Script
