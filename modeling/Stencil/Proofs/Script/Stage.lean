import Stencil.Proofs.Script.Ends
import Stencil.Proofs.Script.Fields
import Stencil.Script.Position

/-!
# Parsers on terminals in rows

What a parser makes of terminals that stand one after another has extents of the same kind: each
begins where a terminal does, ends where the same or a later one does, and stays on the rows of the
terminals. A parser notes the place of the next terminal before it takes any; what it notes is the
beginning of an extent as soon as something has been taken.

## Main definitions

* `Span.Keeps` — an extent within rows.
* `InRows` — terminals that stand one after another in rows.
* `Sound` — nodes within rows.
* `Parser.Stage` — where a parser stands, with the places that it has noted.
* `Parser.Yields` — what a parser makes of terminals in rows.

## Main results

* `inRows_ofText` — the terminals of a script stand in its rows.
* `Parser.Yields.bind`, `Parser.Yields.seize` — one parser after another.
* `Parser.yields_here`, `Parser.yields_since` — the two ends of an extent.
-/

namespace Stencil.Script

/-- An extent lies within rows and does not end before it begins. -/
structure Span.Keeps (lo hi : Nat) (s : Span) : Prop where
  first : lo ≤ s.row
  order : s.begins.upto s.ends
  last : s.endRow ≤ hi

/-- The terminals that are no layout stand one after another in rows. -/
structure InRows (lo hi : Nat) (ts : List Terminal) : Prop where
  positive : 0 < lo
  keeps : ∀ t ∈ ts, t.isVisible = true → t.span.Keeps lo hi
  rows : ∀ t ∈ ts, t.isVisible = true → t.span.endRow = t.span.row + t.text.lineFeeds
  /-- Line ends are unified. -/
  plain : ∀ t ∈ ts, t.isVisible = true → (13 : CodePoint) ∉ t.text
  apart : ts.Pairwise fun a b =>
    a.isVisible = true → b.isVisible = true → a.span.ends.upto b.span.begins

/-- Nodes lie within rows, and none ends before it begins. -/
def Sound (lo hi : Nat) (ns : List Node) : Prop := ∀ n ∈ ns, n.span.Keeps lo hi

variable {lo hi : Nat} {s o : Span} {t : Terminal} {ts : List Terminal}

@[simp] theorem sound_nil : Sound lo hi [] := nofun

@[simp] theorem sound_cons {n : Node} {ns : List Node} :
    Sound lo hi (n :: ns) ↔ n.span.Keeps lo hi ∧ Sound lo hi ns := List.forall_mem_cons

@[simp] theorem sound_append {ns ms : List Node} :
    Sound lo hi (ns ++ ms) ↔ Sound lo hi ns ∧ Sound lo hi ms := List.forall_mem_append

@[simp] theorem Node.span_at (s : Span) : (Node.at_ s).span = s := rfl

@[simp] theorem Node.span_named (s : Span) (id : Text) : (Node.named s id).span = s := rfl

@[simp] theorem Node.span_loose (s : Span) : (Node.loose s).span = s := rfl

theorem InRows.sublist {us : List Terminal} (h : InRows lo hi ts) (hu : us.Sublist ts) :
    InRows lo hi us :=
  ⟨h.positive, fun t ht => h.keeps t (hu.subset ht), fun t ht => h.rows t (hu.subset ht),
    fun t ht => h.plain t (hu.subset ht), h.apart.sublist hu⟩

theorem Span.Keeps.widen {a b : Nat} (h : s.Keeps a b) (ha : lo ≤ a) (hb : b ≤ hi) :
    s.Keeps lo hi := ⟨Nat.le_trans ha h.first, h.order, Nat.le_trans h.last hb⟩

theorem Span.Keeps.relocate {a b : Nat} (h : s.Keeps a b) (k : Nat) :
    (s.relocate (· + k)).Keeps (a + k) (b + k) := by
  refine ⟨Nat.add_le_add_right h.first k, ?_, Nat.add_le_add_right h.last k⟩
  have order := h.order
  simp only [Pos.upto, Span.begins, Span.ends, Span.relocate] at order ⊢
  omega

theorem InRows.widen {a b : Nat} (h : InRows a b ts) (hlo : 0 < lo) (ha : lo ≤ a) (hb : b ≤ hi) :
    InRows lo hi ts :=
  ⟨hlo, fun t ht hv => (h.keeps t ht hv).widen ha hb, h.rows, h.plain, h.apart⟩

/-- Terminals that are moved to other rows. -/
theorem InRows.relocate {a b : Nat} (h : InRows a b ts) (k : Nat) :
    InRows (a + k) (b + k)
      (ts.map fun t => { t with span := t.span.relocate (· + k) }) := by
  refine ⟨Nat.add_pos_left h.positive k, ?_, ?_, ?_, ?_⟩
  · exact List.forall_mem_map.2 fun t ht hv => (h.keeps t ht hv).relocate k
  · refine List.forall_mem_map.2 fun t ht hv => ?_
    have rows := h.rows t ht hv
    simp only [Span.relocate]
    omega
  · exact List.forall_mem_map.2 h.plain
  · refine List.pairwise_map.2 (h.apart.imp fun {x y} apart hx hy => ?_)
    have before := apart hx hy
    simp only [Pos.upto, Span.begins, Span.ends, Span.relocate] at before ⊢
    omega

open Terminals in
/-- The terminals of a complete script. -/
theorem inRows_ofText {u : Text} (hu : (13 : CodePoint) ∉ u) (hl : u.getLast? ≠ some 10)
    (h : (ofText u).ending = .complete) : InRows 1 (1 + u.lineFeeds) (ofText u).list := by
  rw [ofText_eq, lines_of_notMem hl hu] at h ⊢
  obtain ⟨us, s', leads, rest, list⟩ := Scan.leads_of_complete h
  obtain ⟨w, tracks⟩ := leads.tracks
  have whole : u ++ [10] = w := by
    have past := tracks.past.rest
    rwa [rest, List.append_nil] at past
  subst whole
  rw [list]
  have mem {t : Terminal} (ht : t ∈ us ++ [s'.empty .endMarker]) (hv : t.isVisible = true) :
      (Scan.start (u ++ [10])).Finds (u ++ [10]) t := by
    rcases List.mem_append.1 ht with ht | ht
    · exact tracks.finds t ht (.inl hv)
    · rw [List.mem_singleton.1 ht] at hv
      cases hv
  refine ⟨Nat.one_pos, fun t ht hv => ?_, fun t ht hv => (mem ht hv).rows, fun t ht hv hm => ?_,
    List.pairwise_append.2 ⟨tracks.apart.imp fun {x y} precedes => precedes.apart,
      List.pairwise_singleton _ _, fun x _ y hy _ hv => ?_⟩⟩
  · have found := mem ht hv
    refine ⟨found.start.row, found.extent, ?_⟩
    have below := found.endRow_lt (by simp)
    rw [Text.lineFeeds_append] at below
    exact Nat.le_of_lt_succ below
  · obtain ⟨a, b, he, -, -⟩ := (mem ht hv).inside
    have inside : (13 : CodePoint) ∈ u ++ [10] := by simp [he, hm]
    simp [hu] at inside
  · rw [List.mem_singleton.1 hy] at hv
    cases hv

/-- What begins before a terminal may end with it. -/
theorem Span.Keeps.through (hs : s.Keeps lo hi) (ht : t.span.Keeps lo hi)
    (h : s.begins.upto t.span.begins) : (s.through t.span).Keeps lo hi :=
  ⟨hs.first, h.trans ht.order, ht.last⟩

namespace Parser

/-- Terminals that are no layout lead from one cursor to another. -/
inductive Reaches : Cursor → Cursor → Prop where
  | refl (c : Cursor) : Reaches c c
  | take {c c' : Cursor} {t : Terminal} {rest : List Terminal} (next : c.rest = t :: rest)
      (visible : t.isVisible = true) (more : Reaches ⟨rest, t.span⟩ c') : Reaches c c'

theorem Reaches.trans {c c' d : Cursor} (h : Reaches c c') (k : Reaches c' d) : Reaches c d := by
  induction h with
  | refl => exact k
  | take next visible _ ih => exact .take next visible (ih k)

theorem reaches_take {c : Cursor} {rest : List Terminal} (next : c.rest = t :: rest)
    (visible : t.isVisible = true) : Reaches c ⟨rest, t.span⟩ := .take next visible (.refl _)

/-- Where a parser stands. What has been noted is pending until a terminal is taken, and an extent
has begun there after that. -/
structure Stage (lo hi : Nat) (pending begun : List Span) (c : Cursor) : Prop where
  rows : InRows lo hi c.rest
  pending : ∀ s ∈ pending, ∀ t rest, c.rest = t :: rest → t.isVisible = true →
    s.Keeps lo hi ∧ ∀ u ∈ t :: rest, u.isVisible = true → s.begins.upto u.span.begins
  begun : ∀ s ∈ begun, s.Keeps lo hi ∧ (s.through c.last).Keeps lo hi ∧
    ∀ u ∈ c.rest, u.isVisible = true → s.begins.upto u.span.begins

variable {P P' B B' : List Span} {c c' : Cursor}

theorem Stage.mono (h : Stage lo hi P B c) (hP : P' ⊆ P) (hB : B' ⊆ B) : Stage lo hi P' B' c :=
  ⟨h.rows, fun s hs => h.pending s (hP hs), fun s hs => h.begun s (hB hs)⟩

theorem Stage.take {rest : List Terminal} (h : Stage lo hi P B c) (next : c.rest = t :: rest)
    (visible : t.isVisible = true) : Stage lo hi P (P ++ B) ⟨rest, t.span⟩ := by
  have keeps : t.span.Keeps lo hi := h.rows.keeps t (next ▸ List.mem_cons_self) visible
  have later {u : Terminal} (hu : u ∈ rest) : u ∈ c.rest := next ▸ List.mem_cons_of_mem t hu
  refine ⟨h.rows.sublist (next ▸ List.sublist_cons_self t rest), fun s hs u us hu _ => ?_,
    fun s hs => ?_⟩
  · obtain ⟨ks, before⟩ := h.pending s hs t rest next visible
    have hu : rest = u :: us := hu
    exact ⟨ks, fun v hv => before v (List.mem_cons_of_mem t (hu ▸ hv))⟩
  · rcases List.mem_append.1 hs with hs | hs
    · obtain ⟨ks, before⟩ := h.pending s hs t rest next visible
      exact ⟨ks, ks.through keeps (before t List.mem_cons_self visible),
        fun u hu => before u (List.mem_cons_of_mem t hu)⟩
    · obtain ⟨ks, -, before⟩ := h.begun s hs
      exact ⟨ks, ks.through keeps (before t (next ▸ List.mem_cons_self) visible),
        fun u hu => before u (later hu)⟩

theorem Stage.reaches (h : Stage lo hi P B c) (hr : Reaches c c') : Stage lo hi P B c' := by
  induction hr with
  | refl => exact h
  | take next visible _ ih =>
    exact ih ((h.take next visible).mono (List.Subset.refl _) (List.subset_append_right P B))

/-- What has been noted is begun when something has been taken. -/
theorem Stage.took (h : Stage lo hi P B c) (hr : Reaches c c') (ht : Took c c') :
    Stage lo hi P (P ++ B) c' := by
  cases hr with
  | refl =>
    obtain ⟨us, u, hu, -⟩ := ht
    have length := congrArg List.length hu
    simp at length
    omega
  | take next visible more => exact (h.take next visible).reaches more

/-- A parser takes terminals in rows and makes something of them. -/
def Yields {α : Type} (lo hi : Nat) (P B : List Span) (p : Parser α) (Q : α → Prop) : Prop :=
  ∀ ⦃c a c'⦄, Stage lo hi P B c → p c = .ok (a, c') → Reaches c c' ∧ Q a

/-- A parser does so where a certain terminal comes next. -/
def YieldsAt {α : Type} (t : Terminal) (lo hi : Nat) (P B : List Span) (p : Parser α)
    (Q : α → Prop) : Prop :=
  ∀ ⦃c a c'⦄, c.rest.head? = some t → Stage lo hi P B c → p c = .ok (a, c') → Reaches c c' ∧ Q a

variable {α β : Type} {p q : Parser α} {f : α → Parser β} {Q R : α → Prop} {S : β → Prop} {a : α}

/-! ## One parser after another -/

theorem Yields.mono (h : Yields lo hi P' B' p Q) (hP : P' ⊆ P) (hB : B' ⊆ B) :
    Yields lo hi P B p Q := fun _ _ _ hc hp => h (hc.mono hP hB) hp

theorem Yields.weaken (h : Yields lo hi [] [] p Q) : Yields lo hi P B p Q :=
  h.mono (List.nil_subset _) (List.nil_subset _)

theorem Yields.at (h : Yields lo hi P B p Q) (t : Terminal) : YieldsAt t lo hi P B p Q :=
  fun _ _ _ _ hc hp => h hc hp

theorem Yields.imp (h : Yields lo hi P B p Q) (hR : ∀ a, Q a → R a) : Yields lo hi P B p R :=
  fun _ _ _ hc hp => ⟨(h hc hp).1, hR _ (h hc hp).2⟩

theorem yields_pure (h : Q a) : Yields lo hi P B (pure a) Q := fun c b c' _ hp => by
  obtain ⟨rfl, rfl⟩ := Prod.mk.inj (Except.ok.inj hp)
  exact ⟨.refl _, h⟩

theorem yields_throw (e : SyntaxFault) : Yields lo hi P B (throw e : Parser α) Q :=
  fun _ _ _ _ h => nomatch h

theorem Yields.bind (h : Yields lo hi P B p R) (hf : ∀ a, R a → Yields lo hi P B (f a) S) :
    Yields lo hi P B (p >>= f) S := by
  intro c b c' hc hb
  obtain ⟨a, u, hp, hb⟩ := Parse.exists_of_bind_ok hb
  obtain ⟨hr, ha⟩ := h hc hp
  obtain ⟨hr', hb⟩ := hf a ha (hc.reaches hr) hb
  exact ⟨hr.trans hr', hb⟩

/-- What has been noted is begun after a parser that takes something. -/
theorem Yields.seize (h : Yields lo hi P B p R) (closes : Closes p)
    (hf : ∀ a, R a → Yields lo hi P (P ++ B) (f a) S) : Yields lo hi P B (p >>= f) S := by
  intro c b c' hc hb
  obtain ⟨a, u, hp, hb⟩ := Parse.exists_of_bind_ok hb
  obtain ⟨hr, ha⟩ := h hc hp
  obtain ⟨hr', hb⟩ := hf a ha (hc.took hr (closes hp)) hb
  exact ⟨hr.trans hr', hb⟩

theorem Yields.map {g : α → β} (h : Yields lo hi P B p Q) (hg : ∀ a, Q a → S (g a)) :
    Yields lo hi P B (g <$> p) S := by
  rw [← bind_pure_comp]
  exact h.bind fun a ha => yields_pure (hg a ha)

theorem yields_ite {b : Prop} [Decidable b] (h : Yields lo hi P B p Q) (k : Yields lo hi P B q Q) :
    Yields lo hi P B (if b then p else q) Q := by
  split
  · exact h
  · exact k

theorem Yields.mapM {γ : Type} {g : γ → Parser β} {as : List γ}
    (h : ∀ a ∈ as, Yields lo hi P B (g a) S) :
    Yields lo hi P B (as.mapM g) fun bs => ∀ b ∈ bs, S b := by
  induction as with
  | nil =>
    rw [List.mapM_nil]
    exact yields_pure nofun
  | cons a as ih =>
    obtain ⟨first, others⟩ := List.forall_mem_cons.1 h
    rw [List.mapM_cons]
    exact first.bind fun b hb => (ih others).bind fun bs hbs =>
      yields_pure (List.forall_mem_cons.2 ⟨hb, hbs⟩)

/-! ## Single terminals -/

/-- A parser that only looks. -/
theorem yields_look (h : ∀ c, ∃ a, p c = .ok (a, c)) : Yields lo hi P B p fun _ => True := by
  intro c a c' _ hp
  obtain ⟨b, hb⟩ := h c
  obtain ⟨-, rfl⟩ := Prod.mk.inj (Except.ok.inj (hb.symm.trans hp))
  exact ⟨.refl _, trivial⟩

theorem yields_row : Yields lo hi P B row fun _ => True := yields_look fun _ => ⟨_, rfl⟩

theorem yields_atOp (w : Text) : Yields lo hi P B (atOp w) fun _ => True :=
  yields_look fun _ => ⟨_, rfl⟩

theorem yields_atWord (w : Text) : Yields lo hi P B (atWord w) fun _ => True :=
  yields_look fun _ => ⟨_, rfl⟩

theorem yields_failAt (row : Nat) : Yields lo hi P B (failAt row : Parser α) Q := yields_throw _

theorem yields_fail : Yields lo hi P B (fail : Parser α) Q :=
  yields_row.bind fun _ _ => yields_throw _

/-- A parser goes on unless something forbids it. -/
theorem yields_guard {b : Prop} [Decidable b] {g : Unit → Parser β}
    (h : Yields lo hi P B (g ()) S) : Yields lo hi P B (if b then fail >>= g else g ()) S :=
  yields_ite ((yields_fail (Q := fun _ => True)).bind fun _ _ => h) h

/-- The place of the next terminal is noted. -/
theorem Stage.here (hc : Stage lo hi P B c) (h : here c = .ok (s, c')) :
    c' = c ∧ Stage lo hi (s :: P) B c := by
  obtain ⟨rfl, rfl⟩ := Prod.mk.inj (Except.ok.inj h)
  refine ⟨rfl, hc.rows, fun s hs t rest next visible => ?_, hc.begun⟩
  rcases List.mem_cons.1 hs with rfl | hs
  · have keeps : t.span.Keeps lo hi := hc.rows.keeps t (next ▸ List.mem_cons_self) visible
    simp only [next]
    refine ⟨keeps, fun v hv later => ?_⟩
    rcases List.mem_cons.1 hv with rfl | hv
    · exact Pos.upto_refl _
    · have apart := hc.rows.apart
      rw [next] at apart
      exact keeps.order.trans ((List.pairwise_cons.1 apart).1 v hv visible later)
  · exact hc.pending s hs t rest next visible

theorem yields_here {f : Span → Parser β} (hf : ∀ s, Yields lo hi (s :: P) B (f s) S) :
    Yields lo hi P B (here >>= f) S := by
  intro c b c' hc hb
  obtain ⟨s, u, hp, hs⟩ := Parse.exists_of_bind_ok hb
  obtain ⟨rfl, stage⟩ := hc.here hp
  exact hf s stage hs

/-- An extent that has begun ends with the last terminal taken. -/
theorem yields_since {f : Span → Parser β} (hs : s ∈ B)
    (hf : ∀ w, w.Keeps lo hi → Yields lo hi P B (f w) S) :
    Yields lo hi P B (since s >>= f) S := by
  intro c b c' hc hb
  obtain ⟨w, u, hp, hb⟩ := Parse.exists_of_bind_ok hb
  obtain ⟨rfl, rfl⟩ := Prod.mk.inj (Except.ok.inj hp)
  exact hf _ (hc.begun s hs).2.1 hc hb

/-- The terminal at which an extent has begun is one itself. -/
theorem yields_begun (hs : s ∈ B) (h : s.Keeps lo hi → Yields lo hi P B p Q) :
    Yields lo hi P B p Q := fun _ _ _ hc hp => h (hc.begun s hs).1 hc hp

theorem visible_of_isOp {w : Text} (h : t.isOp w = true) : t.isVisible = true := by
  simp only [Terminal.isOp, Bool.and_eq_true, beq_iff_eq] at h
  simp [Terminal.isVisible, h.1]

theorem visible_of_isWord {w : Text} (h : t.isWord w = true) : t.isVisible = true := by
  simp only [Terminal.isWord, Bool.and_eq_true, beq_iff_eq] at h
  simp [Terminal.isVisible, h.1]

theorem yields_op? (w : Text) : Yields lo hi P B (op? w) fun _ => True := by
  intro c a c' _ h
  rw [op?_eq] at h
  split at h
  · rename_i t rest next
    split at h
    · rename_i ht
      obtain ⟨-, rfl⟩ := Prod.mk.inj (Except.ok.inj h)
      exact ⟨reaches_take next (visible_of_isOp ht), trivial⟩
    · obtain ⟨-, rfl⟩ := Prod.mk.inj (Except.ok.inj h)
      exact ⟨.refl _, trivial⟩
  · obtain ⟨-, rfl⟩ := Prod.mk.inj (Except.ok.inj h)
    exact ⟨.refl _, trivial⟩

theorem yields_word? (w : Text) : Yields lo hi P B (word? w) fun _ => True := by
  intro c a c' _ h
  rw [word?_eq] at h
  split at h
  · rename_i t rest next
    split at h
    · rename_i ht
      obtain ⟨-, rfl⟩ := Prod.mk.inj (Except.ok.inj h)
      exact ⟨reaches_take next (visible_of_isWord ht), trivial⟩
    · obtain ⟨-, rfl⟩ := Prod.mk.inj (Except.ok.inj h)
      exact ⟨.refl _, trivial⟩
  · obtain ⟨-, rfl⟩ := Prod.mk.inj (Except.ok.inj h)
    exact ⟨.refl _, trivial⟩

/-- Something is asked for; where it is there, it has been taken. -/
theorem yields_ask {ask : Parser Bool} {yes no : Parser β}
    (h : Yields lo hi P B ask fun _ => True)
    (asks : ∀ c c', ask c = .ok (true, c') → c'.rest ≠ c.rest)
    (hyes : Yields lo hi P (P ++ B) yes S) (hno : Yields lo hi P B no S) :
    Yields lo hi P B (ask >>= fun b => if b then yes else no) S := by
  intro c b c' hc hb
  obtain ⟨a, u, hp, hb⟩ := Parse.exists_of_bind_ok hb
  obtain ⟨hr, -⟩ := h hc hp
  cases a with
  | true =>
    have taken := asks _ _ hp
    cases hr with
    | refl => exact absurd rfl taken
    | take next visible more =>
      obtain ⟨hr', hb⟩ := hyes ((hc.take next visible).reaches more) hb
      exact ⟨.take next visible (more.trans hr'), hb⟩
  | false =>
    obtain ⟨hr', hb⟩ := hno (hc.reaches hr) hb
    exact ⟨hr.trans hr', hb⟩

theorem yields_askOp {yes no : Parser β} (w : Text) (hyes : Yields lo hi P (P ++ B) yes S)
    (hno : Yields lo hi P B no S) :
    Yields lo hi P B (op? w >>= fun b => if b then yes else no) S := by
  refine yields_ask (yields_op? w) (fun c c' h => ?_) hyes hno
  rw [op?_eq] at h
  split at h
  · rename_i t rest next
    split at h
    · obtain ⟨-, rfl⟩ := Prod.mk.inj (Except.ok.inj h)
      simp [next]
    · cases h
  · cases h

theorem yields_askWord {yes no : Parser β} (w : Text) (hyes : Yields lo hi P (P ++ B) yes S)
    (hno : Yields lo hi P B no S) :
    Yields lo hi P B (word? w >>= fun b => if b then yes else no) S := by
  refine yields_ask (yields_word? w) (fun c c' h => ?_) hyes hno
  rw [word?_eq] at h
  split at h
  · rename_i t rest next
    split at h
    · obtain ⟨-, rfl⟩ := Prod.mk.inj (Except.ok.inj h)
      simp [next]
    · cases h
  · cases h

theorem yields_op (w : Text) : Yields lo hi P B (op w) fun _ => True :=
  (yields_op? w).bind fun _ _ => yields_ite (yields_pure trivial) yields_fail

theorem yields_word (w : Text) : Yields lo hi P B (word w) fun _ => True :=
  (yields_word? w).bind fun _ _ => yields_ite (yields_pure trivial) yields_fail

/-- What comes next decides how to go on. -/
theorem yields_peekAt {f : Option Terminal → Parser β} (hnone : Yields lo hi P B (f none) S)
    (hsome : ∀ t, YieldsAt t lo hi P B (f (some t)) S) : Yields lo hi P B (peek >>= f) S := by
  intro c b c' hc hb
  obtain ⟨found, u, hp, hb⟩ := Parse.exists_of_bind_ok hb
  obtain ⟨rfl, rfl⟩ := Prod.mk.inj (Except.ok.inj hp)
  cases ht : c.rest.head? with
  | none =>
    rw [ht] at hb
    exact hnone hc hb
  | some t =>
    rw [ht] at hb
    exact hsome t ht hc hb

/-- The terminal that comes next is taken. -/
theorem yieldsAt_take {f : Terminal → Parser β} (visible : t.isVisible = true)
    (hf : ∀ u, Yields lo hi P (P ++ B) (f u) S) : YieldsAt t lo hi P B (take >>= f) S := by
  intro c b c' ht hc hb
  obtain ⟨u, d, hp, hb⟩ := Parse.exists_of_bind_ok hb
  obtain ⟨rest, next⟩ : ∃ rest, c.rest = t :: rest := by
    cases hr : c.rest with
    | nil => simp [hr] at ht
    | cons v rest =>
      rw [hr, List.head?_cons, Option.some.injEq] at ht
      exact ⟨rest, by rw [ht]⟩
  unfold take at hp
  rw [next] at hp
  obtain ⟨rfl, rfl⟩ := Prod.mk.inj (Except.ok.inj hp)
  obtain ⟨hr, hb⟩ := hf _ (hc.take next visible) hb
  exact ⟨.take next visible hr, hb⟩

/-- The terminal that comes next stands in the rows. -/
theorem yieldsAt_inRows (h : InRows lo hi [t] → YieldsAt t lo hi P B p Q) :
    YieldsAt t lo hi P B p Q := fun _ _ _ ht hc hp =>
  h (hc.rows.sublist (List.singleton_sublist.2 (List.mem_of_head? ht))) ht hc hp

theorem yieldsAt_ite {b : Prop} [Decidable b] (h : b → YieldsAt t lo hi P B p Q)
    (k : ¬b → YieldsAt t lo hi P B q Q) : YieldsAt t lo hi P B (if b then p else q) Q := by
  split
  · exact h ‹_›
  · exact k ‹_›

theorem yieldsAt_askOp {yes no : Parser β} (w : Text) (hyes : Yields lo hi P (P ++ B) yes S)
    (hno : YieldsAt t lo hi P B no S) :
    YieldsAt t lo hi P B (op? w >>= fun b => if b then yes else no) S := by
  intro c b c' ht hc hb
  obtain ⟨a, u, hp, hb⟩ := Parse.exists_of_bind_ok hb
  rw [op?_eq] at hp
  split at hp
  · rename_i v rest next
    split at hp
    · rename_i hv
      obtain ⟨rfl, rfl⟩ := Prod.mk.inj (Except.ok.inj hp)
      have visible := visible_of_isOp hv
      obtain ⟨hr, hb⟩ := hyes (hc.take next visible) hb
      exact ⟨.take next visible hr, hb⟩
    · obtain ⟨rfl, rfl⟩ := Prod.mk.inj (Except.ok.inj hp)
      exact hno ht hc hb
  · obtain ⟨rfl, rfl⟩ := Prod.mk.inj (Except.ok.inj hp)
    exact hno ht hc hb

theorem yields_name : Yields lo hi P B name fun _ => True := by
  refine yields_peekAt yields_fail fun t => yieldsAt_ite (fun ht => ?_) fun _ => yields_fail.at t
  refine yieldsAt_take ?_ fun _ => yields_pure trivial
  simp only [Terminal.isName, Bool.and_eq_true, beq_iff_eq] at ht
  simp [Terminal.isVisible, ht.1]

/-- A word and the terminal after it are taken. -/
theorem yieldsAt_nameTake {f : Text → Parser β} {u : Terminal} {rest : List Terminal}
    (hu : u.isVisible = true) (hf : ∀ id, Yields lo hi P (P ++ (P ++ B)) (f id) S)
    (hc : Stage lo hi P B c) (next : c.rest = t :: u :: rest) {b : β}
    (h : (name >>= fun id => take >>= fun _ => f id) c = .ok (b, c')) : Reaches c c' ∧ S b := by
  obtain ⟨id, d, hid, hb⟩ := Parse.exists_of_bind_ok h
  obtain ⟨hr, -⟩ := (yields_name (P := P) (B := B)) hc hid
  have taken := hc.took hr (closes_name hid)
  have second : d.rest.head? = some u := by
    obtain ⟨named, v, hv, hid⟩ := Parse.exists_of_bind_ok hid
    obtain ⟨rfl, rfl⟩ := Prod.mk.inj (Except.ok.inj hv)
    simp only [next, List.head?_cons] at hid
    split at hid
    · obtain ⟨w, e, hw, hid⟩ := Parse.exists_of_bind_ok hid
      obtain ⟨-, rfl⟩ := Prod.mk.inj (Except.ok.inj hid)
      unfold take at hw
      rw [next] at hw
      obtain ⟨-, rfl⟩ := Prod.mk.inj (Except.ok.inj hw)
      rfl
    · exact absurd hid (@never_fail _ id _ d)
  obtain ⟨hr', hb⟩ := yieldsAt_take hu (fun _ => hf id) second taken hb
  exact ⟨hr.trans hr', hb⟩

end Parser

end Stencil.Script
