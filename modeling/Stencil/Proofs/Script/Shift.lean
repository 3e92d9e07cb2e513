import Mathlib.Data.List.Forall2
import Stencil.Proofs.Script.Tokens

/-!
# Tokens of shifted rows

Rows that stand further to the right, in other rows and inside other blocks have the same tokens:
only the places of the tokens, the indentations and what a string over several rows holds of its
margin differ. So the tokens of rows that end neither in a string, in brackets nor in a backslash
do not depend on what stands around them.

## Main definitions

* `Token.Like`, `Tokenizer.Like` — tokens and states that differ in places and texts of strings.
* `Tokenizer.Runs` — the tokens of rows between two states of the tokenizer.
* `Tokenizer.Sound`, `Tokenizer.Idle` — what holds between rows, and between statements.
* `lasting` — the tokens that neither stand for layout nor for a comment.

## Main results

* `Tokenizer.Like.step`, `Tokenizer.Like.runs` — a shifted row, and shifted rows, have like tokens.
* `tokenize_eq_ok` — rows that are tokens leave the tokenizer idle.
-/

namespace Stencil.Script

/-- How the texts of tokens, and of strings that are still open, change with the place of a row. -/
structure Change where
  closed : Text → Text → Prop
  opened : Text → Text → Prop

namespace Change

/-- Texts may change in any way. -/
def any : Change := ⟨fun _ _ => True, fun _ _ => True⟩

/-- Texts do not change. -/
def none : Change := ⟨Eq, Eq⟩

end Change

variable {R : Change} {c : CodePoint} {t u blanks : Text} {row row' column column' : Nat}
  {depth : Int}

/-! ## The same text at another place -/

/-- Tokens of one kind with related texts. -/
structure Token.Like (R : Change) (a b : Token) : Prop where
  kind : a.kind = b.kind
  text : R.closed a.text b.text

/-- Open strings between the same quotes with related texts. -/
structure OpenString.Like (R : Change) (a b : OpenString) : Prop where
  quote : a.quote = b.quote
  text : R.opened a.text b.text

/-- Rows end in the same way. -/
inductive RowEnding.Like (R : Change) : RowEnding → RowEnding → Prop where
  | plain : Like R .plain .plain
  | joined : Like R .joined .joined
  | within {a b : OpenString} (h : a.Like R b) : Like R (.within a) (.within b)

/-- Scans with like tokens that end in the same way. -/
structure RowScan.Like (R : Change) (a b : RowScan) : Prop where
  tokens : List.Forall₂ (Token.Like R) a.tokens b.tokens
  depth : a.depth = b.depth
  ending : a.ending.Like R b.ending

theorem RowScan.Like.cons {a b : RowScan} {s s' : Token} (h : a.Like R b) (ht : s.Like R s') :
    (a.cons s).Like R (b.cons s') :=
  ⟨.cons ht h.tokens, h.depth, h.ending⟩

/-- Texts of one row do not change. -/
structure KeepsRows (R : Change) : Prop where
  row : ∀ u, (10 : CodePoint) ∉ u → R.closed u u
  feed : R.closed [10] [10]
  start : ∀ u, (10 : CodePoint) ∉ u → R.opened (u ++ [10]) (u ++ [10])

theorem keepsRows_none : KeepsRows .none := ⟨fun _ _ => rfl, rfl, fun _ _ => rfl⟩

/-- What stands in a row does not depend on the place of the row. -/
theorem scanRow_like (hR : KeepsRows R) (ht : (10 : CodePoint) ∉ t) (skip : Nat) :
    (scanRow row skip column depth t).Like R (scanRow row' skip column' depth t) := by
  induction t generalizing skip column column' depth with
  | nil =>
    have ended (skip : Nat) : (scanRow row skip column depth []).Like R
        (scanRow row' skip column' depth []) := by
      cases skip <;> exact ⟨.cons ⟨rfl, hR.feed⟩ .nil, rfl, .plain⟩
    exact ended skip
  | cons c rest ih =>
    have hrest : (10 : CodePoint) ∉ rest := fun h => ht (List.mem_cons_of_mem _ h)
    cases skip with
    | succ skip => exact ih hrest skip
    | zero =>
      have texts (n : Nat) : R.closed ((c :: rest).take n) ((c :: rest).take n) :=
        hR.row _ fun h => ht (List.mem_of_mem_take h)
      have single : R.closed [c] [c] := by simpa using texts 1
      rw [scanRow, scanRow]
      split
      · exact (ih hrest 0).cons ⟨rfl, single⟩
      · split
        · exact ih hrest 0
        · split
          · exact (ih hrest _).cons ⟨rfl, texts _⟩
          · exact ⟨.nil, rfl, .within ⟨rfl, hR.start _ ht⟩⟩
          · exact ⟨.nil, rfl, .joined⟩
          · exact ⟨.nil, rfl, .plain⟩
          · exact ⟨.nil, rfl, .plain⟩

/-- No token is of unknown kind. -/
def Clear (ts : List Token) : Prop := ∀ t ∈ ts, t.kind ≠ .unknown

theorem Clear.append_iff {ts us : List Token} : Clear (ts ++ us) ↔ Clear ts ∧ Clear us :=
  List.forall_mem_append

theorem lexeme_ne_unknown (h : Clear (scanRow row 0 column depth t).tokens) :
    lexeme (t.dropWhile isGap) ≠ .unknown := by
  intro hl
  cases t with
  | nil => simp [lexeme] at hl
  | cons c rest =>
    rw [scanRow_unknown hl] at h
    exact h _ List.mem_cons_self rfl

/-- Blanks before a row only move it. -/
theorem scanRow_blanks (hb : ∀ b ∈ blanks, isGap b = true)
    (hl : lexeme (t.dropWhile isGap) ≠ .unknown) :
    scanRow row 0 column depth (blanks ++ t) =
      scanRow row 0 (column + blanks.length) depth t := by
  induction blanks generalizing column with
  | nil => rfl
  | cons b blanks ih =>
    obtain ⟨hgap, hb⟩ := List.forall_mem_cons.1 hb
    have reached : (b :: (blanks ++ t)).dropWhile isGap = t.dropWhile isGap := by
      rw [← List.cons_append]
      exact List.dropWhile_append_of_pos (List.forall_mem_cons.2 ⟨hgap, hb⟩)
    rw [List.cons_append, scanRow_gap hgap (by rwa [reached]), ih hb, List.length_cons]
    congr 1
    omega

/-! ## Strings -/

/-- A quote that a script knows. -/
def Quote.IsMark (q : Quote) : Prop := q.mark = 0x27 ∨ q.mark = 0x22

theorem isMark_of_stringStart? {n : Nat} {q : Quote} (h : stringStart? t = some (n, q)) :
    q.IsMark :=
  (stringStart?_eq_some h).2.1

/-- A lexeme that stands for a string, or for the beginning of one, begins with quotes. -/
theorem stringLexeme_of_lexeme {l : Lexeme} (h : lexeme t = l)
    (hl : (∃ q, l = .opening q) ∨ ∃ n, l = .token .string n) :
    ∃ n q, stringStart? t = some (n, q) ∧ stringLexeme t n q = some l := by
  have other {kind : Kind} {n : Nat} (hk : kind ≠ .string) : l ≠ .token kind n := by
    rintro rfl
    simp [hk] at hl
  have plain : l ≠ .joiner ∧ l ≠ .rowEnd ∧ l ≠ .unknown := by
    refine ⟨?_, ?_, ?_⟩ <;> rintro rfl <;> simp at hl
  unfold lexeme at h
  split at h
  · exact absurd h.symm plain.2.1
  · rename_i c rest
    split at h
    · exact absurd h.symm plain.1
    split at h
    · exact absurd h.symm (other (by decide))
    simp only at h
    split at h
    · rename_i n q hf
      obtain ⟨hs, -⟩ := Option.filter_eq_some_iff.1 hf
      cases hq : stringLexeme (c :: rest) n q with
      | none => exact absurd h.symm (by simpa [hq] using plain.2.2)
      | some l' =>
        obtain rfl : l' = l := by simpa [hq] using h
        exact ⟨n, q, hs, hq⟩
    · split at h
      · exact absurd h.symm (other (by decide))
      split at h
      · exact absurd h.symm (other (by decide))
      split at h
      · rename_i l' hl'
        subst h
        obtain ⟨⟨n, q⟩, hs, hq⟩ := Option.bind_eq_some_iff.1 hl'
        exact ⟨n, q, hs, hq⟩
      · unfold wordLexeme at h
        simp only at h
        split at h
        · split at h
          · exact absurd h.symm (other (by decide))
          · exact absurd h.symm (other (by decide))
        · exact absurd h.symm plain.2.2

theorem isMark_of_opening {q : Quote} (h : lexeme t = .opening q) : q.IsMark := by
  obtain ⟨n, p, hs, hl⟩ := stringLexeme_of_lexeme h (.inl ⟨q, rfl⟩)
  simp only [stringLexeme] at hl
  split at hl
  · simp at hl
  · split at hl
    · obtain rfl : p = q := by simpa using hl
      exact isMark_of_stringStart? hs
    · simp at hl

theorem isMark_of_within {skip : Nat} {s : OpenString}
    (h : (scanRow row skip column depth t).ending = .within s) : s.quote.IsMark := by
  induction t generalizing skip column depth with
  | nil => cases skip <;> simp [scanRow] at h
  | cons c rest ih =>
    cases skip with
    | succ skip => exact ih h
    | zero =>
      rw [scanRow] at h
      split at h
      · exact ih h
      · split at h
        · exact ih h
        · rename_i hc
          split at h
          · exact ih h
          · rename_i q hl
            obtain rfl := RowEnding.within.inj h
            exact isMark_of_opening hl
          all_goals simp at h

theorem closing?_blank {q : Quote} (hq : q.IsMark) (hb : isGap c = true) (t : Text) :
    q.closing? (c :: t) = (q.closing? t).map (· + 1) := by
  have hc : c ≠ ('\\' : CodePoint) ∧ c ≠ q.mark := by
    have hgap : c = 32 ∨ c = 12 ∨ c = 9 := by simpa [isGap, or_assoc] using hb
    rcases hq with hq | hq <;> rw [hq] <;> rcases hgap with rfl | rfl | rfl <;> decide
  have apart (u : Text) : q.marks.isPrefixOf (c :: u) = false := by
    have hne : q.mark ≠ c := hc.2.symm
    unfold Quote.marks
    split <;> simp [List.isPrefixOf, hne]
  have single : q.marks ≠ [c] := by
    intro h
    have := apart []
    rw [h] at this
    simp at this
  cases t with
  | nil => simp [Quote.closing?, single]
  | cons d rest => rw [Quote.closing?, if_neg hc.1, apart (d :: rest), if_neg (by simp)]

theorem closing?_blanks {q : Quote} (hq : q.IsMark) (hb : ∀ b ∈ blanks, isGap b = true) (t : Text) :
    q.closing? (blanks ++ t) = (q.closing? t).map (· + blanks.length) := by
  induction blanks with
  | nil => simp
  | cons b blanks ih =>
    obtain ⟨hgap, hb⟩ := List.forall_mem_cons.1 hb
    rw [List.cons_append, closing?_blank hq hgap, ih hb, Option.map_map]
    congr 1

theorem closing?_le {q : Quote} {n : Nat} (h : q.closing? t = some n) : 0 < n ∧ n ≤ t.length := by
  fun_induction Quote.closing? q t generalizing n with
  | case1 => simp at h
  | case2 c _ =>
    obtain rfl : 1 = n := by simpa using h
    exact ⟨by decide, Nat.le_refl 1⟩
  | case3 => simp at h
  | case4 d rest ih =>
    obtain ⟨k, hk, rfl⟩ := Option.map_eq_some_iff.1 h
    have le := ih hk
    simp only [List.length_cons]
    omega
  | case5 c d rest _ hm =>
    obtain rfl : q.marks.length = n := by simpa using h
    have pos : 0 < q.marks.length := by
      unfold Quote.marks
      split <;> simp
    exact ⟨pos, (List.isPrefixOf_iff_prefix.1 hm).length_le⟩
  | case6 c d rest _ _ ih =>
    obtain ⟨k, hk, rfl⟩ := Option.map_eq_some_iff.1 h
    have le := ih hk
    simp only [List.length_cons] at le ⊢
    omega

/-! ## States -/

/-- The token is neither layout nor a comment. -/
def Kind.lasts : Kind → Bool
  | .name | .number | .string | .op | .newline | .unknown => true
  | .comment | .rowEnd | .indent | .dedent | .endMarker => false

/-- The tokens that are neither layout nor comments. -/
def lasting (ts : List Token) : List Token := ts.filter (·.kind.lasts)

theorem lasting_append (ts us : List Token) : lasting (ts ++ us) = lasting ts ++ lasting us :=
  List.filter_append ts us

theorem lasting_eq_nil {ts : List Token} (h : ∀ t ∈ ts, t.kind.lasts = false) : lasting ts = [] :=
  List.filter_eq_nil_iff.2 fun t ht => by simp [h t ht]

/-- Like tokens. -/
abbrev LikeTokens (R : Change) (ts us : List Token) : Prop :=
  List.Forall₂ (Token.Like R) (lasting ts) (lasting us)

theorem likeTokens_of_forall₂ {ts us : List Token} (h : List.Forall₂ (Token.Like R) ts us) :
    LikeTokens R ts us := by
  induction h with
  | nil => exact .nil
  | @cons a b ts us hab _ ih =>
    unfold LikeTokens lasting
    rw [List.filter_cons, List.filter_cons, ← hab.kind]
    split
    · exact .cons hab ih
    · exact ih

theorem LikeTokens.append {ts us ts' us' : List Token} (h : LikeTokens R ts ts')
    (k : LikeTokens R us us') : LikeTokens R (ts ++ us) (ts' ++ us') := by
  unfold LikeTokens
  rw [lasting_append, lasting_append]
  exact List.rel_append h k

namespace Tokenizer

variable {s s' m m' : Tokenizer} {ts ts' us : List Token}

/-- States that differ in indentations and in what open strings hold. -/
structure Like (R : Change) (s s' : Tokenizer) : Prop where
  depth : s.depth = s'.depth
  joined : s.joined = s'.joined
  strict : s.strict = s'.strict
  within : Option.Rel (OpenString.Like R) s.within s'.within

/-- What holds between rows as long as no token is of unknown kind. -/
structure Sound (s : Tokenizer) : Prop where
  strict : s.strict = true → s.within.isSome = true
  mark : ∀ string ∈ s.within, string.quote.IsMark

/-- A statement has ended, and nothing is open but blocks. -/
structure Idle (s : Tokenizer) : Prop where
  depth : s.depth = 0
  joined : s.joined = false
  within : s.within = none
  strict : s.strict = false

theorem Idle.like (h : s.Idle) (h' : s'.Idle) : s.Like R s' where
  depth := h.depth.trans h'.depth.symm
  joined := h.joined.trans h'.joined.symm
  strict := h.strict.trans h'.strict.symm
  within := by rw [h.within, h'.within]; exact .none

theorem Idle.of_like (h : s.Idle) (hl : s.Like R s') : s'.Idle where
  depth := hl.depth ▸ h.depth
  joined := hl.joined ▸ h.joined
  within := by
    have hw := hl.within
    rw [h.within] at hw
    generalize s'.within = w at hw
    cases hw
    rfl
  strict := hl.strict ▸ h.strict

theorem Idle.sound (h : s.Idle) : s.Sound where
  strict hs := by simp [h.strict] at hs
  mark string hm := by simp [h.within] at hm

theorem idle_initial : initial.Idle := ⟨rfl, rfl, rfl, rfl⟩

theorem Like.resume {scan scan' : RowScan} (h : s.Like R s') (hscan : scan.Like R scan') :
    (s.resume scan).Like R (s'.resume scan') := by
  unfold Tokenizer.resume
  have hending := hscan.ending
  revert hending
  generalize scan.ending = e
  generalize scan'.ending = e'
  intro hending
  cases hending with
  | plain => exact ⟨hscan.depth, rfl, h.strict, .none⟩
  | joined => exact ⟨hscan.depth, rfl, h.strict, .none⟩
  | within hw => exact ⟨hscan.depth, rfl, by simp [h.strict, hw.quote], .some hw⟩

theorem sound_resume {scan : RowScan} (h : s.strict = false)
    (hm : ∀ string, scan.ending = .within string → string.quote.IsMark) :
    (s.resume scan).Sound := by
  unfold Tokenizer.resume
  split
  · exact ⟨fun hs => by simp [h] at hs, fun _ hw => by simp at hw⟩
  · exact ⟨fun hs => by simp [h] at hs, fun _ hw => by simp at hw⟩
  · rename_i string he
    refine ⟨fun _ => rfl, fun open_ hw => ?_⟩
    obtain rfl : string = open_ := by simpa using hw
    exact hm _ he

/-- Strings over rows stay related when a row is added to them that is shifted by blanks. -/
structure Carries (R : Change) (blanks t : Text) : Prop where
  row : ∀ x y, R.opened x y → R.opened (x ++ t ++ "\n") (y ++ (blanks ++ t) ++ "\n")
  close : ∀ x y n, R.opened x y → 0 < n → n ≤ t.length →
    R.closed (x ++ t.take n) (y ++ (blanks ++ t.take n))

/-- A row that begins inside a string. -/
theorem Like.rowWithin {a b : OpenString} (hR : KeepsRows R) (ht : (10 : CodePoint) ∉ t)
    (h : s.Like R s') (hs : s.Sound) (ha : s.within = some a) (hb : s'.within = some b)
    (hab : a.Like R b) (hgap : ∀ b ∈ blanks, isGap b = true) (hempty : t = [] → blanks = [])
    (hc : Carries R blanks t) (hrow : s.row row t = .ok (ts, m)) (clear : Clear ts)
    (hrow' : s'.row row' (blanks ++ t) = .ok (ts', m')) :
    m.Like R m' ∧ m.Sound ∧ LikeTokens R ts ts' := by
  have hmark : a.quote.IsMark := hs.mark a (by simp [ha])
  have closed' := closing?_blanks hmark hgap t
  unfold Tokenizer.row at hrow hrow'
  rw [ha] at hrow
  rw [hb] at hrow'
  simp only at hrow hrow'
  rw [← hab.quote, closed'] at hrow'
  cases hn : a.quote.closing? t with
  | some n =>
    rw [hn] at hrow hrow'
    simp only [Option.map_some, Except.ok.injEq, Prod.mk.injEq] at hrow hrow'
    obtain ⟨rfl, rfl⟩ := hrow
    obtain ⟨rfl, rfl⟩ := hrow'
    obtain ⟨pos, le⟩ := closing?_le hn
    have cut : (blanks ++ t).take (n + blanks.length) = blanks ++ t.take n := by
      rw [Nat.add_comm, List.take_length_add_append]
    have rest : (blanks ++ t).drop (n + blanks.length) = t.drop n := by
      rw [Nat.add_comm, List.drop_length_add_append]
    have scans : (scanRow row n 0 s.depth t).Like R
        (scanRow row' (n + blanks.length) 0 s'.depth (blanks ++ t)) := by
      rw [scanRow_skip, scanRow_skip row', rest, ← h.depth]
      exact scanRow_like hR (fun hm => ht (List.mem_of_mem_drop hm)) 0
    have closed : (({ s with strict := false } : Tokenizer)).Like R { s' with strict := false } :=
      ⟨h.depth, h.joined, rfl, h.within⟩
    refine ⟨closed.resume scans, sound_resume rfl fun _ => isMark_of_within,
      likeTokens_of_forall₂ (.cons ⟨rfl, ?_⟩ scans.tokens)⟩
    rw [cut]
    exact hc.close _ _ _ hab.text pos le
  | none =>
    rw [hn] at hrow hrow'
    simp only [Option.map_none] at hrow hrow'
    have last : (blanks ++ t).getLast? = t.getLast? := by
      cases t with
      | nil => rw [hempty rfl]; rfl
      | cons c t => rw [List.getLast?_append, Option.or_of_isSome (by simp)]
    rw [last, ← h.strict] at hrow'
    split at hrow
    · rename_i hgo
      rw [if_pos hgo] at hrow'
      simp only [Except.ok.injEq, Prod.mk.injEq] at hrow hrow'
      obtain ⟨rfl, rfl⟩ := hrow
      obtain ⟨rfl, rfl⟩ := hrow'
      refine ⟨⟨h.depth, h.joined, rfl, .some ⟨rfl, hc.row _ _ hab.text⟩⟩,
        ⟨fun _ => rfl, fun open_ hm => ?_⟩, .nil⟩
      obtain rfl := Option.some.inj hm
      exact hmark
    · -- a string that is given up leaves a token of unknown kind
      simp only [Except.ok.injEq, Prod.mk.injEq] at hrow
      obtain ⟨rfl, rfl⟩ := hrow
      exact absurd rfl (clear _ List.mem_cons_self)

theorem Like.within_none (h : s.Like R s') (hw : s.within = none) : s'.within = none := by
  have hrel := h.within
  rw [hw] at hrel
  generalize s'.within = w at hrel
  cases hrel
  rfl

theorem Sound.strict_of_none (h : s.Sound) (hw : s.within = none) : s.strict = false := by
  cases hb : s.strict with
  | false => rfl
  | true => exact absurd (h.strict hb) (by simp [hw])

/-- A row that goes on with a statement. -/
theorem Like.rowInside (hR : KeepsRows R) (ht : (10 : CodePoint) ∉ t) (h : s.Like R s')
    (hs : s.Sound) (hw : s.within = none) (hin : ¬(s.depth = 0 ∧ s.joined = false))
    (hgap : ∀ b ∈ blanks, isGap b = true) (hrow : s.row row t = .ok (ts, m)) (clear : Clear ts)
    (hrow' : s'.row row' (blanks ++ t) = .ok (ts', m')) :
    m.Like R m' ∧ m.Sound ∧ LikeTokens R ts ts' := by
  unfold Tokenizer.row at hrow hrow'
  rw [hw] at hrow
  rw [h.within_none hw, ← h.depth, ← h.joined] at hrow'
  simp only [if_neg hin, Except.ok.injEq, Prod.mk.injEq] at hrow hrow'
  obtain ⟨rfl, rfl⟩ := hrow
  obtain ⟨rfl, rfl⟩ := hrow'
  rw [scanRow_blanks hgap (lexeme_ne_unknown clear)]
  have scans : (scanRow row 0 0 s.depth t).Like R (scanRow row' 0 (0 + blanks.length) s.depth t) :=
    scanRow_like hR ht 0
  exact ⟨h.resume scans, sound_resume (hs.strict_of_none hw) fun _ => isMark_of_within,
    likeTokens_of_forall₂ scans.tokens⟩

/-- The layout that blanks before a statement stand for, and the indentations after it. -/
def opens (s : Tokenizer) (row : Nat) (blanks : Text) :
    Except TokenError (List Token × List Nat) :=
  if s.indents.headD 0 < indentation blanks then
    .ok ([⟨.indent, blanks, ⟨row, 0⟩, ⟨row, blanks.length⟩⟩], indentation blanks :: s.indents)
  else match dedent? (indentation blanks) s.indents with
    | none => .error (.unevenDedent row)
    | some (n, indents) =>
      .ok (List.replicate n ⟨.dedent, [], ⟨row, blanks.length⟩, ⟨row, blanks.length⟩⟩, indents)

theorem lasting_of_opens {layout : List Token} {indents : List Nat}
    (h : s.opens row blanks = .ok (layout, indents)) : lasting layout = [] := by
  unfold opens at h
  split at h
  · simp only [Except.ok.injEq, Prod.mk.injEq] at h
    rw [← h.1]
    rfl
  · split at h
    · simp at h
    · simp only [Except.ok.injEq, Prod.mk.injEq] at h
      rw [← h.1]
      refine lasting_eq_nil fun t ht => ?_
      rw [List.eq_of_mem_replicate ht]
      rfl

theorem drop_length_takeWhile {p : CodePoint → Bool} (t : Text) :
    t.drop (t.takeWhile p).length = t.dropWhile p :=
  calc t.drop (t.takeWhile p).length
      = (t.takeWhile p ++ t.dropWhile p).drop (t.takeWhile p).length := by
        rw [List.takeWhile_append_dropWhile]
    _ = t.dropWhile p := List.drop_left

/-- A statement begins with the layout for its blanks. -/
theorem statementRow_eq (hd : (t.dropWhile isGap).head? = some c) (hc : c ≠ ('#' : CodePoint)) :
    s.statementRow row t = (s.opens row (t.takeWhile isGap)).map fun opened =>
      let scan := scanRow row 0 (t.takeWhile isGap).length 0 (t.dropWhile isGap)
      (opened.1 ++ scan.tokens, ({ s with indents := opened.2 } : Tokenizer).resume scan) := by
  have column : 0 + min (t.takeWhile isGap).length t.length = (t.takeWhile isGap).length := by
    have le := (List.takeWhile_prefix isGap (l := t)).length_le
    omega
  obtain ⟨rest, hrest⟩ : ∃ rest, t.dropWhile isGap = c :: rest := by
    cases hw : t.dropWhile isGap with
    | nil => simp [hw] at hd
    | cons d rest => exact ⟨rest, by rw [hw] at hd; rw [Option.some.inj hd]⟩
  unfold statementRow opens
  simp only [drop_length_takeWhile, hrest, if_neg hc]
  rw [scanRow_skip, column, drop_length_takeWhile, hrest]
  split
  · rfl
  · cases dedent? (indentation (t.takeWhile isGap)) s.indents <;> rfl

/-- What a row brings that begins a statement or holds none, whatever blocks stand around it. -/
inductive Begins (s : Tokenizer) (row : Nat) (t : Text) : List Token → Tokenizer → Prop where
  | empty {ts : List Token} (h : ∀ c, (t.dropWhile isGap).head? = some c → c = 0x23)
      (hts : lasting ts = []) : Begins s row t ts s
  | statement {layout : List Token} {indents : List Nat} {c : CodePoint}
      (h : (t.dropWhile isGap).head? = some c) (hc : c ≠ 0x23) (hl : lasting layout = []) :
      Begins s row t
        (layout ++ (scanRow row 0 (t.takeWhile isGap).length 0 (t.dropWhile isGap)).tokens)
        (({ s with indents } : Tokenizer).resume
          (scanRow row 0 (t.takeWhile isGap).length 0 (t.dropWhile isGap)))

theorem begins_of_statementRow (h : s.statementRow row t = .ok (ts, m)) : Begins s row t ts m := by
  by_cases hs : ∃ c, (t.dropWhile isGap).head? = some c ∧ c ≠ 0x23
  · obtain ⟨c, hd, hc⟩ := hs
    rw [statementRow_eq hd hc] at h
    cases ho : s.opens row (t.takeWhile isGap) with
    | error e => simp [ho, Except.map] at h
    | ok opened =>
      simp only [ho, Except.map, Except.ok.injEq, Prod.mk.injEq] at h
      obtain ⟨rfl, rfl⟩ := h
      exact .statement hd hc (lasting_of_opens ho)
  · have quiet (c : CodePoint) (hd : (t.dropWhile isGap).head? = some c) : c = 0x23 :=
      Decidable.byContradiction fun hc => hs ⟨c, hd, hc⟩
    unfold statementRow at h
    simp only [drop_length_takeWhile] at h
    split at h
    · simp only [Except.ok.injEq, Prod.mk.injEq] at h
      obtain ⟨rfl, rfl⟩ := h
      exact .empty quiet rfl
    · rename_i c rest hd
      have hc : c = ('#' : CodePoint) := quiet c (by rw [hd]; rfl)
      simp only [hc, ↓reduceIte, Except.ok.injEq, Prod.mk.injEq] at h
      obtain ⟨rfl, rfl⟩ := h
      exact .empty quiet rfl

/-- A row that begins a statement, or holds none. -/
theorem Like.rowBegins (hR : KeepsRows R) (ht : (10 : CodePoint) ∉ t) (h : s.Like R s')
    (hs : s.Sound) (hw : s.within = none) (hgap : ∀ b ∈ blanks, isGap b = true)
    (hrow : Begins s row t ts m) (hrow' : Begins s' row' (blanks ++ t) ts' m') :
    m.Like R m' ∧ m.Sound ∧ LikeTokens R ts ts' := by
  have same : (blanks ++ t).dropWhile isGap = t.dropWhile isGap :=
    List.dropWhile_append_of_pos hgap
  cases hrow with
  | empty hd hts =>
    cases hrow' with
    | empty _ hts' =>
      refine ⟨h, hs, ?_⟩
      unfold LikeTokens
      rw [hts, hts']
      exact .nil
    | statement hd' hc => exact absurd (hd _ (same ▸ hd')) hc
  | statement hd hc hl =>
    cases hrow' with
    | empty hd' => exact absurd (hd' _ (same.symm ▸ hd)) hc
    | statement _ _ hl' =>
      rw [same]
      have inner : (10 : CodePoint) ∉ t.dropWhile isGap :=
        fun hm => ht ((List.dropWhile_suffix _).subset hm)
      have scans : (scanRow row 0 (t.takeWhile isGap).length 0 (t.dropWhile isGap)).Like R
          (scanRow row' 0 ((blanks ++ t).takeWhile isGap).length 0 (t.dropWhile isGap)) :=
        scanRow_like hR inner 0
      refine ⟨Like.resume ⟨h.depth, h.joined, h.strict, h.within⟩ scans,
        sound_resume (hs.strict_of_none hw) fun _ => isMark_of_within, ?_⟩
      refine LikeTokens.append ?_ (likeTokens_of_forall₂ scans.tokens)
      unfold LikeTokens
      rw [hl, hl']
      exact .nil

/-- A row that is shifted by blanks has like tokens. -/
theorem Like.step (hR : KeepsRows R) (ht : (10 : CodePoint) ∉ t) (h : s.Like R s') (hs : s.Sound)
    (hgap : ∀ b ∈ blanks, isGap b = true) (hempty : t = [] → blanks = [])
    (hc : s.within ≠ none → Carries R blanks t) (hrow : s.row row t = .ok (ts, m))
    (clear : Clear ts) (hrow' : s'.row row' (blanks ++ t) = .ok (ts', m')) :
    m.Like R m' ∧ m.Sound ∧ LikeTokens R ts ts' := by
  cases hw : s.within with
  | some a =>
    obtain ⟨b, hb, hab⟩ : ∃ b, s'.within = some b ∧ a.Like R b := by
      have hrel := h.within
      rw [hw] at hrel
      generalize s'.within = w at hrel
      cases hrel with
      | some hab => exact ⟨_, rfl, hab⟩
    exact h.rowWithin hR ht hs hw hb hab hgap hempty (hc (by simp [hw])) hrow clear hrow'
  | none =>
    by_cases hin : s.depth = 0 ∧ s.joined = false
    · have begins (s : Tokenizer) (hw : s.within = none) (hin : s.depth = 0 ∧ s.joined = false)
          (row : Nat) (t : Text) : s.row row t = s.statementRow row t := by
        unfold Tokenizer.row
        rw [hw]
        exact if_pos hin
      rw [begins s hw hin] at hrow
      rw [begins s' (h.within_none hw) (h.depth ▸ h.joined ▸ hin)] at hrow'
      exact h.rowBegins hR ht hs hw hgap (begins_of_statementRow hrow)
        (begins_of_statementRow hrow')
    · exact h.rowInside hR ht hs hw hin hgap hrow clear hrow'

/-! ## Rows one after another -/

/-- Rows lead from one state to another and bring tokens. -/
inductive Runs : Tokenizer → Nat → List Text → List Token → Tokenizer → Prop where
  | nil {s : Tokenizer} {row : Nat} : Runs s row [] [] s
  | cons {s m m' : Tokenizer} {row : Nat} {t : Text} {rows : List Text} {ts us : List Token}
      (first : s.row row t = .ok (ts, m)) (others : Runs m (row + 1) rows us m') :
      Runs s row (t :: rows) (ts ++ us) m'

theorem runs_append_iff {rows rows' : List Text} :
    Runs s row (rows ++ rows') ts m' ↔
      ∃ us vs m, Runs s row rows us m ∧ Runs m (row + rows.length) rows' vs m' ∧ ts = us ++ vs := by
  constructor
  · intro h
    induction rows generalizing s row ts with
    | nil => exact ⟨[], ts, s, .nil, h, rfl⟩
    | cons t rows ih =>
      cases h with
      | cons first others =>
        obtain ⟨us, vs, m, hu, hv, rfl⟩ := ih others
        refine ⟨_, vs, m, .cons first hu, ?_, (List.append_assoc ..).symm⟩
        rwa [List.length_cons, Nat.add_comm rows.length, ← Nat.add_assoc]
  · rintro ⟨us, vs, m, hu, hv, rfl⟩
    induction hu with
    | nil => exact hv
    | cons first others ih =>
      rw [List.append_assoc]
      refine .cons first (ih ?_)
      rwa [List.length_cons, Nat.add_comm (List.length _), ← Nat.add_assoc] at hv

theorem Runs.unique {rows : List Text} (h : Runs s row rows ts m) (h' : Runs s row rows ts' m') :
    ts = ts' ∧ m = m' := by
  induction h generalizing ts' with
  | nil =>
    cases h'
    exact ⟨rfl, rfl⟩
  | cons first _ ih =>
    cases h' with
    | cons first' others' =>
      obtain ⟨rfl, rfl⟩ := Prod.mk.inj (Except.ok.inj (first.symm.trans first'))
      obtain ⟨rfl, rfl⟩ := ih others'
      exact ⟨rfl, rfl⟩

theorem runs_of_ofRows {rows : List Text} (h : (Tokens.ofRows s row rows).complete = .ok ts) :
    ∃ us vs m, Runs s row rows us m ∧ m.finish (row + rows.length) = .ok vs ∧ ts = us ++ vs := by
  induction rows generalizing s row ts with
  | nil =>
    simp only [Tokens.ofRows] at h
    split at h
    · rename_i vs hf
      obtain rfl : vs = ts := Except.ok.inj h
      exact ⟨[], vs, s, .nil, hf, rfl⟩
    · simp [Tokens.complete] at h
  | cons t rows ih =>
    simp only [Tokens.ofRows] at h
    split at h
    · rename_i ts₁ m hrow
      have others : ∃ us, (Tokens.ofRows m (row + 1) rows).complete = .ok us ∧ ts = ts₁ ++ us := by
        unfold Tokens.complete at h ⊢
        simp only at h
        split at h
        · exact ⟨_, rfl, (Except.ok.inj h).symm⟩
        · simp at h
      obtain ⟨us, hus, rfl⟩ := others
      obtain ⟨us₁, vs, m', hr, hf, rfl⟩ := ih hus
      refine ⟨ts₁ ++ us₁, vs, m', .cons hrow hr, ?_, (List.append_assoc ..).symm⟩
      rwa [List.length_cons, Nat.add_comm rows.length, ← Nat.add_assoc]
    · simp [Tokens.complete] at h

theorem ofRows_of_runs {rows : List Text} {vs : List Token} (h : Runs s row rows ts m)
    (hf : m.finish (row + rows.length) = .ok vs) :
    (Tokens.ofRows s row rows).complete = .ok (ts ++ vs) := by
  induction h with
  | nil =>
    rw [List.length_nil, Nat.add_zero] at hf
    simp [Tokens.ofRows, Tokens.complete, hf]
  | cons first others ih =>
    rw [List.length_cons, Nat.add_comm (List.length _), ← Nat.add_assoc] at hf
    have rest := ih hf
    unfold Tokens.complete at rest
    simp only [Tokens.ofRows, first, Tokens.complete]
    split at rest
    · rw [Except.ok.inj rest, List.append_assoc]
    · simp at rest

/-- After the last row there is nothing but layout. -/
theorem kind_of_finish {vs : List Token} (h : s.finish row = .ok vs) :
    ∀ t ∈ vs, t.kind = .dedent ∨ t.kind = .endMarker := by
  unfold finish at h
  split at h
  · simp at h
  · split at h
    · obtain rfl := Except.ok.inj h
      intro t ht
      simp only [List.mem_append, List.mem_map, List.mem_singleton] at ht
      rcases ht with ⟨_, _, rfl⟩ | rfl
      · exact .inl rfl
      · exact .inr rfl
    · simp at h

theorem lasting_of_finish {vs : List Token} (h : s.finish row = .ok vs) : lasting vs = [] := by
  refine lasting_eq_nil fun t ht => ?_
  rcases kind_of_finish h t ht with hk | hk <;> rw [hk] <;> rfl

theorem idle_of_finish {vs : List Token} (hs : s.Sound) (h : s.finish row = .ok vs) : s.Idle := by
  unfold finish at h
  split at h
  · simp at h
  · rename_i hw
    split at h
    · rename_i hi
      exact ⟨hi.1, hi.2, hw, hs.strict_of_none hw⟩
    · simp at h

theorem finish_of_idle (h : s.Idle) (row : Nat) : ∃ vs, s.finish row = .ok vs := by
  unfold finish
  rw [h.within]
  simp [h.depth, h.joined]

/-- A row is moved by blanks. -/
structure Moved (blanks t t' : Text) : Prop where
  row : (10 : CodePoint) ∉ t
  moved : t' = blanks ++ t
  gap : ∀ b ∈ blanks, isGap b = true
  empty : t = [] → blanks = []

/-- Rows are moved by blanks. The first of them begins a statement, and strings over rows change
with the others. -/
inductive MovedRows (R : Change) : List Text → List Text → Prop where
  | mk {blanks t t' : Text} {rows rows' : List Text} (first : Moved blanks t t')
      (others : List.Forall₂ (fun t t' => ∃ blanks, Moved blanks t t' ∧ Carries R blanks t)
        rows rows') : MovedRows R (t :: rows) (t' :: rows')

/-- Rows that are moved by blanks have like tokens. -/
theorem Like.runs {rows rows' : List Text} (hR : KeepsRows R) (h : s.Like R s') (hs : s.Sound)
    (hm : List.Forall₂ (fun t t' => ∃ blanks, Moved blanks t t' ∧ Carries R blanks t) rows rows')
    (hr : Runs s row rows ts m) (clear : Clear ts) (hr' : Runs s' row' rows' ts' m') :
    m.Like R m' ∧ m.Sound ∧ LikeTokens R ts ts' := by
  induction hr generalizing s' row' rows' ts' with
  | nil =>
    cases hm
    cases hr'
    exact ⟨h, hs, .nil⟩
  | cons first others ih =>
    cases hm with
    | cons hrow hm =>
      cases hr' with
      | cons first' others' =>
        obtain ⟨hfirst, hothers⟩ := Clear.append_iff.1 clear
        obtain ⟨blanks, ⟨h10, rfl, hgap, hempty⟩, hc⟩ := hrow
        obtain ⟨hlike, hsound, htokens⟩ :=
          h.step hR h10 hs hgap hempty (fun _ => hc) first hfirst first'
        obtain ⟨hlike', hsound', htokens'⟩ := ih hlike hsound hm hothers others'
        exact ⟨hlike', hsound', htokens.append htokens'⟩

/-- Rows that are moved have like tokens if they stand where a statement begins. -/
theorem Idle.runs {rows rows' : List Text} (hR : KeepsRows R) (idle : s.Idle) (idle' : s'.Idle)
    (hm : MovedRows R rows rows') (hr : Runs s row rows ts m) (clear : Clear ts)
    (hr' : Runs s' row' rows' ts' m') : m.Like R m' ∧ LikeTokens R ts ts' := by
  cases hm with
  | mk first others =>
    cases hr with
    | cons hrow hr =>
      cases hr' with
      | cons hrow' hr' =>
        obtain ⟨hfirst, hothers⟩ := Clear.append_iff.1 clear
        obtain ⟨h10, rfl, hgap, hempty⟩ := first
        obtain ⟨hlike, hsound, htokens⟩ := (idle.like idle').step hR h10 idle.sound hgap hempty
          (fun hw => absurd idle.within hw) hrow hfirst hrow'
        obtain ⟨hlike', -, htokens'⟩ := hlike.runs hR hsound others hr hothers hr'
        exact ⟨hlike', htokens.append htokens'⟩

theorem carries_nil : Carries .none [] t :=
  ⟨fun _ _ h => h ▸ rfl, fun _ _ _ h _ _ => h ▸ rfl⟩

/-- Rows without tokens of unknown kind keep what holds between rows. -/
theorem sound_of_runs {rows : List Text} (h10 : ∀ t ∈ rows, (10 : CodePoint) ∉ t) (hs : s.Sound)
    (hr : Runs s row rows ts m) (clear : Clear ts) : m.Sound := by
  have self : s.Like .none s :=
    ⟨rfl, rfl, rfl, by cases s.within with
      | none => exact .none
      | some _ => exact .some ⟨rfl, rfl⟩⟩
  have still : List.Forall₂ (fun t t' => ∃ blanks, Moved blanks t t' ∧ Carries .none blanks t)
      rows rows :=
    List.forall₂_same.2 fun t ht => ⟨[], ⟨h10 t ht, rfl, by simp, fun _ => rfl⟩, carries_nil⟩
  exact (Like.runs keepsRows_none self hs still hr clear hr).2.1

end Tokenizer

/-- Rows that are tokens leave the tokenizer idle. -/
theorem tokenize_eq_ok {rows : List Text} {ts : List Token}
    (h10 : ∀ t ∈ rows, (10 : CodePoint) ∉ t) (h : tokenize rows = .ok ts) (clear : Clear ts) :
    ∃ us m, Tokenizer.initial.Runs 1 rows us m ∧ m.Idle ∧ Clear us ∧ lasting us = lasting ts := by
  obtain ⟨us, vs, m, hr, hf, rfl⟩ := Tokenizer.runs_of_ofRows h
  obtain ⟨hus, -⟩ := Clear.append_iff.1 clear
  have sound := Tokenizer.sound_of_runs h10 Tokenizer.idle_initial.sound hr hus
  exact ⟨us, m, hr, Tokenizer.idle_of_finish sound hf, hus,
    by rw [lasting_append, Tokenizer.lasting_of_finish hf, List.append_nil]⟩

end Stencil.Script
