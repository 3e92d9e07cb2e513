import Stencil.Proofs.Script.Lookahead

/-!
# Awaited inclusions

The word `await` is put in before the word `include`. The scan of the row comes to this place with
whole tokens, so it takes the same tokens before it; only a hexadecimal number that ends there takes
the letter `a` as well. The tokens from the word on are six columns further to the right.

## Main definitions

* `strings` — the texts of the strings among tokens.
* `Token.push`, `Tokenizer.push` — what stands on a row, six columns further to the right.
* `Prefaced` — the tokens before a place, and those that the word `await` makes of them.
* `Comes` — the scan of a row comes to the word `include`.

## Main results

* `comes_of_mem` — the scan of a row comes to each of its inclusions.
* `Tokenizer.row_await` — a row with an awaited inclusion.
-/

namespace Stencil.Script

variable {c : CodePoint} {t u v w rest : Text} {row row' column column' n k : Nat} {depth depth' : Int}
  {kind : Kind} {ts us front front' back : List Token} {token : Token}

/-- The texts of the strings among tokens. -/
def strings (ts : List Token) : List Text := (ts.filter (·.kind == .string)).map (·.text)

theorem strings_append (ts us : List Token) : strings (ts ++ us) = strings ts ++ strings us := by
  simp [strings]

theorem strings_cons_of_ne (h : token.kind ≠ .string) (ts : List Token) :
    strings (token :: ts) = strings ts := by
  simp [strings, h]

theorem forall₂_strings {R : Change} (h : List.Forall₂ (Token.Like R) ts us) :
    List.Forall₂ R.closed (strings ts) (strings us) := by
  induction h with
  | nil => exact .nil
  | @cons a b ts us hab _ ih =>
    unfold strings at ih ⊢
    rw [List.filter_cons, List.filter_cons, ← hab.kind]
    split
    · exact .cons hab.text ih
    · exact ih

theorem strings_of_like (h : List.Forall₂ (Token.Like .none) ts us) : strings ts = strings us :=
  List.forall₂_eq_eq_eq ▸ forall₂_strings h

theorem strings_lasting (ts : List Token) : strings (lasting ts) = strings ts := by
  unfold strings lasting
  rw [List.filter_filter]
  congr 1
  refine List.filter_congr fun t _ => ?_
  cases hk : t.kind <;> rfl

/-- The word that begins an inclusion. -/
def inclusion : Text := "include"

theorem begins_inclusion (h : rest.takeWhile CodePoint.isWord = inclusion) :
    ∃ v, rest = 0x69 :: v ∧ lexeme rest = .token .name 7 := by
  have hs : stringStart? rest = none := stringStart?_of_word (w := inclusion) (by decide) h
  cases rest with
  | nil => exact absurd h (by decide)
  | cons c v =>
    have letter := isAsciiLetter_of_word (w := inclusion) (by decide) h
    have hl := lexeme_of_letter letter hs
    rw [h] at hl
    have word := isWord_of_isAsciiLetter letter
    rw [List.takeWhile_cons_of_pos word] at h
    obtain rfl : c = 0x69 := (List.cons.inj h).1
    exact ⟨v, rfl, hl⟩

/-- The scan goes on behind a token. -/
theorem scanRow_lexeme (hc : isGap c = false) (hl : lexeme (c :: t) = .token kind (n + 1))
    (hn : n ≤ t.length) (row column : Nat) (depth : Int) :
    scanRow row 0 column depth (c :: t) =
      (scanRow row 0 (column + 1 + n) (depth + depthChange kind ((c :: t).take (n + 1)))
        (t.drop n)).cons
          ⟨kind, (c :: t).take (n + 1), ⟨row, column⟩, ⟨row, column + (n + 1)⟩⟩ := by
  rw [scanRow_token hc hl, scanRow_skip, Nat.min_eq_left hn]

/-- A word before a blank is a token of its own. -/
theorem scanRow_word (word : Text) (hw : IsPlainWord word)
    (hl : lexeme (rest.dropWhile isGap) ≠ .unknown) (row column : Nat) (depth : Int) :
    scanRow row 0 column depth (word ++ 0x20 :: rest) =
      (scanRow row 0 (column + word.length + 1) depth rest).cons
        ⟨.name, word, ⟨row, column⟩, ⟨row, column + word.length⟩⟩ := by
  have taken : (word ++ 0x20 :: rest).takeWhile CodePoint.isWord = word := by
    rw [List.takeWhile_append_of_pos fun c hc => isWord_of_isAsciiLetter (hw.letters c hc),
      List.takeWhile_cons_of_neg (by decide), List.append_nil]
  have hs := stringStart?_of_word hw taken
  obtain ⟨c, tail, rfl⟩ := List.exists_cons_of_ne_nil hw.ne_nil
  have letter : c.isAsciiLetter = true := hw.letters c List.mem_cons_self
  have gap : isGap c = false := by
    rw [← Bool.not_eq_true]
    intro hg
    have hgap : c = 32 ∨ c = 12 ∨ c = 9 := by simpa [isGap, or_assoc] using hg
    rcases hgap with rfl | rfl | rfl <;> simp [CodePoint.isAsciiLetter] at letter
  have hlex : lexeme (c :: (tail ++ 0x20 :: rest)) =
      .token .name ((c :: (tail ++ 0x20 :: rest)).takeWhile CodePoint.isWord).length :=
    lexeme_of_letter letter hs
  rw [← List.cons_append, taken, List.length_cons, List.cons_append] at hlex
  have upto : (c :: (tail ++ 0x20 :: rest)).take (tail.length + 1) = c :: tail := by
    rw [List.take_succ_cons, List.take_left']
    rfl
  have after : (tail ++ 0x20 :: rest).drop tail.length = 0x20 :: rest := List.drop_left
  have plain : depthChange .name (c :: tail) = 0 := rfl
  have column' : column + 1 + min tail.length (tail ++ 0x20 :: rest).length =
      column + (c :: tail).length := by
    simp only [List.length_append, List.length_cons]
    omega
  have blank : (0x20 :: rest).dropWhile isGap = rest.dropWhile isGap :=
    List.dropWhile_cons_of_pos (by decide)
  rw [List.cons_append, scanRow_token gap hlex, scanRow_skip, after, upto, column', plain,
    Int.add_zero, scanRow_gap (by decide) (by rwa [blank])]
  rfl

/-! ## Six columns further -/

/-- A position, six columns further to the right if it is on a row. -/
def Pos.push (row : Nat) (p : Pos) : Pos := if p.row = row then ⟨p.row, p.column + 6⟩ else p

theorem Pos.push_of_ne {p : Pos} (h : p.row ≠ row) : p.push row = p := if_neg h

/-- A token whose places are pushed. -/
def Token.push (row : Nat) (t : Token) : Token :=
  { t with start := t.start.push row, stop := t.stop.push row }

@[simp] theorem Token.push_kind (row : Nat) (t : Token) : (t.push row).kind = t.kind := rfl

@[simp] theorem Token.push_significant (row : Nat) (t : Token) :
    (t.push row).significant = t.significant := rfl

@[simp] theorem Token.push_text (row : Nat) (t : Token) : (t.push row).text = t.text := rfl

/-- An open string whose beginning is pushed. -/
def OpenString.push (row : Nat) (s : OpenString) : OpenString := { s with start := s.start.push row }

/-- The end of a row whose open string is pushed. -/
def RowEnding.push (row : Nat) : RowEnding → RowEnding
  | within s => within (s.push row)
  | e => e

namespace RowScan

/-- A scan whose tokens are pushed. -/
def push (row : Nat) (s : RowScan) : RowScan :=
  ⟨s.tokens.map (·.push row), s.depth, s.ending.push row⟩

/-- Tokens in front of a scan. -/
def after (ts : List Token) (s : RowScan) : RowScan := { s with tokens := ts ++ s.tokens }

theorem push_cons (row : Nat) (t : Token) (s : RowScan) :
    (s.cons t).push row = (s.push row).cons (t.push row) := rfl

end RowScan

theorem Token.push_eq {start stop : Nat} {text : Text} :
    (⟨kind, text, ⟨row, start⟩, ⟨row, stop⟩⟩ : Token).push row =
      ⟨kind, text, ⟨row, start + 6⟩, ⟨row, stop + 6⟩⟩ := by
  simp [Token.push, Pos.push]

/-- A scan that begins further to the right. -/
theorem scanRow_push (row skip column : Nat) (depth : Int) (t : Text) :
    scanRow row skip (column + 6) depth t = (scanRow row skip column depth t).push row := by
  induction t generalizing skip column depth with
  | nil =>
    have ended (skip column : Nat) :
        scanRow row skip column depth [] = scanRow row 0 column depth [] := by cases skip <;> rfl
    rw [ended, ended skip column]
    simp [scanRow, RowScan.push, RowEnding.push, Token.push_eq, Nat.add_right_comm]
  | cons c t ih =>
    have later (skip : Nat) (depth : Int) : scanRow row skip (column + 6 + 1) depth t =
        (scanRow row skip (column + 1) depth t).push row := by
      rw [Nat.add_right_comm, ih]
    cases skip with
    | succ skip => exact later skip depth
    | zero =>
      rw [scanRow, scanRow]
      split
      · rw [later, RowScan.push_cons, Token.push_eq, Nat.add_right_comm column 1]
      · split
        · exact later 0 depth
        · split
          · dsimp only
            rw [later, RowScan.push_cons, Token.push_eq, Nat.add_right_comm column 6]
          · simp [RowScan.push, RowEnding.push, OpenString.push, Pos.push]
          · rfl
          · rfl
          · rfl

/-- What a scan finds is on its row. -/
theorem scanRow_push_of_ne (h : row ≠ row') (skip column : Nat) (depth : Int) (t : Text) :
    (scanRow row skip column depth t).push row' = scanRow row skip column depth t := by
  have still {start stop : Nat} {text : Text} {kind : Kind} :
      (⟨kind, text, ⟨row, start⟩, ⟨row, stop⟩⟩ : Token).push row' =
        ⟨kind, text, ⟨row, start⟩, ⟨row, stop⟩⟩ := by
    simp [Token.push, Pos.push, h]
  induction t generalizing skip column depth with
  | nil => cases skip <;> simp [scanRow, RowScan.push, RowEnding.push, still]
  | cons c t ih =>
    cases skip with
    | succ skip => exact ih skip (column + 1) depth
    | zero =>
      rw [scanRow]
      split
      · rw [RowScan.push_cons, ih, still]
      · split
        · exact ih 0 (column + 1) depth
        · split
          · dsimp only
            rw [RowScan.push_cons, ih, still]
          · simp [RowScan.push, RowEnding.push, OpenString.push, Pos.push, h]
          · rfl
          · rfl
          · rfl

/-! ## The scan of a row -/

/-- The row with the word `await` put in before an inclusion. -/
def awaited (u rest : Text) : Text := u ++ (Text.ofString "await" ++ 0x20 :: rest)

theorem awaited_cons (c : CodePoint) (u rest : Text) :
    awaited (c :: u) rest = c :: awaited u rest := rfl

theorem awaited_eq (u rest : Text) :
    awaited u rest = u ++ 0x61 :: (Text.ofString "wait" ++ 0x20 :: rest) := rfl

theorem drop_awaited (h : n ≤ u.length) : (awaited u rest).drop n = awaited (u.drop n) rest :=
  List.drop_append_of_le_length h

theorem closing?_letter {q : Quote} (hc : c ≠ ('\\' : CodePoint)) (hm : c ∉ q.marks) (t : Text) :
    q.closing? (c :: t) = none ↔ q.closing? t = none := by
  cases t with
  | nil =>
    have other : q.marks ≠ [c] := fun h => hm (h ▸ List.mem_singleton_self c)
    simp [Quote.closing?, other]
  | cons d t =>
    have other : q.marks.isPrefixOf (c :: d :: t) = false := by
      have pos := Terminals.marks_pos q
      cases hq : q.marks with
      | nil => simp [hq] at pos
      | cons m ms =>
        have : m ≠ c := fun h => hm (by simp [hq, h])
        simp [List.isPrefixOf, this]
    rw [Quote.closing?, if_neg hc, other]
    simp

theorem endsInBackslash_letter (hc : c ≠ ('\\' : CodePoint)) (t : Text) :
    endsInBackslash (c :: t) = endsInBackslash t := by
  cases t with
  | nil => simpa [endsInBackslash] using hc
  | cons d t => rw [endsInBackslash, if_neg hc]

/-- Letters make no difference to a string that does not end. -/
theorem open_letters {q : Quote} {letters : Text}
    (hl : ∀ c ∈ letters, c ≠ ('\\' : CodePoint) ∧ c ∉ q.marks) (t : Text) :
    (q.closing? (letters ++ t) = none ↔ q.closing? t = none) ∧
      endsInBackslash (letters ++ t) = endsInBackslash t := by
  induction letters with
  | nil => exact ⟨Iff.rfl, rfl⟩
  | cons c letters ih =>
    obtain ⟨⟨hc, hm⟩, hl⟩ := List.forall_mem_cons.1 hl
    rw [List.cons_append]
    exact ⟨(closing?_letter hc hm _).trans (ih hl).1, (endsInBackslash_letter hc _).trans (ih hl).2⟩

/-- A string that does not end in a row does not end in it either if an inclusion is awaited. -/
theorem open_awaited {q : Quote} (hq : q.mark = '\'' ∨ q.mark = '"') (hs : q.triple = false)
    (u v : Text) (h : q.closing? (u ++ 0x69 :: v) = none) :
    q.closing? (awaited u (0x69 :: v)) = none ∧
      endsInBackslash (awaited u (0x69 :: v)) = endsInBackslash (u ++ 0x69 :: v) := by
  have letters : ∀ c ∈ Text.ofString "await ", c ≠ ('\\' : CodePoint) ∧ c ∉ q.marks := by
    obtain ⟨m, triple⟩ := q
    obtain rfl : triple = false := hs
    rcases hq with rfl | rfl <;> decide
  have marks : q.marks = [q.mark] := by simp [Quote.marks, hs]
  induction hl : u.length using Nat.strongRecOn generalizing u with
  | ind l ih =>
    subst hl
    rcases u with _ | ⟨c, _ | ⟨d, u⟩⟩
    · obtain ⟨shut, ends⟩ := open_letters letters (0x69 :: v)
      exact ⟨shut.2 h, ends⟩
    · by_cases hb : c = ('\\' : CodePoint)
      · -- the backslash takes the first letter of the one word or of the other
        subst hb
        have wait : ∀ c ∈ Text.ofString "wait i", c ≠ ('\\' : CodePoint) ∧ c ∉ q.marks := by
          obtain ⟨m, triple⟩ := q
          obtain rfl : triple = false := hs
          rcases hq with rfl | rfl <;> decide
        obtain ⟨shut, ends⟩ := open_letters wait v
        have old : q.closing? v = none := by
          simpa [Quote.closing?] using h
        have rest : q.closing? (Text.ofString "wait i" ++ v) = none := shut.2 old
        refine ⟨?_, ?_⟩
        · rw [awaited_eq, List.singleton_append, Quote.closing?, if_pos rfl, Option.map_eq_none_iff]
          exact rest
        · rw [awaited_eq, List.singleton_append, endsInBackslash, if_pos rfl,
            List.singleton_append, endsInBackslash, if_pos rfl]
          exact ends
      · have hm : c ∉ q.marks := by
          rw [marks, List.mem_singleton]
          rintro rfl
          simp only [List.cons_append, List.nil_append, Quote.closing?, if_neg hb, marks,
            List.isPrefixOf, beq_self_eq_true, Bool.and_self, ↓reduceIte, reduceCtorEq] at h
        have old := (closing?_letter hb hm _).1 h
        obtain ⟨shut, ends⟩ := ih 0 (by simp) [] old rfl
        exact ⟨(closing?_letter hb hm _).2 shut, (endsInBackslash_letter hb _).trans
          (ends.trans (endsInBackslash_letter hb _).symm)⟩
    · by_cases hb : c = ('\\' : CodePoint)
      · subst hb
        have old : q.closing? (u ++ 0x69 :: v) = none := by simpa [Quote.closing?] using h
        obtain ⟨shut, ends⟩ := ih u.length (by simp only [List.length_cons]; omega) u old rfl
        refine ⟨?_, ?_⟩
        · rw [awaited_cons, awaited_cons, Quote.closing?, if_pos rfl, shut]
          rfl
        · rw [awaited_cons, awaited_cons, endsInBackslash, if_pos rfl, ends]
          simp [endsInBackslash]
      · have hm : c ∉ q.marks := by
          rw [marks, List.mem_singleton]
          rintro rfl
          simp only [List.cons_append, Quote.closing?, if_neg hb, marks,
            List.isPrefixOf, beq_self_eq_true, Bool.and_self, ↓reduceIte, reduceCtorEq] at h
        have old := (closing?_letter hb hm _).1 h
        obtain ⟨shut, ends⟩ := ih (d :: u).length (by simp) (d :: u) old rfl
        exact ⟨(closing?_letter hb hm _).2 shut, (endsInBackslash_letter hb _).trans
          (ends.trans (endsInBackslash_letter hb _).symm)⟩

/-- The word `await` ends no string. -/
theorem unclosed_awaited (c : CodePoint) (u v : Text) :
    Unclosed (c :: u ++ 0x69 :: v) (awaited (c :: u) (0x69 :: v)) := by
  intro k q hs single h
  obtain ⟨marked, hq, body, hd, -⟩ := stringStart?_eq_some hs
  have one : q.marks.length = 1 := by simp [Quote.marks, single]
  -- the mark stands before the word
  have before : k + 1 ≤ (c :: u).length := by
    refine Nat.lt_of_not_le fun hk => ?_
    obtain hk | hk := Nat.eq_or_lt_of_le hk
    · rw [← hk, List.drop_left] at hd
      exact Plain.ne_mark (.inl rfl) hq (List.cons.inj hd).1
    · obtain ⟨j, hj⟩ : ∃ j, k - (c :: u).length = j + 1 := ⟨k - (c :: u).length - 1, by omega⟩
      have inside : lowerAscii 0x69 ∈ ((c :: u ++ 0x69 :: v).take k).map lowerAscii := by
        refine List.mem_map_of_mem ?_
        rw [List.take_append, hj]
        simp
      have foreign : ∀ mark ∈ stringMarks, lowerAscii 0x69 ∉ mark := by decide
      exact foreign _ marked inside
  simp only [stringLexeme, one, single, Bool.false_eq_true, false_or] at h ⊢
  rw [drop_plain before] at h
  rw [drop_awaited before]
  split at h
  · simp at h
  · rename_i shut
    obtain ⟨shut', ends⟩ := open_awaited hq single _ _ shut
    rw [shut', ends]
    exact h

/-- The tokens before an inclusion, and those that stand before it when it is awaited. -/
inductive Prefaced (p : Pos) : List Token → List Token → Prop where
  | word (ts : List Token) :
      Prefaced p ts (ts ++ [⟨.name, Text.ofString "await", p, ⟨p.row, p.column + 5⟩⟩])
  /-- A hexadecimal number takes the letter `a`. -/
  | digit (ts : List Token) (t : Token) (hk : t.kind = .number) (hs : t.stop = p) :
      Prefaced p (ts ++ [t]) (ts ++ [⟨.number, t.text ++ "a", t.start, ⟨p.row, p.column + 1⟩⟩,
        ⟨.name, Text.ofString "wait", ⟨p.row, p.column + 1⟩, ⟨p.row, p.column + 5⟩⟩])

theorem Prefaced.append {p : Pos} (h : Prefaced p front front') (ts : List Token) :
    Prefaced p (ts ++ front) (ts ++ front') := by
  cases h with
  | word => simpa only [List.append_assoc] using Prefaced.word (p := p) (ts ++ front)
  | digit us t hk hs => simpa only [List.append_assoc] using Prefaced.digit (ts ++ us) t hk hs

/-- The scan of a row comes to the word `include` with these tokens, at this bracket level, and it
does so as well if the inclusion is awaited. -/
structure Comes (row column : Nat) (depth : Int) (u rest : Text) (front : List Token)
    (depth' : Int) : Prop where
  cuts : Cuts rest u
  here : scanRow row 0 column depth (u ++ rest) =
    (scanRow row 0 (column + u.length) depth' rest).after front
  put : ∃ front', Prefaced ⟨row, column + u.length⟩ front front' ∧
    scanRow row 0 column depth (awaited u rest) =
      (scanRow row 0 (column + u.length + 6) depth' rest).after front'
  known : lexeme ((awaited u rest).dropWhile isGap) = .unknown ↔
    lexeme ((u ++ rest).dropWhile isGap) = .unknown
  start : u = [] → front = [] ∧ depth' = depth

namespace Comes

theorem nil (hr : rest.takeWhile CodePoint.isWord = inclusion) :
    Comes row column depth [] rest [] depth := by
  obtain ⟨v, hv, hlex⟩ := begins_inclusion hr
  have known : lexeme (rest.dropWhile isGap) ≠ .unknown := by
    rw [hv] at hlex ⊢
    rw [List.dropWhile_cons_of_neg (by decide), hlex]
    exact Lexeme.noConfusion
  refine ⟨.nil, rfl, ⟨_, .word [], ?_⟩, ?_, fun _ => ⟨rfl, rfl⟩⟩
  · exact scanRow_word _ (by decide) known row column depth
  · have word : lexeme (awaited [] rest) = .token .name 5 := by
      have taken : (awaited [] rest).takeWhile CodePoint.isWord = Text.ofString "await" := by
        have stop : (0x20 :: rest).takeWhile CodePoint.isWord = [] :=
          List.takeWhile_cons_of_neg (by decide)
        rw [awaited, List.nil_append, List.takeWhile_append_of_pos (by decide), stop,
          List.append_nil]
      have hs := stringStart?_of_word (by decide) taken
      have hl := lexeme_of_letter (c := 0x61) (by decide) hs
      exact hl.trans (congrArg (Lexeme.token .name ·.length) taken)
    have gapless : (awaited [] rest).dropWhile isGap = awaited [] rest :=
      List.dropWhile_cons_of_neg (by decide)
    rw [gapless, word, List.nil_append]
    simp [known]

theorem gap (hc : isGap c = true) (hl : lexeme ((c :: u ++ rest).dropWhile isGap) ≠ .unknown)
    (h : Comes row (column + 1) depth u rest front depth') :
    Comes row column depth (c :: u) rest front depth' := by
  have next : column + (c :: u).length = column + 1 + u.length := by
    simp only [List.length_cons]
    omega
  have skipped (t : Text) : (c :: t).dropWhile isGap = t.dropWhile isGap :=
    List.dropWhile_cons_of_pos hc
  obtain ⟨front', prefaced, new⟩ := h.put
  have known : lexeme ((awaited (c :: u) rest).dropWhile isGap) = .unknown ↔
      lexeme ((c :: u ++ rest).dropWhile isGap) = .unknown := by
    rw [awaited_cons, List.cons_append, skipped, skipped]
    exact h.known
  refine ⟨.gap hc hl h.cuts, ?_, ⟨front', next ▸ prefaced, ?_⟩, known, fun h => by simp at h⟩
  · rw [next]
    exact (scanRow_gap hc hl row column depth).trans h.here
  · rw [next]
    exact (scanRow_gap hc (mt known.1 hl) row column depth).trans new

theorem unknown (hc : lexeme ((c :: u ++ rest).dropWhile isGap) = .unknown)
    (hc' : lexeme ((awaited (c :: u) rest).dropWhile isGap) = .unknown)
    (h : Comes row (column + 1) depth u rest front depth') :
    Comes row column depth (c :: u) rest
      (⟨.unknown, [c], ⟨row, column⟩, ⟨row, column + 1⟩⟩ :: front) depth' := by
  have next : column + (c :: u).length = column + 1 + u.length := by
    simp only [List.length_cons]
    omega
  obtain ⟨front', prefaced, new⟩ := h.put
  refine ⟨.unknown hc h.cuts, ?_, ⟨_, next ▸ prefaced.append [_], ?_⟩, iff_of_true hc' hc,
    fun h => by simp at h⟩
  · rw [next]
    exact (scanRow_unknown hc row column depth).trans (congrArg _ h.here)
  · rw [next]
    exact (scanRow_unknown hc' row column depth).trans (congrArg _ new)

/-- A code point that begins no token, and the blanks before it. -/
theorem of_unknown (hc : lexeme ((c :: u ++ rest).dropWhile isGap) = .unknown)
    (hr : rest.takeWhile CodePoint.isWord = inclusion)
    (h : Comes row (column + 1) depth u rest front depth') :
    Comes row column depth (c :: u) rest
      (⟨.unknown, [c], ⟨row, column⟩, ⟨row, column + 1⟩⟩ :: front) depth' := by
  refine h.unknown hc ?_
  obtain ⟨v, rfl, hlex⟩ := begins_inclusion hr
  by_cases hg : isGap c = true
  · have skipped (t : Text) : (c :: t).dropWhile isGap = t.dropWhile isGap :=
      List.dropWhile_cons_of_pos hg
    rw [awaited_cons, skipped]
    rw [List.cons_append, skipped] at hc
    exact h.known.2 hc
  · have reached (t : Text) : (c :: t).dropWhile isGap = c :: t := List.dropWhile_cons_of_neg hg
    rw [awaited_cons, reached, ← awaited_cons, awaited_eq]
    rw [List.cons_append, reached] at hc
    refine lexeme_plain_unknown (.inr rfl) (fun _ => digitRun_stop (by decide) (by decide) _) ?_ hc
    exact unclosed_awaited c u v

theorem of_token (hc : isGap c = false) (hr : rest.takeWhile CodePoint.isWord = inclusion)
    (hl : lexeme (c :: u ++ rest) = .token kind (n + 1)) (hn : n ≤ u.length)
    (h : Comes row (column + 1 + n)
      (depth + depthChange kind ((c :: u ++ rest).take (n + 1))) (u.drop n) rest front depth') :
    Comes row column depth (c :: u) rest
      (⟨kind, (c :: u ++ rest).take (n + 1), ⟨row, column⟩, ⟨row, column + (n + 1)⟩⟩ :: front)
      depth' := by
  have next : column + (c :: u).length = column + 1 + n + (u.drop n).length := by
    simp only [List.length_cons, List.length_drop]
    omega
  have short (t : Text) : n ≤ (u ++ t).length := by
    rw [List.length_append]
    omega
  have reached (t : Text) : (c :: t).dropWhile isGap = c :: t :=
    List.dropWhile_cons_of_neg (by simp [hc])
  have here : scanRow row 0 column depth (c :: u ++ rest) =
      (scanRow row 0 (column + (c :: u).length) depth' rest).after
        (⟨kind, (c :: u ++ rest).take (n + 1), ⟨row, column⟩, ⟨row, column + (n + 1)⟩⟩ ::
          front) := by
    have scanned := scanRow_lexeme (t := u ++ rest) hc hl (short rest) row column depth
    rw [List.drop_append_of_le_length hn] at scanned
    rw [next]
    exact scanned.trans (congrArg _ h.here)
  obtain ⟨v, rfl, -⟩ := begins_inclusion hr
  have known {m : Nat} {kind' : Kind} (hl' : lexeme (awaited (c :: u) (0x69 :: v)) =
      .token kind' m) : lexeme ((awaited (c :: u) (0x69 :: v)).dropWhile isGap) = .unknown ↔
        lexeme ((c :: u ++ 0x69 :: v).dropWhile isGap) = .unknown := by
    rw [awaited_cons, List.cons_append, reached, reached, ← awaited_cons, ← List.cons_append, hl,
      hl']
    exact iff_of_false Lexeme.noConfusion Lexeme.noConfusion
  have wait : digitRun isHex (Text.ofString "wait" ++ 0x20 :: 0x69 :: v) = 0 :=
    digitRun_stop (by decide) (by decide) _
  rcases lexeme_plain (.inr rfl) (fun _ => wait) (unclosed_awaited c u v) hl hn h.cuts with
    hl' | ⟨rfl, rfl, -, hl'⟩
  · obtain ⟨front', prefaced, new⟩ := h.put
    refine ⟨.token hc hl hn h.cuts, here, ⟨_, next ▸ prefaced.append [_], ?_⟩, known hl',
      fun h => by simp at h⟩
    have text (t : Text) : (c :: u ++ t).take (n + 1) = (c :: u).take (n + 1) :=
      List.take_append_of_le_length (by rw [List.length_cons]; omega)
    have same : (c :: awaited u (0x69 :: v)).take (n + 1) = (c :: u ++ 0x69 :: v).take (n + 1) :=
      (text _).trans (text _).symm
    have scanned := scanRow_lexeme (t := awaited u (0x69 :: v)) hc hl' (short _) row column depth
    rw [same, drop_awaited hn, new, ← next] at scanned
    exact scanned
  · -- the number takes the first letter of the word
    obtain ⟨rfl, rfl⟩ := h.start List.drop_length
    have number (t : Text) : (c :: u ++ t).take (u.length + 1) = c :: u := List.take_left' rfl
    have longer : (c :: awaited u (0x69 :: v)).take (u.length + 2) = c :: u ++ [0x61] := by
      have split : c :: awaited u (0x69 :: v) =
          (c :: u ++ [0x61]) ++ (Text.ofString "wait" ++ 0x20 :: 0x69 :: v) := by
        rw [awaited_eq]
        simp
      rw [split]
      exact List.take_left' (by simp)
    have left : (awaited u (0x69 :: v)).drop (u.length + 1) =
        Text.ofString "wait" ++ 0x20 :: 0x69 :: v := by
      rw [awaited_eq, List.drop_append]
      simp
    have plain (t : Text) : depth + depthChange .number t = depth := Int.add_zero depth
    obtain ⟨known', -⟩ := begins_inclusion hr
    have scanned := scanRow_lexeme (t := awaited u (0x69 :: v)) hc hl'
      (by rw [awaited_eq]; simp) row column depth
    have here' : lexeme ((0x69 :: v).dropWhile isGap) ≠ .unknown := by
      obtain ⟨-, -, hlex⟩ := begins_inclusion hr
      rw [List.dropWhile_cons_of_neg (by decide), hlex]
      exact Lexeme.noConfusion
    have behind : column + 1 + (u.length + 1) = column + (c :: u).length + 1 := by
      rw [List.length_cons]
      omega
    have word := scanRow_word (Text.ofString "wait") (by decide) here' row
      (column + (c :: u).length + 1) depth
    rw [longer, left, plain, behind, word] at scanned
    rw [number, plain] at here ⊢
    refine ⟨.token hc hl hn h.cuts, here, ⟨_, Prefaced.digit [] _ rfl rfl, ?_⟩, known hl',
      fun h => by simp at h⟩
    exact scanned

end Comes

/-- The scan of a row comes to each word `include` in it. -/
theorem comes_of_mem (h : (scanRow row 0 column depth t).tokens = front ++ token :: back)
    (hw : token.isWord inclusion = true) :
    ∃ u rest depth', t = u ++ rest ∧ rest.takeWhile CodePoint.isWord = inclusion ∧
      token.start = ⟨row, column + u.length⟩ ∧ Comes row column depth u rest front depth' := by
  obtain ⟨hk, ht⟩ : token.kind = .name ∧ token.text = inclusion := by simpa [Token.isWord] using hw
  induction hl : t.length using Nat.strongRecOn generalizing t column depth front with
  | ind l ih =>
    subst hl
    -- the end of the row is no word
    have ended {column : Nat} {depth : Int} {front : List Token} :
        (scanRow row 0 column depth []).tokens ≠ front ++ token :: back := by
      intro h
      have hm : token ∈ (scanRow row 0 column depth []).tokens := by simp [h]
      obtain rfl := List.mem_singleton.1 hm
      simp only at hk
      split at hk <;> simp at hk
    have further (n : Nat) : (⟨row, column + 1 + n⟩ : Pos) = ⟨row, column + (n + 1)⟩ := by
      rw [Nat.add_assoc, Nat.add_comm 1]
    cases t with
    | nil => exact absurd h ended
    | cons c t =>
      by_cases hu : lexeme ((c :: t).dropWhile isGap) = .unknown
      · rw [scanRow_unknown hu] at h
        cases front with
        | nil =>
          obtain rfl := (List.cons.inj h).1
          simp at hk
        | cons first front =>
          obtain ⟨rfl, others⟩ := List.cons.inj h
          obtain ⟨u, rest, depth', rfl, word, start, comes⟩ := ih t.length (by simp) others rfl
          exact ⟨c :: u, rest, depth', rfl, word, start.trans (further _),
            comes.of_unknown hu word⟩
      · by_cases hc : isGap c = true
        · rw [scanRow_gap hc hu] at h
          obtain ⟨u, rest, depth', rfl, word, start, comes⟩ := ih t.length (by simp) h rfl
          exact ⟨c :: u, rest, depth', rfl, word, start.trans (further _), comes.gap hc hu⟩
        · simp only [Bool.not_eq_true] at hc
          rw [List.dropWhile_cons_of_neg (by simp [hc])] at hu
          cases hlex : lexeme (c :: t) with
          | unknown => exact absurd hlex hu
          | token kind n =>
            obtain ⟨n, rfl⟩ : ∃ m, n = m + 1 := ⟨n - 1, by have := lexeme_pos hlex; omega⟩
            cases front with
            | nil =>
              rw [scanRow_token hc hlex] at h
              obtain rfl := (List.cons.inj h).1
              obtain rfl : kind = .name := hk
              have word := (takeWhile_of_name hlex).trans ht
              exact ⟨[], c :: t, depth, rfl, word, rfl, Comes.nil word⟩
            | cons first front =>
              have le : n ≤ t.length := by
                refine Nat.le_of_not_lt fun hlt => ?_
                rw [scanRow_token hc hlex, scanRow_skip,
                  List.drop_eq_nil_of_le (Nat.le_of_lt hlt)] at h
                exact ended (List.cons.inj h).2
              rw [scanRow_lexeme hc hlex le] at h
              obtain ⟨rfl, others⟩ := List.cons.inj h
              have short : (t.drop n).length < (c :: t).length := by
                rw [List.length_drop, List.length_cons]
                omega
              obtain ⟨u, rest, depth', hr, word, start, comes⟩ := ih _ short others rfl
              have whole : t = t.take n ++ u ++ rest := by
                rw [List.append_assoc, ← hr, List.take_append_drop]
              have upto : (t.take n).length = n := List.length_take_of_le le
              have left : (t.take n ++ u).drop n = u := List.drop_left' upto
              have column_eq : column + 1 + n + u.length =
                  column + (c :: (t.take n ++ u)).length := by
                rw [List.length_cons, List.length_append, upto]
                omega
              refine ⟨c :: (t.take n ++ u), rest, depth', congrArg (c :: ·) whole, word,
                column_eq ▸ start, ?_⟩
              have before := Comes.of_token (u := t.take n ++ u) hc word
                (by rwa [List.cons_append, ← whole])
                (by rw [List.length_append, upto]; exact Nat.le_add_right _ _)
                (by rwa [left, List.cons_append, ← whole])
              rwa [List.cons_append, ← whole] at before
          | opening q =>
            rw [scanRow, List.dropWhile_cons_of_neg (by simp [hc]), hlex] at h
            simp [hc] at h
          | joiner =>
            rw [scanRow, List.dropWhile_cons_of_neg (by simp [hc]), hlex] at h
            simp [hc] at h
          | rowEnd =>
            rw [scanRow, List.dropWhile_cons_of_neg (by simp [hc]), hlex] at h
            simp [hc] at h

/-- The word `await` put into a row. -/
def awaitIn (n : Nat) (t : Text) : Text := t.take n ++ "await " ++ t.drop n

theorem awaitIn_append (u rest : Text) : awaitIn u.length (u ++ rest) = awaited u rest := by
  unfold awaitIn awaited
  rw [List.take_left, List.drop_left, List.append_assoc]
  rfl

/-- The word `include` stands in a row from a column on. -/
def Reads (t : Text) (n : Nat) : Prop :=
  ∃ u v, t = u ++ v ∧ u.length = n ∧ v.takeWhile CodePoint.isWord = inclusion

/-- The scan of a row in which an inclusion is awaited. -/
theorem scanRow_await (h : (scanRow row 0 column depth t).tokens = front ++ token :: back)
    (hw : token.isWord inclusion = true) :
    ∃ u v front', t = u ++ 0x69 :: v ∧ (0x69 :: v).takeWhile CodePoint.isWord = inclusion ∧
      token.start = ⟨row, column + u.length⟩ ∧ Prefaced token.start front front' ∧
      scanRow row 0 column depth (awaited u (0x69 :: v)) =
        ⟨front' ++ (token :: back).map (·.push row), (scanRow row 0 column depth t).depth,
          (scanRow row 0 column depth t).ending.push row⟩ := by
  obtain ⟨u, rest, depth', rfl, word, start, comes⟩ := comes_of_mem h hw
  obtain ⟨v, rfl, -⟩ := begins_inclusion word
  obtain ⟨front', prefaced, put⟩ := comes.put
  refine ⟨u, v, front', rfl, word, start, start ▸ prefaced, ?_⟩
  have later : (scanRow row 0 (column + u.length) depth' (0x69 :: v)).tokens = token :: back := by
    rw [comes.here] at h
    exact List.append_cancel_left h
  rw [put, scanRow_push, comes.here, ← later]
  rfl

namespace Tokenizer

variable {s m : Tokenizer}

/-- A state whose open string is pushed. -/
def push (row : Nat) (s : Tokenizer) : Tokenizer :=
  { s with within := s.within.map (·.push row) }

theorem push_of_none (h : s.within = none) (row : Nat) : s.push row = s := by
  cases s
  simp_all [push]

theorem resume_push (s : Tokenizer) (row : Nat) (scan : RowScan) :
    s.resume (scan.push row) = (s.resume scan).push row := by
  obtain ⟨tokens, depth, ending⟩ := scan
  cases ending <;> rfl

/-- A string that is open stands between quotes. -/
def Marked (s : Tokenizer) : Prop := ∀ a ∈ s.within, a.quote.IsMark

theorem marked_initial : initial.Marked := by
  intro a ha
  simp [initial] at ha

theorem marked_resume (s : Tokenizer) (row skip column : Nat) (depth : Int) (t : Text) :
    (s.resume (scanRow row skip column depth t)).Marked := by
  intro a ha
  unfold resume at ha
  split at ha
  · simp at ha
  · simp at ha
  · rename_i string he
    obtain rfl : string = a := by simpa using ha
    exact isMark_of_within he

theorem Marked.next (hs : s.Marked) (h : s.row row t = .ok (ts, m)) : m.Marked := by
  unfold Tokenizer.row at h
  split at h
  · rename_i a ha
    split at h
    · simp only [Except.ok.injEq, Prod.mk.injEq] at h
      exact h.2 ▸ marked_resume _ _ _ _ _ _
    · split at h
      · simp only [Except.ok.injEq, Prod.mk.injEq] at h
        obtain ⟨-, rfl⟩ := h
        intro b hb
        obtain rfl := Option.some.inj hb
        exact hs a ha
      · simp only [Except.ok.injEq, Prod.mk.injEq] at h
        obtain ⟨-, rfl⟩ := h
        intro b hb
        simp at hb
  · split at h
    · cases begins_of_statementRow h with
      | empty => exact hs
      | statement => exact marked_resume _ _ _ _ _ _
    · simp only [Except.ok.injEq, Prod.mk.injEq] at h
      exact h.2 ▸ marked_resume _ _ _ _ _ _

end Tokenizer

theorem takeWhile_append_stop {p : CodePoint → Bool} (hc : p c = false) (u v : Text) :
    (u ++ c :: v).takeWhile p = u.takeWhile p ∧ (u ++ c :: v).dropWhile p = u.dropWhile p ++ c :: v := by
  induction u with
  | nil => simp [hc]
  | cons d u ih =>
    cases hd : p d with
    | true => simp [hd, ih.1, ih.2]
    | false => simp [hd]

/-- A list that splits at an element that is not in its first part splits in the second. -/
theorem split_of_notMem {α : Type} {x : α} {as bs cs ds : List α} (h : as ++ bs = cs ++ x :: ds)
    (hx : x ∉ as) : ∃ es, cs = as ++ es ∧ bs = es ++ x :: ds := by
  rcases List.append_eq_append_iff.1 h with ⟨es, rfl, hb⟩ | ⟨es, rfl, hc⟩
  · exact ⟨es, rfl, hb⟩
  · cases es with
    | nil => exact ⟨[], by simp, by simpa using hc.symm⟩
    | cons e es =>
      obtain rfl := (List.cons.inj hc).1
      simp at hx

namespace Tokenizer

variable {s m : Tokenizer}

/-- A row that begins a statement with an awaited inclusion. -/
theorem statementRow_await (hw : token.isWord inclusion = true)
    (h : s.statementRow row t = .ok (front ++ token :: back, m)) :
    ∃ u v front', t = u ++ 0x69 :: v ∧ (0x69 :: v).takeWhile CodePoint.isWord = inclusion ∧
      token.start = ⟨row, u.length⟩ ∧ Prefaced token.start front front' ∧
      s.statementRow row (awaited u (0x69 :: v)) =
        .ok (front' ++ (token :: back).map (·.push row), m.push row) := by
  obtain ⟨hk, -⟩ : token.kind = .name ∧ token.text = inclusion := by
    simpa [Token.isWord] using hw
  by_cases hs : ∃ c, (t.dropWhile isGap).head? = some c ∧ c ≠ 0x23
  · obtain ⟨c, hd, hc⟩ := hs
    rw [statementRow_eq hd hc] at h
    cases ho : s.opens row (t.takeWhile isGap) with
    | error e => simp [ho, Except.map] at h
    | ok opened =>
      simp only [ho, Except.map, Except.ok.injEq, Prod.mk.injEq] at h
      obtain ⟨tokens, rfl⟩ := h
      have layout : token ∉ opened.1 := by
        intro hm
        have lasts := List.filter_eq_nil_iff.1 (lasting_of_opens ho) token hm
        rw [hk] at lasts
        exact lasts rfl
      obtain ⟨front₁, rfl, scanned⟩ := split_of_notMem tokens layout
      obtain ⟨u, v, front', hu, word, start, prefaced, new⟩ := scanRow_await scanned hw
      have whole : t = (t.takeWhile isGap ++ u) ++ 0x69 :: v := by
        rw [List.append_assoc, ← hu, List.takeWhile_append_dropWhile]
      have begins : ∃ d w, awaited u (0x69 :: v) = d :: w ∧ isGap d = false ∧ d ≠ 0x23 := by
        cases u with
        | nil => exact ⟨0x61, _, rfl, by decide, by decide⟩
        | cons d u =>
          have stop := List.head?_dropWhile_not isGap t
          rw [hu] at hd stop
          exact ⟨d, _, rfl, stop, by rwa [Option.some.inj hd]⟩
      obtain ⟨d, w, hdw, hgap, hmark⟩ := begins
      have put : awaited (t.takeWhile isGap ++ u) (0x69 :: v) = t.takeWhile isGap ++ d :: w := by
        rw [← hdw, awaited, awaited, List.append_assoc]
      have gaps : ∀ b ∈ t.takeWhile isGap, isGap b = true := fun b => mem_takeWhile
      have blanks : (t.takeWhile isGap ++ d :: w).takeWhile isGap = t.takeWhile isGap := by
        rw [List.takeWhile_append_of_pos gaps, List.takeWhile_cons_of_neg (by simp [hgap]),
          List.append_nil]
      have others : (t.takeWhile isGap ++ d :: w).dropWhile isGap = d :: w := by
        rw [List.dropWhile_append_of_pos gaps, List.dropWhile_cons_of_neg (by simp [hgap])]
      refine ⟨t.takeWhile isGap ++ u, v, opened.1 ++ front', whole, word, ?_, prefaced.append _, ?_⟩
      · rw [start, List.length_append]
      · rw [put, statementRow_eq (c := d) (by rw [others]; rfl) hmark, blanks, others, ho, ← hdw, new,
          ← resume_push]
        simp only [Except.map, List.append_assoc]
        rfl
  · have quiet (c : CodePoint) (hd : (t.dropWhile isGap).head? = some c) : c = 0x23 :=
      Decidable.byContradiction fun hc => hs ⟨c, hd, hc⟩
    have hm : token ∈ front ++ token :: back := by simp
    generalize front ++ token :: back = ts at h hm
    cases begins_of_statementRow h with
    | empty _ hts =>
      have lasts := List.filter_eq_nil_iff.1 hts token hm
      rw [hk] at lasts
      exact absurd rfl lasts
    | statement hd hc => exact absurd (quiet _ hd) hc

/-- A row with an awaited inclusion. -/
theorem row_await (hs : s.Marked) (hw : token.isWord inclusion = true)
    (h : s.row row t = .ok (front ++ token :: back, m)) :
    token.start.row = row ∧ Reads t token.start.column ∧
      ∃ front', Prefaced token.start front front' ∧ s.row row (awaitIn token.start.column t) =
        .ok (front' ++ (token :: back).map (·.push row), m.push row) := by
  suffices hrow : ∃ u v front', t = u ++ 0x69 :: v ∧
      (0x69 :: v).takeWhile CodePoint.isWord = inclusion ∧ token.start = ⟨row, u.length⟩ ∧
      Prefaced token.start front front' ∧ s.row row (awaited u (0x69 :: v)) =
        .ok (front' ++ (token :: back).map (·.push row), m.push row) by
    obtain ⟨u, v, front', rfl, word, start, prefaced, new⟩ := hrow
    refine ⟨by rw [start], ⟨u, _, rfl, by rw [start], word⟩, front', prefaced, ?_⟩
    rw [start]
    exact (congrArg (s.row row) (awaitIn_append u _)).trans new
  obtain ⟨hk, -⟩ : token.kind = .name ∧ token.text = inclusion := by simpa [Token.isWord] using hw
  unfold Tokenizer.row at h ⊢
  cases ha : s.within with
  | some a =>
    simp only [ha] at h ⊢
    cases hn : a.quote.closing? t with
    | some n =>
      simp only [hn, Except.ok.injEq, Prod.mk.injEq] at h
      obtain ⟨tokens, rfl⟩ := h
      have le := (closing?_le hn).2
      have behind : scanRow row n 0 s.depth t = scanRow row 0 n s.depth (t.drop n) := by
        rw [scanRow_skip, Nat.min_eq_left le, Nat.zero_add]
      rw [behind] at tokens
      cases front with
      | nil =>
        obtain rfl := (List.cons.inj tokens).1
        simp at hk
      | cons first front =>
        obtain ⟨rfl, scanned⟩ := List.cons.inj tokens
        obtain ⟨u, v, front', hu, word, start, prefaced, new⟩ := scanRow_await scanned hw
        have length : (t.take n).length = n := List.length_take_of_le le
        have whole : t = (t.take n ++ u) ++ 0x69 :: v := by
          rw [List.append_assoc, ← hu, List.take_append_drop]
        have put : awaited (t.take n ++ u) (0x69 :: v) = t.take n ++ awaited u (0x69 :: v) := by
          rw [awaited, awaited, List.append_assoc]
        have closed : a.quote.closing? (awaited (t.take n ++ u) (0x69 :: v)) = some n := by
          rw [awaited_eq]
          refine closing?_plain (x := 0x69) (v := v) (hs a ha) (.inl rfl) (.inr rfl) ?_ (whole ▸ hn)
          rw [List.length_append, length]
          exact Nat.le_add_right _ _
        refine ⟨t.take n ++ u, v, _ :: front', whole, word, ?_, prefaced.append [_], ?_⟩
        · rw [start, List.length_append, length]
        · simp only [closed]
          rw [scanRow_skip, put, List.drop_left' length, List.take_left' length,
            Nat.min_eq_left (by rw [List.length_append, length]; exact Nat.le_add_right _ _),
            Nat.zero_add, new, ← resume_push, behind]
          rfl
    | none =>
      simp only [hn] at h
      split at h
      · simp only [Except.ok.injEq, Prod.mk.injEq] at h
        simp at h
      · simp only [Except.ok.injEq, Prod.mk.injEq] at h
        have hm : token ∈ front ++ token :: back := by simp
        rw [← h.1] at hm
        obtain rfl := List.mem_singleton.1 hm
        simp at hk
  | none =>
    simp only [ha] at h ⊢
    split at h
    · rename_i hin
      simp only [if_pos hin]
      exact statementRow_await hw h
    · rename_i hin
      simp only [if_neg hin]
      simp only [Except.ok.injEq, Prod.mk.injEq] at h
      obtain ⟨scanned, rfl⟩ := h
      obtain ⟨u, v, front', hu, word, start, prefaced, new⟩ := scanRow_await scanned hw
      refine ⟨u, v, front', hu, word, by rw [start, Nat.zero_add], prefaced, ?_⟩
      rw [new, ← resume_push]
      rfl

end Tokenizer

end Stencil.Script
