import Stencil.Proofs.Script.Complete
import Stencil.Proofs.Script.Tokens
import Stencil.Proofs.Template.Balance

/-!
# What a section is taken for

Blocks are found by the tokens of sections, while statements are read from the terminals of the
script. For a row that is a complete script of its own the two agree about its last sign: it opens a
block where its last terminal is a colon. They do not agree about its first word, because tokens cut
words at code points that words of the script may hold.

## Main definitions

* `Block.firstWord` — the word that a row begins with as blocks read it.
* `Block.IsEnd` — a row is taken for the end of a block.

## Main results

* `Block.role_of_complete` — what a row of statements is taken for.
-/

namespace Stencil

open Script Script.Terminals

namespace Block

/-- The word that a row begins with as blocks read it. -/
def firstWord (row : Text) : Text := (row.dropWhile isBlank).takeWhile CodePoint.isWord

/-- The row holds the word `end` and nothing after it but a comment. -/
def IsEnd (row : Text) : Prop :=
  ∃ rest, row.dropWhile isBlank = "end" ++ rest ∧
    ∀ c ∈ (rest.dropWhile isBlank).head?, c = ('#' : CodePoint)

variable {row blanks u : Text} {c : CodePoint}

theorem ends_of_quiet {others : List Token} (head last : Option Token) (fresh : Bool)
    (h : ∀ t ∈ others, t.significant = false) : ends head last fresh others = (head, last) := by
  induction others generalizing fresh with
  | nil => rfl
  | cons t others ih =>
    obtain ⟨ht, h⟩ := List.forall_mem_cons.1 h
    by_cases hn : t.kind = .newline <;> simp [ends, hn, ht, ih _ h]

/-- After the head of a line only its last sign is looked for. -/
theorem ends_line {tokens others : List Token} (head last : Option Token)
    (h : ∀ t ∈ tokens, t.kind ≠ .newline) (hothers : ∀ t ∈ others, t.significant = false) :
    ends head last false (tokens ++ others) =
      (head, (tokens.filter Token.significant).getLast?.or last) := by
  induction tokens generalizing last with
  | nil => simp [ends_of_quiet head last false hothers]
  | cons t tokens ih =>
    obtain ⟨ht, h⟩ := List.forall_mem_cons.1 h
    by_cases hs : t.significant = true
    · simp [ends, ht, hs, ih _ h, List.getLast?_cons]
    · simp [ends, ht, hs, ih _ h]

section

variable {token : Token} {tokens others : List Token}

theorem significant_line (ht : token.significant = true)
    (hothers : ∀ t ∈ others, t.significant = false) :
    (token :: (tokens ++ others)).filter Token.significant =
      token :: tokens.filter Token.significant := by
  have quiet : others.filter Token.significant = [] := by
    rw [List.filter_eq_nil_iff]
    intro t h
    simp [hothers t h]
  rw [List.filter_cons_of_pos ht, List.filter_append, quiet, List.append_nil]

/-- A single line is a header where its last sign is a colon. -/
theorem headerColumn?_line (ht : token.significant = true) (h : ∀ t ∈ tokens, t.kind ≠ .newline)
    (hothers : ∀ t ∈ others, t.significant = false) :
    headerColumn? (token :: (tokens ++ others)) =
      if (token :: tokens.filter Token.significant).getLast?.any (·.isOp ":") then
        some token.start.column
      else none := by
  have hn : token.kind ≠ .newline := fun hk => by
    simp [significant_newline hk] at ht
  have found : ends none none true (token :: (tokens ++ others)) =
      (some token, (token :: tokens.filter Token.significant).getLast?) := by
    rw [ends, if_neg hn, if_pos ht, ends_line _ _ h hothers, List.getLast?_cons, Option.or_some]
    rfl
  rw [headerColumn?, found, List.getLast?_cons]
  rfl

end

/-! ## The tokens of a row -/

theorem indentation_anew (h : Scan.Anew blanks) : Tokenizer.indentation blanks = 0 := by
  rcases h.feed with rfl | hlast
  · rfl
  · obtain ⟨before, rfl⟩ := List.getLast?_eq_some_iff.1 hlast
    rw [Tokenizer.indentation, List.foldl_append]
    rfl

theorem takeWhile_blanks (h : Scan.Anew blanks) (hc : isBlank c = false) :
    (blanks ++ c :: u).takeWhile isBlank = blanks := by
  rw [List.takeWhile_append_of_pos h.blank, List.takeWhile_cons_of_neg (by simp [hc]),
    List.append_nil]

theorem dropWhile_blanks (h : Scan.Anew blanks) (hc : isBlank c = false) :
    (blanks ++ c :: u).dropWhile isBlank = c :: u := by
  rw [List.dropWhile_append_of_pos h.blank, List.dropWhile_cons_of_neg (by simp [hc])]

/-- The tokens of a row whose brackets are closed. -/
theorem tokenize_row {s : Survey} (h : Scan.Anew blanks) (hc : Scan.Begins c)
    (hs : survey 0 (c :: u) = some s) (he : s.ending = .plain) (hd : s.depth = 0) :
    tokenize [blanks ++ c :: u] =
      .ok ((scanRow 1 0 blanks.length 0 (c :: u)).tokens ++
        [⟨.endMarker, [], ⟨2, 0⟩, ⟨2, 0⟩⟩]) := by
  obtain ⟨hb, hh, -, -⟩ := hc
  have bears := scanRow_bears hs 1 blanks.length 0
  have scan : scanRow 1 blanks.length 0 0 (blanks ++ c :: u) =
      scanRow 1 0 blanks.length 0 (c :: u) := by
    rw [scanRow_skip, List.drop_left]
    congr 1
    simp
  have depth : (scanRow 1 0 blanks.length 0 (c :: u)).depth = 0 := by
    rw [bears.depth, hd]
    rfl
  have row : Tokenizer.initial.row 1 (blanks ++ c :: u) =
      .ok ((scanRow 1 0 blanks.length 0 (c :: u)).tokens, Tokenizer.initial) := by
    have taken := takeWhile_blanks (u := u) h hb
    rw [← isGap_eq] at taken
    have first : (Tokenizer.initial).row 1 (blanks ++ c :: u) =
      Tokenizer.initial.statementRow 1 (blanks ++ c :: u) := rfl
    rw [first, Tokenizer.statementRow]
    simp only [taken, List.drop_left, hh, ↓reduceIte, indentation_anew h, scan]
    have resumed : Tokenizer.initial.resume (scanRow 1 0 blanks.length 0 (c :: u)) =
        Tokenizer.initial := by
      rw [Tokenizer.resume, bears.ending_plain he]
      simp only [depth]
      rfl
    have level : ¬Tokenizer.initial.indents.headD 0 < 0 := by decide
    simp only [level, ↓reduceIte]
    exact congrArg (fun state => Except.ok (_, state)) resumed
  unfold tokenize Tokens.ofRows
  simp only [row]
  rfl

/-! ## What a row is taken for -/

/-- After a row in which nothing is found there is at most a comment. -/
theorem comment_of_last {t : Text} {s : Survey} (hs : survey 0 t = some s) (he : s.ending = .plain)
    (hlast : s.last = none) :
    ∀ d ∈ (t.dropWhile isBlank).head?, d = ('#' : CodePoint) := by
  rw [← isGap_eq]
  rw [survey_dropWhile] at hs
  cases ht : t.dropWhile isGap with
  | nil => simp
  | cons e v =>
    rintro d hd
    obtain rfl := Option.some.inj hd
    rw [ht] at hs
    have gap : isGap e = false := by
      have head := List.head_dropWhile_not isGap (l := t) (by simp [ht])
      simpa [ht] using head
    refine Decidable.byContradiction fun hne => ?_
    have seen := survey_last hs gap hne he
    simp [hlast] at seen

/-- A row that is a complete script of its own is scanned from its first terminal on, and holds
what the scan finds before its end. -/
theorem scan_of_complete (hl : (10 : CodePoint) ∉ row) (hr : (13 : CodePoint) ∉ row)
    (hrow : Scan.BeginsRow blanks row) (h : (ofText row).ending = .complete) :
    ∃ c u j, row = blanks ++ c :: u ∧ Scan.Begins c ∧ (10 : CodePoint) ∉ c :: u ∧
      (Scan.inRow (c :: u) blanks.length []).all =
        ⟨(ofText row).visible ++ Scan.rowEnd j, .complete⟩ := by
  obtain ⟨hblanks, c, u, rfl, hc⟩ := hrow
  have hl' : (10 : CodePoint) ∉ c :: u := fun hm => hl (List.mem_append_right _ hm)
  have hall : (Scan.inRow (c :: u) blanks.length []).all =
      ⟨(ofText (blanks ++ c :: u)).list, .complete⟩ := by
    rw [← ofText_row hl hr hblanks hc, ← h]
  obtain ⟨us, j, hus, hvisible, -⟩ := Scan.leads_row [] 0 0 [] hl' hall
  refine ⟨c, u, j, rfl, hc, hl', ?_⟩
  rw [visible_of_eq hus hvisible, ← hus]
  exact hall

/-- A row begins with the word that is its first terminal. -/
theorem firstWord_of_visible {w : Text} {first : Terminal} {others : List Terminal}
    (hl : (10 : CodePoint) ∉ row) (hr : (13 : CodePoint) ∉ row) (hrow : Scan.BeginsRow blanks row)
    (h : (ofText row).ending = .complete) (hv : (ofText row).visible = first :: others)
    (hw : ∀ c ∈ w, c.isAsciiLetter = true) (hf : first.isWord w = true) : firstWord row = w := by
  obtain ⟨c, u, j, rfl, hc, hu, hall⟩ := scan_of_complete hl hr hrow h
  rw [hv] at hall
  rw [firstWord, dropWhile_blanks hrow.anew hc.1]
  exact Scan.takeWhile_of_isWord hu hc hall hw hf

/-- What a row of statements is taken for is told by its first word and its last terminal. -/
theorem role_of_complete (hl : (10 : CodePoint) ∉ row) (hr : (13 : CodePoint) ∉ row)
    (hrow : Scan.BeginsRow blanks row) (h : (ofText row).ending = .complete) (he : ¬IsEnd row) :
    ∃ tokens, tokenize [row] = .ok tokens ∧
      role tokens = .statements
        (if firstWord row ∈ clauseKeywords then some (firstWord row) else none)
        (if (ofText row).visible.getLast?.any (·.isOp ":") then some blanks.length else none) := by
  obtain ⟨c, u, j, rfl, hc, hu, hall⟩ := scan_of_complete hl hr hrow h
  have hblanks := hrow.anew
  obtain ⟨s, us, j', hs, plainly, hd, hlist, hcolon⟩ := Scan.survey_of_complete hu hall
  rw [(List.append_inj' hlist rfl).1]
  have gap : isGap c = false := by rw [isGap_eq, hc.1]
  have word : firstWord (blanks ++ c :: u) = (c :: u).takeWhile CodePoint.isWord := by
    rw [firstWord, dropWhile_blanks hblanks hc.1]
  obtain ⟨token, scan, s', depth, hscan, hsig, hstart, hs', bears, same, hwords⟩ :=
    (scanRow_first hs gap hc.2.1 hc.2.2.2 1 blanks.length 0).resolve_right fun ⟨_, q, _, he, _⟩ => by
      rw [plainly] at he
      cases he
  have plainly' : s'.ending = .plain := same.trans plainly
  have open_ (q : Quote) : s'.ending ≠ .within q := by simp [plainly']
  obtain ⟨ts, e, htokens, hts, hquiet⟩ := bears.quiet_line plainly'
  have whole := scanRow_bears hs 1 blanks.length 0
  have tokens_ := tokenize_row hblanks hc hs plainly hd
  rw [hscan, RowScan.cons] at whole tokens_
  have quiet : ∀ t ∈ [e, ⟨.endMarker, [], ⟨2, 0⟩, ⟨2, 0⟩⟩], t.significant = false := by
    simpa using ⟨hquiet, rfl⟩
  have split_ : token :: scan.tokens ++ [⟨.endMarker, [], ⟨2, 0⟩, ⟨2, 0⟩⟩] =
      token :: (ts ++ [e, ⟨.endMarker, [], ⟨2, 0⟩, ⟨2, 0⟩⟩]) := by
    simp [htokens]
  refine ⟨_, tokens_, ?_⟩
  simp only [split_]
  have plain : ∀ w ∈ clauseKeywords, IsPlainWord w := by decide
  have signs : (token :: scan.tokens).filter Token.significant =
      token :: ts.filter Token.significant := by
    rw [htokens]
    exact significant_line hsig (List.forall_mem_singleton.2 hquiet)
  have last : (token :: ts.filter Token.significant).getLast?.any (·.isOp ":") =
      us.getLast?.any (·.isOp ":") := by
    have same := whole.last fun q hq => by simp [plainly] at hq
    simp only [signs] at same
    have any := congrArg (Option.any id) (same.trans hcolon.symm)
    simpa only [Option.any_map, id_eq] using any
  have notEnd : isEnd (token :: (ts ++ [e, ⟨.endMarker, [], ⟨2, 0⟩, ⟨2, 0⟩⟩])) = false := by
    rw [Bool.eq_false_iff, isEnd, significant_line hsig quiet]
    intro hend
    cases hts' : ts.filter Token.significant with
    | cons t rest => simp [hts'] at hend
    | nil =>
      simp only [hts', Token.isWord, Bool.and_eq_true, beq_iff_eq] at hend
      have none_ : s'.last = none := by
        have same := bears.last open_
        have nothing : scan.tokens.filter Token.significant = [] := by
          rw [htokens, List.filter_append, hts', List.filter_cons_of_neg (by simp [hquiet])]
          rfl
        rw [nothing] at same
        exact Option.map_eq_none_iff.1 same.symm
      have first : (c :: u).takeWhile CodePoint.isWord = "end" :=
        (hwords "end" (by decide)).1.1 hend.2
      refine he ⟨(c :: u).drop 3, ?_, ?_⟩
      · have cut := List.prefix_iff_eq_append.1
          (List.takeWhile_prefix (l := c :: u) CodePoint.isWord)
        rw [first] at cut
        rw [dropWhile_blanks hblanks hc.1]
        exact cut.symm
      · rw [hend.2] at hs'
        exact comment_of_last hs' plainly' none_
  have continued : continuation? (token :: (ts ++ [e, ⟨.endMarker, [], ⟨2, 0⟩, ⟨2, 0⟩⟩])) =
      if firstWord (blanks ++ c :: u) ∈ clauseKeywords then some (firstWord (blanks ++ c :: u))
      else none := by
    rw [continuation?, significant_line hsig quiet, List.head?_cons, Option.map_some, word]
    by_cases hm : (c :: u).takeWhile CodePoint.isWord ∈ clauseKeywords
    · have same : token.text = (c :: u).takeWhile CodePoint.isWord :=
        (hwords _ (plain _ hm)).1.2 rfl
      simp [hm, same, Option.filter]
    · have other : token.text ∉ clauseKeywords := fun ht =>
        hm (((hwords _ (plain _ ht)).1.1 rfl).symm ▸ ht)
      simp [hm, other, Option.filter]
  rw [role_eq, notEnd, continued, headerColumn?_line hsig hts quiet, last, hstart]
  rfl

end Block

end Stencil
