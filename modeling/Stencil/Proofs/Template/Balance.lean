import Stencil.Run.Template

/-!
# Balanced templates

A template can be compiled if and only if its code sections are balanced. Every closed section is
of one kind, which says how it changes the number of open blocks; the sections are looked at in
their order, and the first one that offends is reported.

## Main definitions

* `Block.lines`, `Block.lastHead?` — the logical lines of a section, and where the last one begins.
* `SectionKind`, `Layout.kind` — what a closed section is to the blocks around it.
* `Template.layouts`, `Template.openBefore` — the closed sections of a template, and how many blocks
  are open before each of them.
* `Layout.offence?` — what is wrong with a section where so many blocks are open.

## Main results

* `Block.headerColumn?_eq` — the header of a section is found as its kind says.
* `Template.compile_balanced` — which templates are compiled, and what is said of all others.
-/

namespace Stencil

open Script

namespace Block

/-! ## Logical lines -/

/-- The tokens of a section by logical lines, each of which ends with a statement. -/
def lines : List Token → List (List Token)
  | [] => [[]]
  | t :: rest =>
    if t.kind = .newline then [] :: lines rest
    else match lines rest with
      | [] => [[t]]
      | line :: others => (t :: line) :: others

/-- The first significant tokens of lines, as far as they have any. -/
def heads (ls : List (List Token)) : List Token := ls.filterMap (·.find? Token.significant)

/-- The first significant token of the last logical line. -/
def lastHead? (tokens : List Token) : Option Token := (heads (lines tokens)).getLast?

theorem lines_ne_nil (tokens : List Token) : lines tokens ≠ [] := by
  cases tokens with
  | nil => simp [lines]
  | cons t rest =>
    unfold lines
    split
    · simp
    · split <;> simp

theorem lines_newline {t : Token} (h : t.kind = .newline) (rest : List Token) :
    lines (t :: rest) = [] :: lines rest := by simp [lines, h]

theorem lines_cons {t : Token} (h : t.kind ≠ .newline) (rest : List Token) :
    lines (t :: rest) = (t :: (lines rest).headD []) :: (lines rest).tail := by
  rw [lines, if_neg h]
  cases hl : lines rest with
  | nil => exact absurd hl (lines_ne_nil rest)
  | cons line others => rfl

theorem significant_newline {t : Token} (h : t.kind = .newline) : t.significant = false := by
  simp [Token.significant, h]

/-- The significant tokens that `ends` finds. A line that has begun keeps its head, so that only the
lines after it count; this is what the flag `fresh` carries through the induction. -/
theorem ends_eq (head last : Option Token) (fresh : Bool) (tokens : List Token) :
    ends head last fresh tokens =
      ((heads (if fresh then lines tokens else (lines tokens).tail)).getLast?.or head,
        (tokens.filter Token.significant).getLast?.or last) := by
  induction tokens generalizing head last fresh with
  | nil => cases fresh <;> simp [ends, lines, heads]
  | cons t rest ih =>
    by_cases hn : t.kind = .newline
    · have hs := significant_newline hn
      cases fresh <;> simp [ends, hn, hs, ih, lines_newline hn, heads]
    · obtain ⟨line, others, hl⟩ := List.exists_cons_of_ne_nil (lines_ne_nil rest)
      by_cases hs : t.significant
      · cases fresh <;>
          simp [ends, hn, hs, ih, lines_cons hn, hl, heads, List.getLast?_cons] <;>
          cases (List.filterMap (·.find? Token.significant) others).getLast? <;>
          cases (rest.filter Token.significant).getLast? <;> simp
      · simp only [Bool.not_eq_true] at hs
        cases fresh <;> simp [ends, hn, hs, ih, lines_cons hn, hl, heads]

/-! ## Roles -/

/-- The tokens are the word `end` and nothing else that is significant. -/
def isEnd (tokens : List Token) : Bool :=
  match tokens.filter Token.significant with
  | [t] => t.isWord "end"
  | _ => false

/-- The keyword with which the tokens go on after the block before. -/
def continuation? (tokens : List Token) : Option Text :=
  ((tokens.filter Token.significant).head?.map (·.text)).filter (· ∈ clauseKeywords)

/-- The tokens end in a colon. -/
def opens (tokens : List Token) : Bool :=
  (tokens.filter Token.significant).getLast?.any (·.isOp ":")

theorem headerColumn?_eq (tokens : List Token) :
    headerColumn? tokens =
      if opens tokens then (lastHead? tokens).map (·.start.column) else none := by
  unfold headerColumn? opens lastHead?
  rw [ends_eq]
  simp only [↓reduceIte, Option.or_none]
  cases (heads (lines tokens)).getLast? with
  | none => cases (tokens.filter Token.significant).getLast? <;> simp
  | some head => cases (tokens.filter Token.significant).getLast? <;> simp

/-- A line with a significant token has a first one. -/
theorem lastHead?_isSome {tokens : List Token} {t : Token} (h : t ∈ tokens)
    (hs : t.significant = true) : (lastHead? tokens).isSome = true := by
  have found : ∃ line ∈ lines tokens, t ∈ line := by
    induction tokens with
    | nil => simp at h
    | cons u rest ih =>
      by_cases hn : u.kind = .newline
      · rw [lines_newline hn]
        have hr : t ∈ rest := by
          rcases List.mem_cons.1 h with rfl | hr
          · simp [significant_newline hn] at hs
          · exact hr
        obtain ⟨line, hl, ht⟩ := ih hr
        exact ⟨line, List.mem_cons_of_mem _ hl, ht⟩
      · rw [lines_cons hn]
        rcases List.mem_cons.1 h with rfl | hr
        · exact ⟨_, List.mem_cons_self, List.mem_cons_self⟩
        · obtain ⟨line, hl, ht⟩ := ih hr
          obtain ⟨first, others, hf⟩ := List.exists_cons_of_ne_nil (lines_ne_nil rest)
          rw [hf] at hl ⊢
          rcases List.mem_cons.1 hl with rfl | ho
          · exact ⟨_, List.mem_cons_self, List.mem_cons_of_mem _ ht⟩
          · exact ⟨line, List.mem_cons_of_mem _ ho, ht⟩
  obtain ⟨line, hl, ht⟩ := found
  have hfind : (line.find? Token.significant).isSome := List.find?_isSome.2 ⟨t, ht, hs⟩
  obtain ⟨head, hhead⟩ := Option.isSome_iff_exists.1 hfind
  have hm : head ∈ heads (lines tokens) := List.mem_filterMap.2 ⟨line, hl, hhead⟩
  rw [lastHead?, List.getLast?_eq_some_getLast (List.ne_nil_of_mem hm)]
  rfl

/-- Tokens that end in a colon have a last line that begins somewhere. -/
theorem lastHead?_of_opens {tokens : List Token} (h : opens tokens = true) :
    ∃ head, lastHead? tokens = some head := by
  unfold opens at h
  cases hl : (tokens.filter Token.significant).getLast? with
  | none => simp [hl] at h
  | some t =>
    have hm := List.mem_filter.1 (List.mem_of_getLast? hl)
    exact Option.isSome_iff_exists.1 (lastHead?_isSome hm.1 hm.2)

/-- Tokens open a block where they have a header, which is indented unless it begins its row. -/
theorem opens_header (tokens : List Token) :
    (if opens tokens then some ((lastHead? tokens).any (·.start.column != 0)) else none) =
      (headerColumn? tokens).map (· != 0) := by
  rw [headerColumn?_eq]
  by_cases ho : opens tokens
  · obtain ⟨head, hh⟩ := lastHead?_of_opens ho
    simp [ho, hh]
  · simp [ho]

/-- What a section does is decided by its first, its last and its only significant token. -/
theorem role_eq (tokens : List Token) :
    role tokens =
      if isEnd tokens then .close else .statements (continuation? tokens) (headerColumn? tokens) := by
  unfold role isEnd continuation?
  split
  · rename_i t h
    by_cases he : t.isWord "end"
    · simp [h, he]
    · by_cases hk : t.text ∈ clauseKeywords <;> simp [h, he, hk, role.statements, Option.filter]
  · rename_i h
    rcases hs : tokens.filter Token.significant with _ | ⟨t, _ | ⟨u, rest⟩⟩
    · simp [role.statements]
    · exact absurd hs (h t)
    · by_cases hk : t.text ∈ clauseKeywords <;> simp [hk, role.statements, Option.filter]

end Block

/-! ## Kinds of sections -/

/-- What a closed section is to the blocks around it. -/
inductive SectionKind where
  | blank
  | untokenizable (error : TokenError)
  | close
  /-- Statements: `continuation` if they go on after the block before, with this keyword, and
  `opening` if they open a block, by a line that is indented or by one that is not. -/
  | statements (continuation : Option Text) (opening : Option Bool)
  deriving DecidableEq, Repr

namespace SectionKind

/-- How a section changes the number of open blocks. -/
def change : SectionKind → Int
  | blank | untokenizable _ => 0
  | close => -1
  | statements continuation opening =>
    (if continuation.isSome then -1 else 0) + (if opening.isSome then 1 else 0)

/-- A section needs a block that is open before it. -/
def closes : SectionKind → Bool
  | close => true
  | statements continuation _ => continuation.isSome
  | blank | untokenizable _ => false

/-- A section is refused wherever it stands. -/
def isFaulty : SectionKind → Bool
  | untokenizable _ => true
  | statements _ opening => opening = some true
  | blank | close => false

end SectionKind

namespace Layout

/-- The kind of a section with a layout. -/
def kind (l : Layout) : SectionKind :=
  if l.rows = [] then .blank
  else match tokenize l.rows with
    | .error e => .untokenizable e
    | .ok tokens =>
      if Block.isEnd tokens then .close
      else .statements (Block.continuation? tokens)
        (if Block.opens tokens then some ((Block.lastHead? tokens).any (·.start.column != 0))
          else none)

/-- What is wrong with a section where `depth` blocks are open. -/
def offence? (depth : Int) (l : Layout) : Option TemplateFault :=
  match l.kind with
  | .blank => none
  | .untokenizable e => some (.badSection e (l.rows.headD []))
  | .close => if depth < 1 then some .strayEnd else none
  | .statements continuation opening =>
    match continuation with
    | some keyword =>
      if depth < 1 then some (.strayClause keyword)
      else if opening = some true then some (.indentedHeader (l.rows.headD [])) else none
    | none => if opening = some true then some (.indentedHeader (l.rows.headD [])) else none

/-- A section does not offend if and only if it may stand anywhere, or anywhere inside a block if it
ends one. -/
theorem offence?_eq_none_iff (depth : Int) (l : Layout) :
    l.offence? depth = none ↔
      l.kind.isFaulty = false ∧ (l.kind.closes = true → 1 ≤ depth) := by
  unfold offence?
  cases hk : l.kind with
  | blank => simp [SectionKind.isFaulty, SectionKind.closes]
  | untokenizable e => simp [SectionKind.isFaulty]
  | close => simp [SectionKind.isFaulty, SectionKind.closes]
  | statements continuation opening =>
    cases continuation <;> by_cases ho : opening = some true <;>
      by_cases hd : depth < 1 <;> simp [SectionKind.isFaulty, SectionKind.closes, ho, hd] <;> omega

end Layout

namespace Template

/-! ## One section -/

section

variable {mode : Mode} {depth : Nat} {place : Place} {code firstRow : Text} {l : Layout}
  {others : List Text} {tokens : List Token}

/-- The part of a section that has rows is decided by their tokens. -/
theorem sectionPart_of_rows (hl : Layout.ofCode code place.column = l)
    (hr : l.rows = firstRow :: others) :
    sectionPart mode depth place code =
      match tokenize l.rows with
      | .error e => .error (.badSection e firstRow)
      | .ok tokens =>
        if Block.isEnd tokens then
          if depth = 0 then .error .strayEnd else .ok (none, depth - 1)
        else
          match Block.continuation? tokens, depth with
          | some keyword, 0 => .error (.strayClause keyword)
          | continuation, _ =>
            let outer := if continuation.isSome then depth - 1 else depth
            match Block.headerColumn? tokens with
            | some (_ + 1) => .error (.indentedHeader firstRow)
            | header =>
              let rows := match mode with
                | .blocking => l.rows
                | .suspending => Block.awaitCalls l.rows tokens
              .ok (some (.code outer (place.line + l.skipped) rows),
                if header.isSome then outer + 1 else outer) := by
  unfold sectionPart
  simp only [hl, hr]
  cases tokenize (firstRow :: others) with
  | error e => rfl
  | ok tokens =>
    simp only [Block.role_eq]
    by_cases he : Block.isEnd tokens
    · simp [he]
    · simp only [he, Bool.false_eq_true, ↓reduceIte]
      rcases Block.continuation? tokens with _ | keyword <;> rcases depth with _ | depth <;>
        rcases Block.headerColumn? tokens with _ | _ | column <;> rfl

end

/-- Compiling a section refuses what offends, and counts the open blocks as the kind says. -/
theorem sectionPart_eq (mode : Mode) (depth : Nat) (place : Place) (code : Text) :
    match (Layout.ofCode code place.column).offence? depth with
    | some fault => sectionPart mode depth place code = .error fault
    | none => ∃ part depth', sectionPart mode depth place code = .ok (part, depth') ∧
        (depth' : Int) = depth + (Layout.ofCode code place.column).kind.change := by
  generalize hl : Layout.ofCode code place.column = l
  unfold Layout.offence? Layout.kind
  rcases hr : l.rows with _ | ⟨firstRow, others⟩
  · exact ⟨none, depth, by simp [sectionPart, hl, hr], by simp [SectionKind.change]⟩
  · rw [sectionPart_of_rows hl hr, hr]
    simp only [reduceCtorEq, ↓reduceIte, List.headD_cons]
    cases tokenize (firstRow :: others) with
    | error e => rfl
    | ok tokens =>
      by_cases he : Block.isEnd tokens
      · rcases depth with _ | depth
        · simp [he]
        · have hd : ¬ ((depth + 1 : Nat) : Int) < 1 := by omega
          simp only [he, ↓reduceIte, hd, Nat.add_eq_zero_iff, Nat.succ_ne_self, and_false]
          exact ⟨_, _, rfl, by simp only [SectionKind.change]; omega⟩
      · simp only [he, Bool.false_eq_true, ↓reduceIte, Block.opens_header]
        have hd (n : Nat) : ¬ (n : Int) + 1 < 1 := by omega
        rcases Block.continuation? tokens with _ | keyword <;> rcases depth with _ | depth <;>
          rcases Block.headerColumn? tokens with _ | _ | column <;>
          simp [hd, SectionKind.change] <;> exact ⟨_, _, ⟨rfl, rfl⟩, by omega⟩

/-- The rows that are emitted for the rows of a section with these tokens. -/
def emitted (mode : Mode) (rows : List Text) (tokens : List Token) : List Text :=
  match mode with
  | .blocking => rows
  | .suspending => Block.awaitCalls rows tokens

/-- Nothing is emitted for a section that is blank or ends a block, and the rows of any other. -/
theorem sectionPart_eq_ok {mode : Mode} {depth depth' : Nat} {place : Place} {code : Text}
    {part : Option Part} {l : Layout} (hl : Layout.ofCode code place.column = l)
    (h : sectionPart mode depth place code = .ok (part, depth')) :
    (part = none ∧ (l.kind = .blank ∨ l.kind = .close)) ∨
      ∃ tokens continuation opening, l.rows ≠ [] ∧ tokenize l.rows = .ok tokens ∧
        l.kind = .statements continuation opening ∧
        part = some (.code (if continuation.isSome then depth - 1 else depth)
          (place.line + l.skipped) (emitted mode l.rows tokens)) := by
  rcases hr : l.rows with _ | ⟨firstRow, others⟩
  · refine .inl ⟨?_, .inl (by simp [Layout.kind, hr])⟩
    unfold sectionPart at h
    simp only [hl, hr, Except.ok.injEq, Prod.mk.injEq] at h
    exact h.1.symm
  · rw [sectionPart_of_rows hl hr, hr] at h
    cases ht : tokenize (firstRow :: others) with
    | error e => simp [ht] at h
    | ok tokens =>
      simp only [ht] at h
      have kind : l.kind = if Block.isEnd tokens then .close
          else .statements (Block.continuation? tokens)
            (if Block.opens tokens then some ((Block.lastHead? tokens).any (·.start.column != 0))
              else none) := by
        rw [Layout.kind, hr, ht]
        rfl
      by_cases he : Block.isEnd tokens
      · rw [if_pos he] at h kind
        refine .inl ⟨?_, .inr kind⟩
        by_cases hd : depth = 0
        · simp [hd] at h
        · simp only [hd, ↓reduceIte, Except.ok.injEq, Prod.mk.injEq] at h
          exact h.1.symm
      · rw [if_neg he] at h kind
        have hpart : part = some (.code
            (if (Block.continuation? tokens).isSome then depth - 1 else depth)
            (place.line + l.skipped) (emitted mode (firstRow :: others) tokens)) := by
          revert h
          rcases Block.continuation? tokens with _ | keyword <;> rcases depth with _ | depth <;>
            rcases Block.headerColumn? tokens with _ | _ | column <;> intro h <;>
            simp only [reduceCtorEq, Except.ok.injEq, Prod.mk.injEq] at h
          all_goals exact h.1.symm
        exact .inr ⟨tokens, _, _, List.cons_ne_nil _ _, rfl, kind, hpart⟩

/-! ## All sections -/

/-- The layouts of the closed sections of segments that begin at a place. -/
def layoutsFrom (d : Delimiters) (place : Place) : Segments → List Layout
  | .last _ | .unclosed _ _ => []
  | .next literal code rest =>
    let codePlace := (place.after literal).after d.start
    Layout.ofCode code codePlace.column ::
      layoutsFrom d ((codePlace.after code).after d.stop) rest

/-- The layouts of the closed sections of a template, in their order. -/
def layouts (d : Delimiters) (text : Text) : List Layout :=
  layoutsFrom d Place.first (Segments.ofText d text)

/-- No section is left unclosed. -/
def isClosed : Segments → Bool
  | .last _ => true
  | .unclosed _ _ => false
  | .next _ _ rest => isClosed rest

/-- The number of blocks that are open after sections. -/
def openAfter (ls : List Layout) : Int := ls.foldl (fun depth l => depth + l.kind.change) 0

/-- The number of blocks that are open before the section at a position. -/
def openBefore (ls : List Layout) (k : Nat) : Int := openAfter (ls.take k)

/-- What is wrong with the first section that offends. -/
def firstOffence? (depth : Int) : List Layout → Option TemplateFault
  | [] => none
  | l :: ls => (l.offence? depth).or (firstOffence? (depth + l.kind.change) ls)

theorem foldl_change (depth : Int) (ls : List Layout) :
    ls.foldl (fun depth l => depth + l.kind.change) depth = depth + openAfter ls := by
  unfold openAfter
  induction ls generalizing depth with
  | nil => simp
  | cons l ls ih =>
    rw [List.foldl_cons, List.foldl_cons, ih, ih (0 + _)]
    omega

theorem openAfter_cons (l : Layout) (ls : List Layout) :
    openAfter (l :: ls) = l.kind.change + openAfter ls := by
  have := foldl_change (0 + l.kind.change) ls
  simpa [openAfter] using this

@[simp] theorem openBefore_zero (ls : List Layout) : openBefore ls 0 = 0 := rfl

@[simp] theorem openBefore_succ (l : Layout) (ls : List Layout) (k : Nat) :
    openBefore (l :: ls) (k + 1) = l.kind.change + openBefore ls k := by
  simp [openBefore, openAfter_cons]

/-- No section offends if none does where it stands. -/
theorem firstOffence?_eq_none_iff (depth : Int) (ls : List Layout) :
    firstOffence? depth ls = none ↔
      ∀ (k : Nat) (l : Layout), ls[k]? = some l → l.offence? (depth + openBefore ls k) = none := by
  induction ls generalizing depth with
  | nil => simp [firstOffence?]
  | cons l ls ih =>
    rw [firstOffence?, Option.or_eq_none_iff, ih]
    constructor
    · rintro ⟨hl, hls⟩ (_ | k) l' hk
      · obtain rfl : l = l' := by simpa using hk
        simpa using hl
      · have := hls k l' (by simpa using hk)
        simpa [Int.add_assoc] using this
    · intro h
      refine ⟨by simpa using h 0 l rfl, fun k l' hk => ?_⟩
      have := h (k + 1) l' (by simpa using hk)
      simpa [Int.add_assoc] using this

/-- A fault is that of the first section that offends. -/
theorem firstOffence?_eq_some_iff (depth : Int) (ls : List Layout) (fault : TemplateFault) :
    firstOffence? depth ls = some fault ↔
      ∃ (k : Nat) (l : Layout), ls[k]? = some l ∧
        l.offence? (depth + openBefore ls k) = some fault ∧
        ∀ j < k, ∀ l' : Layout, ls[j]? = some l' → l'.offence? (depth + openBefore ls j) = none := by
  induction ls generalizing depth with
  | nil => simp [firstOffence?]
  | cons l ls ih =>
    rw [firstOffence?]
    cases hl : l.offence? depth with
    | some first =>
      rw [Option.some_or]
      constructor
      · rintro ⟨⟩
        exact ⟨0, l, rfl, by simpa using hl, by simp⟩
      · rintro ⟨_ | k, l', hk, hf, hj⟩
        · obtain rfl : l = l' := by simpa using hk
          simpa [hl] using hf
        · have := hj 0 (by omega) l rfl
          simp [hl] at this
    | none =>
      rw [Option.none_or, ih]
      constructor
      · rintro ⟨k, l', hk, hf, hj⟩
        refine ⟨k + 1, l', by simpa using hk, by simpa [Int.add_assoc] using hf, ?_⟩
        rintro (_ | j) hlt l'' hj'
        · obtain rfl : l = l'' := by simpa using hj'
          simpa using hl
        · have := hj j (by omega) l'' (by simpa using hj')
          simpa [Int.add_assoc] using this
      · rintro ⟨_ | k, l', hk, hf, hj⟩
        · obtain rfl : l = l' := by simpa using hk
          simp [hl] at hf
        · refine ⟨k, l', by simpa using hk, by simpa [Int.add_assoc] using hf, ?_⟩
          intro j hlt l'' hj'
          have := hj (j + 1) (by omega) l'' (by simpa using hj')
          simpa [Int.add_assoc] using this

/-- The parts of segments: the first section that offends is reported, and what the end lacks only
if none does. The induction is on the segments; `depth` is the number of blocks that sections before
have left open. -/
theorem partsFrom_eq (d : Delimiters) (mode : Mode) (depth : Nat) (place : Place)
    (segments : Segments) :
    match firstOffence? depth (layoutsFrom d place segments) with
    | some fault => partsFrom d mode depth place segments = .error fault
    | none =>
      if isClosed segments then
        ∃ n : Nat, (n : Int) = depth + openAfter (layoutsFrom d place segments) ∧
          if n = 0 then ∃ parts, partsFrom d mode depth place segments = .ok parts
          else partsFrom d mode depth place segments = .error (.openBlocks n)
      else partsFrom d mode depth place segments = .error (.unpaired d.start) := by
  induction segments generalizing depth place with
  | last literal =>
    refine ⟨depth, by simp [layoutsFrom, openAfter], ?_⟩
    by_cases h : depth = 0 <;> simp [partsFrom, h]
  | unclosed literal code => rfl
  | next literal code rest ih =>
    rw [layoutsFrom, firstOffence?, openAfter_cons, partsFrom, isClosed]
    have step := sectionPart_eq mode depth ((place.after literal).after d.start) code
    generalize Layout.ofCode code ((place.after literal).after d.start).column = l at step ⊢
    cases hl : l.offence? depth with
    | some fault => simp only [hl] at step; simp [step]
    | none =>
      simp only [hl] at step
      obtain ⟨part, depth', hs, hd⟩ := step
      have tail := ih depth' ((((place.after literal).after d.start).after code).after d.stop)
      simp only [hs, Option.none_or, ← hd]
      rw [← Int.add_assoc, ← hd]
      split at tail <;> rename_i ho
      · simp [tail]
      · split at tail <;> rename_i hc
        · obtain ⟨n, hn, hp⟩ := tail
          rw [if_pos hc]
          refine ⟨n, hn, ?_⟩
          split at hp <;> rename_i h0
          · obtain ⟨parts, hp⟩ := hp
            rw [if_pos h0]
            exact ⟨_, by rw [hp]⟩
          · rw [if_neg h0, hp]
        · rw [if_neg hc, tail]

/-! ## Acceptance -/

/-- The code sections of a template are balanced. -/
structure Balanced (d : Delimiters) (text : Text) : Prop where
  /-- The template does not end inside a code section. -/
  closed : isClosed (Segments.ofText d text) = true
  /-- No section is faulty by itself, and a block is open before each section that ends one. -/
  sections : ∀ (k : Nat) (l : Layout), (layouts d text)[k]? = some l →
    l.kind.isFaulty = false ∧ (l.kind.closes = true → 1 ≤ openBefore (layouts d text) k)
  /-- No block is open at the end. -/
  level : openAfter (layouts d text) = 0

/-- What is reported about a template that is not balanced. -/
inductive Reported (d : Delimiters) (text : Text) : TemplateFault → Prop
  /-- The offence of a section before which no section offends. -/
  | offence {k : Nat} {l : Layout} {fault : TemplateFault} (at_ : (layouts d text)[k]? = some l)
      (wrong : l.offence? (openBefore (layouts d text) k) = some fault)
      (first : ∀ j < k, ∀ l' : Layout, (layouts d text)[j]? = some l' →
        l'.offence? (openBefore (layouts d text) j) = none) : Reported d text fault
  /-- A section without an end, where no section offends. -/
  | unpaired (open_ : isClosed (Segments.ofText d text) = false)
      (others : ∀ (k : Nat) (l : Layout), (layouts d text)[k]? = some l →
        l.offence? (openBefore (layouts d text) k) = none) : Reported d text (.unpaired d.start)
  /-- The number of blocks without an end, where no section offends and all are closed. -/
  | openBlocks {n : Nat} (closed : isClosed (Segments.ofText d text) = true)
      (others : ∀ (k : Nat) (l : Layout), (layouts d text)[k]? = some l →
        l.offence? (openBefore (layouts d text) k) = none)
      (level : openAfter (layouts d text) = n) (some_ : n ≠ 0) : Reported d text (.openBlocks n)

section

variable {d : Delimiters} (mode : Mode) {text : Text} {fault : TemplateFault}

theorem firstOffence?_layouts_eq_none_iff : firstOffence? 0 (layouts d text) = none ↔
    ∀ (k : Nat) (l : Layout), (layouts d text)[k]? = some l →
      l.offence? (openBefore (layouts d text) k) = none := by
  simpa using firstOffence?_eq_none_iff 0 (layouts d text)

/-- A template without offending sections is judged by its end. -/
theorem parts_of_no_offence (h : firstOffence? 0 (layouts d text) = none) :
    if isClosed (Segments.ofText d text) then
      ∃ n : Nat, (n : Int) = openAfter (layouts d text) ∧
        if n = 0 then ∃ ps, parts d mode text = .ok ps
        else parts d mode text = .error (.openBlocks n)
    else parts d mode text = .error (.unpaired d.start) := by
  have run := partsFrom_eq d mode 0 Place.first (Segments.ofText d text)
  change match firstOffence? 0 (layouts d text) with
    | some _ => _
    | none => _ at run
  simp only [h, Int.natCast_zero, Int.zero_add] at run
  exact run

theorem parts_of_reported (h : Reported d text fault) : parts d mode text = .error fault := by
  cases h with
  | offence at_ wrong first =>
    have offends : firstOffence? 0 (layouts d text) = some fault :=
      (firstOffence?_eq_some_iff 0 _ _).2 ⟨_, _, at_, by simpa using wrong, by simpa using first⟩
    have run := partsFrom_eq d mode 0 Place.first (Segments.ofText d text)
    change match firstOffence? 0 (layouts d text) with
      | some _ => _
      | none => _ at run
    simp only [offends] at run
    exact run
  | unpaired open_ others =>
    have run := parts_of_no_offence mode (firstOffence?_layouts_eq_none_iff.2 others)
    simpa [open_] using run
  | @openBlocks n closed others level some_ =>
    have run := parts_of_no_offence mode (firstOffence?_layouts_eq_none_iff.2 others)
    rw [if_pos closed] at run
    obtain ⟨n', hn, run⟩ := run
    obtain rfl : n = n' := by omega
    rwa [if_neg some_] at run

theorem parts_of_balanced (h : Balanced d text) : ∃ ps, parts d mode text = .ok ps := by
  have others := firstOffence?_layouts_eq_none_iff.2 fun k l hk =>
    (l.offence?_eq_none_iff _).2 (h.sections k l hk)
  have run := parts_of_no_offence mode others
  rw [if_pos h.closed, h.level] at run
  obtain ⟨n, hn, run⟩ := run
  rwa [if_pos (by omega)] at run

/-- Every template is balanced, or something is reported about it. -/
theorem balanced_or_reported (d : Delimiters) (text : Text) :
    Balanced d text ∨ ∃ fault, Reported d text fault := by
  cases ho : firstOffence? 0 (layouts d text) with
  | some fault =>
    obtain ⟨k, l, hk, hf, hj⟩ := (firstOffence?_eq_some_iff 0 _ _).1 ho
    exact .inr ⟨fault, .offence hk (by simpa using hf) (by simpa using hj)⟩
  | none =>
    have others := firstOffence?_layouts_eq_none_iff.1 ho
    have run := parts_of_no_offence .blocking ho
    by_cases hc : isClosed (Segments.ofText d text)
    · rw [if_pos hc] at run
      obtain ⟨n, hn, -⟩ := run
      by_cases h0 : n = 0
      · exact .inl ⟨hc, fun k l hk => (l.offence?_eq_none_iff _).1 (others k l hk), by omega⟩
      · exact .inr ⟨_, .openBlocks hc others hn.symm h0⟩
    · exact .inr ⟨_, .unpaired (by simpa using hc) others⟩

theorem compile_eq_ok_iff : (∃ s, compile d mode text = .ok s) ↔ Balanced d text := by
  unfold compile
  constructor
  · rintro ⟨s, hs⟩
    rcases balanced_or_reported d text with h | ⟨fault, h⟩
    · exact h
    · simp [parts_of_reported mode h, Except.map] at hs
  · intro h
    obtain ⟨ps, hp⟩ := parts_of_balanced mode h
    exact ⟨_, by rw [hp]; rfl⟩

theorem compile_eq_error_iff : compile d mode text = .error fault ↔ Reported d text fault := by
  unfold compile
  constructor
  · intro hf
    rcases balanced_or_reported d text with h | ⟨fault', h⟩
    · obtain ⟨ps, hp⟩ := parts_of_balanced mode h
      simp [hp, Except.map] at hf
    · obtain rfl : fault' = fault := by simpa [parts_of_reported mode h, Except.map] using hf
      exact h
  · intro h
    rw [parts_of_reported mode h]
    rfl

/-- Making the body of a procedure ends with the body, or it raises an error of the template. -/
theorem source_eq (d : Delimiters) (mode : Mode) (name : Option Text) (text : Text)
    (m : Machine) :
    match compile d mode text with
    | .ok s => ∃ m', source d mode name text m = .done (.value s) m'
    | .error fault => ∃ r m', source d mode name text m = .done (.raised r) m' ∧
        m'.heap.thrown? r = some { Thrown.plain .transpileError
          [.str (TemplateError.of name fault.message).message] with
          detail := .path (TemplateError.of name fault.message).path none } := by
  unfold compile source
  cases parts d mode text with
  | ok ps => exact ⟨_, rfl⟩
  | error fault =>
    refine ⟨_, _, rfl, ?_⟩
    simp [Heap.thrown?, Heap.get?]

end

/-- A template is compiled if and only if it is balanced; about any other template exactly that is
reported which comes first, as an error of the template and of no other kind. -/
theorem compile_balanced (d : Delimiters) (mode : Mode) (text : Text) :
    ((∃ s, compile d mode text = .ok s) ↔ Balanced d text) ∧
    (∀ fault, compile d mode text = .error fault ↔ Reported d text fault) ∧
    ∀ (name : Option Text) (m : Machine),
      (Balanced d text → ∃ s m', source d mode name text m = .done (.value s) m') ∧
      ∀ fault, Reported d text fault → ∃ r m', source d mode name text m = .done (.raised r) m' ∧
        m'.heap.thrown? r = some { Thrown.plain .transpileError
          [.str (TemplateError.of name fault.message).message] with
          detail := .path (TemplateError.of name fault.message).path none } := by
  refine ⟨compile_eq_ok_iff mode, fun fault => compile_eq_error_iff mode, fun name m => ⟨?_, ?_⟩⟩
  · intro h
    obtain ⟨s, hs⟩ := (compile_eq_ok_iff mode).2 h
    have made := source_eq d mode name text m
    rw [hs] at made
    exact ⟨s, made⟩
  · intro fault h
    have made := source_eq d mode name text m
    rwa [(compile_eq_error_iff mode).2 h] at made

end Template

end Stencil
