import Stencil.Proofs.Template.Await
import Stencil.Proofs.Template.Origin
import Stencil.Proofs.Template.Statement

/-!
# No section captures its surroundings

Each section that tokenizes leaves the tokenizer idle: no string, bracket or joined row is open
after it. Neither its place, nor its indentation, nor awaited inclusions change that, and a literal
leaves the tokenizer idle as well. So the tokens of a body are those of its parts, one part after
another.

## Main definitions

* `Part.ownRows` — the rows of a part before they are indented.
* `Part.kinds` — the kinds of the tokens of a part by itself.
* `Part.Stable` — what makes the tokens of a part independent of the parts around it.

## Main results

* `Template.tokens_of_compile` — the tokens of a body are like those of its parts.
* `Template.kinds_of_compile` — the kinds of the tokens of a body are those of its parts.
-/

namespace Stencil

open Script

/-! ## Tokens of rows by themselves -/

namespace Script

/-- The kinds of the tokens that are neither layout nor comments. -/
def kinds (ts : List Token) : List Kind := (lasting ts).map (·.kind)

theorem kinds_of_like {R : Change} {ts us : List Token} (h : LikeTokens R ts us) :
    kinds ts = kinds us := by
  unfold LikeTokens at h
  unfold kinds
  generalize lasting ts = vs at h ⊢
  generalize lasting us = ws at h ⊢
  induction h with
  | nil => rfl
  | cons hab _ ih => rw [List.map_cons, List.map_cons, hab.kind, ih]

/-- Rows that lead to an idle tokenizer are tokens by themselves. -/
theorem tokenize_of_runs {rows : List Text} {ts : List Token} {m : Tokenizer}
    (h : Tokenizer.initial.Runs 1 rows ts m) (idle : m.Idle) :
    ∃ vs, tokenize rows = .ok (ts ++ vs) ∧ lasting vs = [] := by
  obtain ⟨vs, hf⟩ := Tokenizer.finish_of_idle idle (1 + rows.length)
  exact ⟨vs, Tokenizer.ofRows_of_runs h hf, Tokenizer.lasting_of_finish hf⟩

end Script

/-! ## Rows of sections -/

namespace Layout

theorem stripEnd_eq_nil_of_isBlank {t : Text} (h : (Text.stripEnd t).isBlank = true) :
    Text.stripEnd t = [] := by
  induction t with
  | nil => rfl
  | cons c t ih =>
    rw [Text.stripEnd] at h ⊢
    cases ht : Text.stripEnd t with
    | nil =>
      rw [ht] at h
      by_cases hc : CodePoint.isSpace c = true
      · simp [hc]
      · simp [hc, Text.isBlank] at h
    | cons d kept =>
      simp only [ht] at h
      have blank : (Text.stripEnd t).isBlank = true := by
        rw [ht]
        exact (Bool.and_eq_true_iff.1 h).2
      exact absurd (ih blank) (by simp [ht])

/-- A blank row of a layout is empty. -/
theorem eq_nil_of_isBlank {code row : Text} {column : Nat} (h : row ∈ (ofCode code column).rows)
    (hb : row.isBlank = true) : row = [] := by
  rw [ofCode, rows_trim, map_dedent] at h
  obtain ⟨u, -, rfl⟩ := List.mem_map.1 (List.mem_of_mem_drop (List.mem_of_mem_take h))
  exact stripEnd_eq_nil_of_isBlank hb

end Layout

namespace Origin

theorem eq_nil_of_awaited {row u : Text} (hrow : row.isBlank = true → row = [])
    (h : Awaited row u) (hb : u.isBlank = true) : u = [] := by
  cases h with
  | same => exact hrow hb
  | await column h =>
    have letter := List.all_eq_true.1 hb 0x61
      (List.mem_append_left _ (List.mem_append_right _ (by decide)))
    exact absurd letter (by decide)

theorem forall_eq_nil_of_awaited {rows us : List Text} (h : List.Forall₂ Awaited rows us)
    (hrows : ∀ row ∈ rows, row.isBlank = true → row = []) :
    ∀ u ∈ us, u.isBlank = true → u = [] := by
  induction h with
  | nil => exact nofun
  | cons hu _ ih =>
    obtain ⟨hrow, hrows⟩ := List.forall_mem_cons.1 hrows
    exact List.forall_mem_cons.2 ⟨eq_nil_of_awaited hrow hu, ih hrows⟩

end Origin

/-! ## Strings over indented rows -/

namespace Part

/-- A text of several rows whose rows after the first are indented; an empty row stays empty. -/
def reindent (depth : Nat) (t : Text) : Text :=
  match Text.rows t with
  | [] => []
  | first :: others =>
    Text.joinRows (first :: others.map fun row => if row = [] then [] else indent depth ++ row)

theorem reindent_of_notMem {depth : Nat} {t : Text} (h : (10 : CodePoint) ∉ t) :
    reindent depth t = t := by
  rw [reindent, Terminals.Scan.rows_of_notMem h]
  rfl

theorem reindent_lineFeed (depth : Nat) (t : Text) {u : Text} (h : (10 : CodePoint) ∉ u) :
    reindent depth (t ++ 10 :: u) =
      reindent depth t ++ 10 :: (if u = [] then [] else indent depth ++ u) := by
  unfold reindent
  rw [Text.rows_append_lineFeed, Terminals.Scan.rows_of_notMem h]
  cases hr : Text.rows t with
  | nil => exact absurd hr (Text.splitOn_ne_nil _ t)
  | cons first others =>
    simp only [List.cons_append, List.map_append, List.map_cons, List.map_nil]
    rw [← List.cons_append]
    exact Text.joinRows_concat (List.cons_ne_nil _ _) _

/-- How the texts of the tokens of a part change with the blocks around it. -/
def change : Part → Change
  | literal .. => .none
  | code depth _ _ =>
    ⟨fun t u => u = reindent depth t, fun t u => (∃ v, t = v ++ [10]) ∧ u = reindent depth t⟩

theorem keepsRows_change (p : Part) : KeepsRows p.change := by
  cases p with
  | literal => exact keepsRows_none
  | code depth line rows =>
    have feed (t : Text) (h : (10 : CodePoint) ∉ t) : t ++ [10] = reindent depth (t ++ [10]) := by
      rw [reindent_lineFeed depth t (by simp), reindent_of_notMem h]
      rfl
    exact ⟨fun t h => (reindent_of_notMem h).symm, feed [] (by simp),
      fun t h => ⟨⟨t, rfl⟩, feed t h⟩⟩

/-- The blanks that blocks put before a row. -/
theorem carries_indent {depth line : Nat} {rows : List Text} {t blanks : Text}
    (ht : (10 : CodePoint) ∉ t) (hb : blanks = if t = [] then [] else indent depth) :
    Tokenizer.Carries (code depth line rows).change blanks t := by
  have added (v u : Text) (hu : (10 : CodePoint) ∉ u) (hne : t = [] ↔ u = []) :
      reindent depth (v ++ [10]) ++ (blanks ++ u) = reindent depth (v ++ [10] ++ u) := by
    rw [reindent_lineFeed depth v List.not_mem_nil, List.append_assoc v, List.singleton_append,
      reindent_lineFeed depth v hu, hb]
    by_cases hu' : u = []
    · simp [hu', hne.2 hu']
    · simp [hu', mt hne.1 hu']
  constructor
  · rintro x y ⟨⟨v, rfl⟩, rfl⟩
    refine ⟨⟨_, rfl⟩, ?_⟩
    rw [added v t ht Iff.rfl]
    exact (reindent_lineFeed depth _ List.not_mem_nil).symm
  · rintro x y n ⟨⟨v, rfl⟩, rfl⟩ pos le
    refine added v _ (fun hm => ht (List.mem_of_mem_take hm)) ?_
    rw [List.take_eq_nil_iff]
    exact ⟨.inr, fun h => h.resolve_left (Nat.ne_of_gt pos)⟩

/-! ## Parts by themselves -/

/-- The rows of a part before the blocks around it indent them. -/
def ownRows : Part → List Text
  | literal _ _ t => Text.rows (Literal.statement t)
  | code _ _ rows => rows

/-- The kinds of the tokens of a part by itself. -/
def kinds : Part → Except TokenError (List Kind)
  | literal .. => .ok [.name, .op, .string, .op, .newline]
  | code _ _ rows => (tokenize rows).map Script.kinds

/-- The rows of a part are these tokens and leave the tokenizer idle. -/
def Owns (p : Part) (ts : List Token) : Prop :=
  ∃ m, Tokenizer.initial.Runs 1 p.ownRows ts m ∧ m.Idle ∧ Clear ts

theorem Owns.unique {p : Part} {ts us : List Token} (ht : p.Owns ts) (hu : p.Owns us) : ts = us := by
  obtain ⟨_, ht, -⟩ := ht
  obtain ⟨_, hu, -⟩ := hu
  exact (ht.unique hu).1

/-- A part that is tokens by itself, in rows that the blocks around it only move. -/
structure Stable (p : Part) : Prop where
  owns : ∃ ts, p.Owns ts
  moved : Tokenizer.MovedRows p.change p.ownRows p.rows

theorem isGap_of_mem_indent {depth : Nat} {b : CodePoint} (h : b ∈ indent depth) :
    isGap b = true := by
  rw [List.eq_of_mem_replicate h]
  rfl

theorem indentRow_eq {depth : Nat} {row : Text} (hb : row.isBlank = true → row = []) :
    indentRow depth row = (if row = [] then [] else indent depth) ++ row := by
  by_cases h : row = []
  · subst h
    rfl
  · rw [indentRow, if_neg (mt hb h), if_neg h]

theorem moved_indentRow {depth : Nat} {row : Text} (h10 : (10 : CodePoint) ∉ row)
    (hb : row.isBlank = true → row = []) :
    Tokenizer.Moved (if row = [] then [] else indent depth) row (indentRow depth row) where
  row := h10
  moved := indentRow_eq hb
  gap b hm := by
    split at hm
    · exact absurd hm List.not_mem_nil
    · exact isGap_of_mem_indent hm
  empty h := if_pos h

theorem stable_code {depth line : Nat} {rows : List Text} (hne : rows ≠ [])
    (h10 : ∀ row ∈ rows, (10 : CodePoint) ∉ row)
    (hb : ∀ row ∈ rows, row.isBlank = true → row = [])
    (owns : ∃ ts, (code depth line rows).Owns ts) : (code depth line rows).Stable := by
  refine ⟨owns, ?_⟩
  rw [Origin.rows_code hne h10]
  have moved {rs : List Text} (hrs : ∀ row ∈ rs, row ∈ rows) :
      List.Forall₂ (fun t t' => ∃ blanks, Tokenizer.Moved blanks t t' ∧
        Tokenizer.Carries (code depth line rows).change blanks t) rs (rs.map (indentRow depth)) :=
    List.forall₂_map_right_iff.2 (List.forall₂_same.2 fun row hrow =>
      ⟨_, moved_indentRow (h10 row (hrs row hrow)) (hb row (hrs row hrow)),
        carries_indent (h10 row (hrs row hrow)) rfl⟩)
  cases rows with
  | nil => exact absurd rfl hne
  | cons first others =>
    exact .mk (moved_indentRow (h10 _ List.mem_cons_self) (hb _ List.mem_cons_self))
      (moved fun row hrow => List.mem_cons_of_mem _ hrow)

/-- The kinds of the tokens of a literal. -/
theorem owns_literal (depth line : Nat) (t : Text) :
    ∃ ts, (literal depth line t).Owns ts ∧ ts.map Token.bare =
      [(Kind.name, Text.ofString "write"), (Kind.op, [0x28]), (Kind.string, Literal.token t),
        (Kind.op, [0x29]), (Kind.newline, [10])] := by
  obtain ⟨ts, m, hr, idle, bare⟩ := Literal.runs_statement t 1
  refine ⟨ts, ⟨m, hr, idle, fun token hm => ?_⟩, bare⟩
  have known := List.mem_map_of_mem (f := Token.bare) hm
  rw [bare] at known
  intro hk
  simp [Token.bare, hk] at known

theorem stable_literal (depth line : Nat) (t : Text) : (literal depth line t).Stable := by
  obtain ⟨ts, owns, -⟩ := owns_literal depth line t
  refine ⟨⟨ts, owns⟩, ?_⟩
  have blanks : (10 : CodePoint) ∉ indent depth := by simp [indent]
  have word : (10 : CodePoint) ∉ Text.ofString "write" := by decide
  have feeds := fun row => @Text.notMem_of_mem_rows (Literal.statement t) row
  have first : ∃ u others, Text.rows (Literal.statement t) = (Text.ofString "write" ++ u) :: others ∧
      (literal depth line t).rows = (indent depth ++ (Text.ofString "write" ++ u)) :: others := by
    rw [rows, source, Text.rows_append blanks, Literal.statement_eq, Text.rows_append word]
    cases hr : Text.rows (0x28 :: (Literal.token t ++ [0x29])) with
    | nil => exact absurd hr (Text.splitOn_ne_nil _ _)
    | cons u others => exact ⟨u, others, rfl, rfl⟩
  obtain ⟨u, others, own, moved⟩ := first
  rw [ownRows, own, moved]
  rw [own] at feeds
  refine .mk ⟨feeds _ List.mem_cons_self, rfl, fun _ => isGap_of_mem_indent, ?_⟩
    (List.forall₂_same.2 fun row hrow => ⟨[], ⟨feeds _ (List.mem_cons_of_mem _ hrow), rfl, by simp,
      fun _ => rfl⟩, Tokenizer.carries_nil⟩)
  intro h
  exact absurd h (by simp [Text.ofString])

theorem Owns.kinds {p : Part} {ts : List Token} (h : p.Owns ts) :
    p.kinds = .ok (Script.kinds ts) := by
  cases p with
  | literal depth line t =>
    obtain ⟨us, owns, bare⟩ := owns_literal depth line t
    obtain rfl := h.unique owns
    have all : ts.map (·.kind) = [.name, .op, .string, .op, .newline] := by
      have kinds := congrArg (List.map Prod.fst) bare
      rwa [List.map_map] at kinds
    have lasts : lasting ts = ts := by
      refine List.filter_eq_self.2 fun token hm => ?_
      have known := List.mem_map_of_mem (f := (·.kind)) hm
      rw [all] at known
      revert known
      cases token.kind <;> simp [Kind.lasts]
    rw [Script.kinds, lasts, all]
    rfl
  | code depth line rows =>
    obtain ⟨m, hr, idle, -⟩ := h
    obtain ⟨vs, ht, hvs⟩ := tokenize_of_runs hr idle
    have own : (code depth line rows).ownRows = rows := rfl
    rw [own] at ht
    rw [Part.kinds, ht]
    simp [Except.map, Script.kinds, lasting_append, hvs]

end Part

/-! ## All parts -/

namespace Template

variable {d : Delimiters} {mode : Mode}

/-- Tokens of a part in a body: like those that it has by itself. -/
def Brings (p : Part) (us : List Token) : Prop := ∃ ts, p.Owns ts ∧ LikeTokens p.change ts us

/-- Stable parts leave the tokenizer idle and bring the tokens that each of them has by itself. -/
theorem brings_of_runs {parts : List Part} (h : ∀ p ∈ parts, p.Stable) {s m : Tokenizer} {row : Nat}
    {us : List Token} (idle : s.Idle) (hr : s.Runs row (parts.flatMap Part.rows) us m) :
    m.Idle ∧ ∃ uss, List.Forall₂ Brings parts uss ∧ us = uss.flatten := by
  induction parts generalizing s row us with
  | nil =>
    cases hr
    exact ⟨idle, [], .nil, rfl⟩
  | cons p parts ih =>
    obtain ⟨⟨⟨ts, n, owns, idle', clear⟩, moved⟩, hparts⟩ := List.forall_mem_cons.1 h
    rw [List.flatMap_cons] at hr
    obtain ⟨us, vs, m', hfirst, hrest, rfl⟩ := Tokenizer.runs_append_iff.1 hr
    obtain ⟨hlike, htokens⟩ := Tokenizer.idle_initial.runs (Part.keepsRows_change p) idle moved owns
      clear hfirst
    obtain ⟨idle'', uss, hbrings, rfl⟩ := ih hparts (idle'.of_like hlike) hrest
    exact ⟨idle'', us :: uss, .cons ⟨ts, ⟨n, owns, idle', clear⟩, htokens⟩ hbrings, rfl⟩

/-- What is emitted for the rows of a section is tokens by itself, with the same strings. -/
theorem owns_emitted (mode : Mode) {rows : List Text} {tokens : List Token}
    (h10 : ∀ row ∈ rows, (10 : CodePoint) ∉ row) (ht : tokenize rows = .ok tokens)
    (clear : Clear tokens) (depth line : Nat) :
    ∃ ts, (Part.code depth line (emitted mode rows tokens)).Owns ts ∧
      strings ts = strings tokens := by
  cases mode with
  | blocking =>
    obtain ⟨us, m, hr, idle, hus, lasts⟩ := tokenize_eq_ok h10 ht clear
    exact ⟨us, ⟨m, hr, idle, hus⟩, by rw [← strings_lasting, lasts, strings_lasting]⟩
  | suspending =>
    obtain ⟨-, us, m, hr, idle, hus, same⟩ := runs_awaitCalls h10 ht clear
    exact ⟨us, ⟨m, hr, idle, hus⟩, same⟩

/-- The part of a section is stable if the section has no tokens of unknown kind. -/
theorem stable_of_sectionPart {depth depth' : Nat} {place : Place} {code : Text}
    {part : Option Part} (h : sectionPart mode depth place code = .ok (part, depth'))
    (clear : ∀ ts, tokenize (Layout.ofCode code place.column).rows = .ok ts → Clear ts) :
    ∀ p ∈ part, p.Stable := by
  intro p hp
  obtain ⟨rfl, -⟩ | ⟨tokens, continuation, opening, hne, ht, -, rfl⟩ := sectionPart_eq_ok rfl h
  · exact absurd hp (by simp)
  · obtain rfl := Option.some.inj hp
    have awaited := Origin.awaited_emitted mode (Layout.ofCode code place.column).rows tokens
    have feeds : ∀ row ∈ (Layout.ofCode code place.column).rows, (10 : CodePoint) ∉ row :=
      fun row => Layout.notMem_of_mem_rows
    have empties : ∀ row ∈ (Layout.ofCode code place.column).rows, row.isBlank = true → row = [] :=
      fun row => Layout.eq_nil_of_isBlank
    obtain ⟨ts, owns, -⟩ := owns_emitted mode feeds ht (clear tokens ht)
      (if continuation.isSome then depth - 1 else depth)
      (place.line + (Layout.ofCode code place.column).skipped)
    refine Part.stable_code ?_ (Origin.forall_notMem_awaited (by decide) awaited feeds)
      (Origin.forall_eq_nil_of_awaited awaited empties) ⟨ts, owns⟩
    intro he
    rw [he] at awaited
    exact hne (List.forall₂_nil_right_iff.1 awaited)

/-- The parts of a template are stable if its sections have no tokens of unknown kind. -/
theorem stable_of_partsFrom {segments : Segments} {depth : Nat} {place : Place} {parts : List Part}
    (h : partsFrom d mode depth place segments = .ok parts)
    (clear : ∀ l ∈ layoutsFrom d place segments, ∀ ts, tokenize l.rows = .ok ts → Clear ts) :
    ∀ p ∈ parts, p.Stable := by
  induction segments generalizing depth place parts with
  | last literal =>
    unfold partsFrom at h
    split at h
    · obtain rfl := Except.ok.inj h
      exact List.forall_mem_singleton.2 (Part.stable_literal depth place.line literal)
    · simp at h
  | unclosed => simp [partsFrom] at h
  | next literal code rest ih =>
    rw [layoutsFrom] at clear
    obtain ⟨hcode, hrest⟩ := List.forall_mem_cons.1 clear
    simp only [partsFrom] at h
    split at h
    · simp at h
    · rename_i part depth' hsection
      split at h
      · simp at h
      · rename_i others hothers
        obtain rfl := Except.ok.inj h
        refine List.forall_mem_cons.2 ⟨Part.stable_literal depth place.line literal,
          List.forall_mem_append.2 ⟨?_, ih hothers hrest⟩⟩
        have stable := stable_of_sectionPart hsection hcode
        intro p hp
        exact stable p (Option.mem_toList.1 hp)

/-- The tokens of a body are those of its parts, one part after another, as far as the body is
tokens and the sections have no tokens of unknown kind. -/
theorem tokens_of_compile {text : Text} {s : Source} {ts : List Token}
    (h : compile d mode text = .ok s)
    (clear : ∀ l ∈ layouts d text, ∀ us, tokenize l.rows = .ok us → Clear us)
    (ht : tokenize s.rows = .ok ts) :
    ∃ parts uss, Template.parts d mode text = .ok parts ∧ s = Source.ofParts parts ∧
      List.Forall₂ Brings parts uss ∧ lasting ts = lasting uss.flatten := by
  unfold compile at h
  cases hp : Template.parts d mode text with
  | error e => simp [hp, Except.map] at h
  | ok parts =>
    obtain rfl : Source.ofParts parts = s := by simpa [hp, Except.map] using h
    have stable := stable_of_partsFrom hp clear
    rw [rows_ofParts (partsFrom_ne_nil hp)] at ht
    obtain ⟨us, vs, m, hr, hf, rfl⟩ := Tokenizer.runs_of_ofRows ht
    obtain ⟨idle, uss, brings, rfl⟩ := brings_of_runs stable Tokenizer.idle_initial hr
    exact ⟨parts, uss, rfl, rfl, brings,
      by rw [lasting_append, Tokenizer.lasting_of_finish hf, List.append_nil]⟩

end Template

end Stencil
