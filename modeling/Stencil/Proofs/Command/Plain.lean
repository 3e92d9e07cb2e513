import Stencil.Proofs.Command.Output
import Stencil.Proofs.Path.Basic
import Stencil.Proofs.Run.Refusal
import Stencil.Proofs.Template.Preservation
import Stencil.Proofs.Template.Seam
import Stencil.Proofs.Text.Utf8

/-!
# Plain files

A template that holds no start delimiter is one literal text. The command decodes it, compiles it to
one call of `write`, constructs and calls the procedure for that, and encodes what has been written:
what it leaves in the output file are the octets of the template, whatever they are.

## Main definitions

* `Disk.Writable` — a file can be written, for which directories may have to be made.

## Main results

* `Command.plain_file_copied` — the output of a plain file is the file.
-/

namespace Stencil

/-! ## The script of a literal text -/

namespace Script

/-- A script that ends without a line feed is the same with one. -/
theorem parse_lineFeed {t : Text} {stmts : List Stmt} (hl : t.getLast? ≠ some 10)
    (hr : (13 : CodePoint) ∉ t) (h : parse t = .ok stmts) : parse (t ++ [10]) = .ok stmts := by
  have whole : Terminals.lines (t ++ [10]) = t ++ [10] :=
    Terminals.lines_of_getLast? List.getLast?_concat (by simpa using hr)
  have same : parseStatements (t ++ [10]) = parseStatements t := by
    unfold parseStatements
    rw [Terminals.ofText_eq, Terminals.ofText_eq, whole, Terminals.lines_of_notMem hl hr]
  unfold parse at h ⊢
  rw [same]
  cases hp : parseStatements t with
  | ok stmts' => simpa [hp] using h
  | error fault => simp [hp] at h

end Script

namespace Literal

open Script

/-- The script of a template that is one literal text. -/
theorem text_ofParts (t : Text) :
    (Source.ofParts [.literal 0 1 t]).text = statement t ++ [10] := by
  have indent : Part.indent 0 = [] := rfl
  rw [Part.text_ofParts (List.cons_ne_nil _ _), Part.rowsOf_cons, Part.source, indent]
  rfl

theorem getLast?_statement (t : Text) : (statement t).getLast? ≠ some 10 := by
  have closing : (Text.ofString "')").getLast? = some 0x29 := rfl
  rw [statement, List.getLast?_append, closing, Option.some_or]
  decide

/-- The script is read as one call of `write`. -/
theorem parse_script {t : Text} (h : t.isWhole = true) (file : Text) (moved : Nat → Int) :
    Procedure.parse file moved (statement t ++ [10]) = pure [Tree.writes 0 0 t] := by
  have plain : ∀ c ∈ statement t ++ [10],
      c ≠ 0 ∧ c ≠ ('\r' : CodePoint) ∧ CodePoint.isSurrogate c = false := by
    intro c hc
    rcases List.mem_append.1 hc with hc | hc
    · exact mem_statement hc
    · obtain rfl := List.mem_singleton.1 hc
      decide
  have encodable : (statement t ++ [10]).unencodable? = none := by
    rw [Text.unencodable?, Text.surrogates?_eq_none 0 fun c hc => (plain c hc).2.2]
    rfl
  have noZero : (0 : CodePoint) ∉ statement t ++ [10] := fun hc => (plain 0 hc).1 rfl
  have parsed : Script.parse (statement t ++ [10]) = .ok [Tree.writes 0 0 t] :=
    parse_lineFeed (getLast?_statement t) (fun hc => (mem_statement hc).2.1 rfl) (parse_statement h)
  have shallow : ¬ Procedure.maxNesting < depthOf [Tree.writes 0 0 t] := by
    change ¬ Procedure.maxNesting < 4
    decide
  unfold Procedure.parse
  simp only [encodable, noZero, ↓reduceIte, parsed, Procedure.bounded, if_neg shallow]

/-- The lines of a template that is one literal text. -/
def lineMap (t : Text) : LineMap := (List.range' 1 (t.lineFeeds + 1)).map Int.ofNat

theorem line_lineMap {t : Text} {row : Nat} (h : 1 ≤ row) (h' : row ≤ t.lineFeeds + 1) :
    (lineMap t).line row = row := by
  have length : (lineMap t).length = t.lineFeeds + 1 := by simp [lineMap]
  have nonempty : (lineMap t).isEmpty = false := by simp [lineMap, List.range'_succ]
  have index : max 1 (min row (lineMap t).length) - 1 = row - 1 := by omega
  have there : row - 1 < t.lineFeeds + 1 := by omega
  have counted : 1 + (row - 1) = row := by omega
  rw [LineMap.line, nonempty, index, if_neg Bool.false_ne_true, List.getD_eq_getElem?_getD]
  simp [lineMap, there, counted]

theorem lines_ofParts (t : Text) :
    (Source.ofParts [.literal 0 1 t]).lines.map Int.ofNat = lineMap t := by
  rw [Source.ofParts, List.flatMap_cons, List.flatMap_nil, List.append_nil, Tree.lines_literal]
  rfl

/-- The nodes of the call of `write`. -/
theorem nodesOf_writes (t : Text) : nodesOf [Tree.writes 0 0 t] =
    let whole := (nameSpan 1 0).through (closeSpan 1 0 t)
    [.at_ whole, .at_ whole, .named (nameSpan 1 0) "write", .at_ (stringSpan 1 0 t)] := rfl

/-- All nodes are on the lines of the template. -/
theorem line_of_mem_nodesOf {t : Text} {n : Node} (hn : n ∈ nodesOf [Tree.writes 0 0 t]) :
    (lineMap t).line n.span.row = 1 ∧
      ((lineMap t).line n.span.endRow = 1 ∨ (lineMap t).line n.span.endRow = t.lineFeeds + 1) := by
  have first : (lineMap t).line 1 = 1 := line_lineMap (Nat.le_refl 1) (by omega)
  have last : (lineMap t).line (1 + t.lineFeeds) = t.lineFeeds + 1 := by
    rw [line_lineMap (by omega) (by omega)]
    omega
  rw [nodesOf_writes] at hn
  simp only [List.mem_cons, List.not_mem_nil, or_false] at hn
  rcases hn with rfl | rfl | rfl | rfl
  · exact ⟨first, .inr last⟩
  · exact ⟨first, .inr last⟩
  · exact ⟨first, .inl first⟩
  · exact ⟨first, .inr last⟩

/-- A machine integer numbers all lines, if there are not too many. -/
theorem fits_writes {t : Text} (h : t.lineFeeds < 2147483647) :
    fits (lineMap t).line [Tree.writes 0 0 t] = true := by
  refine List.all_eq_true.2 fun n hn => ?_
  obtain ⟨hrow, hend⟩ := line_of_mem_nodesOf hn
  simp only [Bool.and_eq_true, decide_eq_true_eq, hrow]
  omega

/-- No node ends before it begins. -/
theorem firstFault?_writes (t : Text) :
    firstFault? (lineMap t).line [Tree.writes 0 0 t] = none := by
  have column : 6 ≤ endColumn 6 t ∨ 0 < t.lineFeeds := by
    unfold endColumn
    rw [lineFeeds_token]
    split <;> omega
  have first : (lineMap t).line 1 = 1 := line_lineMap (Nat.le_refl 1) (by omega)
  have last : (lineMap t).line (1 + t.lineFeeds) = t.lineFeeds + 1 := by
    rw [line_lineMap (by omega) (by omega)]
    omega
  have sound {s : Span} (hrow : s.row = 1) (hend : s.endRow = 1 + t.lineFeeds)
      (hcolumn : s.column ≤ s.endColumn ∨ 0 < t.lineFeeds) :
      (Node.at_ s).fault? (lineMap t).line = none := by
    simp only [Node.fault?, Node.at_, hrow, hend, first, last]
    rw [if_neg (by decide), if_neg (by omega), if_neg (by omega), if_neg (by omega)]
    rfl
  have name : (Node.named (nameSpan 1 0) "write").fault? (lineMap t).line = none := by
    simp only [Node.fault?, Node.named, nameSpan, first]
    decide
  have whole : (Node.at_ ((nameSpan 1 0).through (closeSpan 1 0 t))).fault? (lineMap t).line = none :=
    sound rfl rfl (.inl (Nat.zero_le _))
  have string : (Node.at_ (stringSpan 1 0 t)).fault? (lineMap t).line = none :=
    sound rfl rfl column
  rw [firstFault?, nodesOf_writes]
  simp only [List.findSome?_cons, List.findSome?_nil, name, whole, string]

/-- Nothing is wrong with the procedure of a literal text, as far as its parameters are not. -/
theorem fault?_writes {span : Span} {params : Params} (t : Text) (hrepeated : params.repeated? = none)
    (hcheck : params.check .outside span.row none = .ok ()) :
    (Procedure.Outline.mk span params none [Tree.writes 0 0 t] []).fault? .blocking
      (lineMap t).line = none := by
  have none_ : repeatedParam? [Tree.writes 0 0 t] = none := rfl
  have inside : checkAll (.inside (Mode.blocking = .suspending)) [Tree.writes 0 0 t] = .ok () := rfl
  have outside : checkAll .outside [] = .ok () := rfl
  have nil : repeatedParam? [] = none := rfl
  simp only [Procedure.Outline.fault?, hrepeated, hcheck, none_, inside, outside, nil,
    Option.map_none, Option.none_or]

end Literal

/-! ## Arguments by position -/

namespace Arguments

open Script

/-- Parameters that arguments are given to by position, and nothing else. -/
def isPositional (params : Params) : Bool :=
  params.positional.isEmpty && params.rest.isNone && params.named.isEmpty && params.namedRest.isNone

theorem supply_of_bound {defaults bound : Names} {params : List Param}
    (h : ∀ q ∈ params, (bound.get? q.id).isSome) : supply defaults bound params = (bound, []) := by
  induction params with
  | nil => rfl
  | cons q params ih =>
    rw [supply, if_pos (h q List.mem_cons_self)]
    exact ih fun p hp => h p (List.mem_cons_of_mem _ hp)

/-- As many arguments as there are parameters are bound to them one by one. -/
theorem bind_of_isPositional {title : Text} {params : Params} {defaults : Names}
    {args : List Value} (h : isPositional params = true) (hl : args.length = params.plain.length) :
    bind title params defaults args [] = pure ((ids params.plain).zip args) := by
  obtain ⟨positional, plain, rest, named, namedRest⟩ := params
  simp only [isPositional, Bool.and_eq_true, List.isEmpty_iff, Option.isNone_iff_eq_none] at h hl
  obtain ⟨⟨⟨rfl, rfl⟩, rfl⟩, rfl⟩ := h
  have bound : ∀ q ∈ plain, (Names.get? ((ids plain).zip args) q.id).isSome := by
    intro q hq
    have hids : q.id ∈ ((ids plain).zip args).map Prod.fst := by
      rw [List.map_fst_zip (by simp [ids, hl])]
      exact List.mem_map_of_mem hq
    obtain ⟨p, hp, he⟩ := List.mem_map.1 hids
    rw [Names.get?, Option.isSome_map, List.find?_isSome]
    exact ⟨p, hp, by simp [he]⟩
  unfold bind
  simp only [bindNamed, List.nil_append, pure_bind, hl, Nat.lt_irrefl, false_and, if_false,
    supply_of_bound bound, List.isEmpty_nil, Bool.not_true, Bool.false_eq_true]
  rfl

end Arguments

namespace Procedure

open Script

/-- What is known about parameters with these names, whatever the body. -/
structure Takes (names : List Text) (span : Span) (params : Params) : Prop where
  plain : plain? names = some (span, params)
  positional : Arguments.isPositional params = true
  ids : Arguments.ids params.plain = names
  repeated : params.repeated? = none
  check : params.check .outside span.row none = .ok ()
  shallow : params.depth ≤ 4

/-- What every template is called with whose context grants nothing but `write`. -/
def offered : List Text := ["write", "require", "include"].map Text.ofString

theorem exists_takes_offered : ∃ span params, Takes offered span params := by
  have known : (plain? offered).any (fun p => Arguments.isPositional p.2 &&
      Arguments.ids p.2.plain == offered && p.2.repeated?.isNone &&
      (p.2.check .outside p.1.row none).isOk && decide (p.2.depth ≤ 4)) = true := by
    decide +kernel
  obtain ⟨⟨span, params⟩, hp, h⟩ := (Option.any_eq_true _ _).1 known
  simp only [Bool.and_eq_true, beq_iff_eq, Option.isNone_iff_eq_none, decide_eq_true_eq] at h
  obtain ⟨⟨⟨⟨hpositional, hids⟩, hrepeated⟩, hcheck⟩, hdepth⟩ := h
  refine ⟨span, params, hp, hpositional, hids, hrepeated, ?_, hdepth⟩
  cases hc : params.check .outside span.row none with
  | ok u => rfl
  | error e => simp [hc, Except.isOk, Except.toBool] at hcheck

/-- Nothing is wrong with the procedure for a literal text. -/
theorem check_literal {t : Text} {names : List Text} {span : Span} {params : Params}
    (whole : t.isWhole = true) (lines : t.lineFeeds < 2147483647) (takes : Takes names span params)
    (distinct : hasRepeated (names.map .str) = false) (file : Text) :
    check (Literal.statement t ++ [10]) (Literal.lineMap t) (names.map .str) .blocking file =
      pure ⟨span, params, none, [Tree.writes 0 0 t], []⟩ := by
  have named : refuseRepeated (names.map .str) = pure () := by
    rw [refuseRepeated, distinct]
    rfl
  have shallow : ¬ Outline.maxDepth <
      (Outline.mk span params none [Tree.writes 0 0 t] []).depth := by
    have body : depthOf [Tree.writes 0 0 t] = 4 := rfl
    have rest : depthOf [] = 0 := rfl
    have := takes.shallow
    simp only [Outline.depth, Outline.maxDepth, body, rest]
    omega
  unfold check
  simp only [named, Literal.parse_script whole, nameTexts_map, pure_bind,
    outline_of_plain? takes.plain (List.cons_ne_nil _ _)]
  unfold approve
  simp only [if_neg shallow, Literal.fits_writes lines, Literal.firstFault?_writes,
    Literal.fault?_writes t takes.repeated takes.check, Bool.not_true, Bool.false_eq_true,
    if_false]

/-- A capability to write is called with a text. -/
theorem call_write {grant : Grant} {limit depth fuel channel : Nat} {caller : Caller}
    (room : caller.depth < depth) (t title : Text) (m : Machine) :
    (Interp.ofFuel grant limit depth (fuel + 1)).call caller (.capability (.write channel title))
        [.str t] [] m =
      .done (.value .none) { m with events := m.events.push (.wrote channel t) } := by
  have enter : (Interp.ofFuel grant limit depth fuel).enter caller = pure () := by
    unfold Interp.enter
    rw [if_neg]
    cases fuel <;> exact Nat.not_le.2 room
  have arguments : (Capability.write channel title).arguments [.str t] [] = pure [.str t] := rfl
  simp only [Interp.ofFuel, enter, pure_bind, Eval.call, arguments]
  rfl

/-- A name is found in the scope of a function. -/
theorem lookup_own {f : Frame} {id : Text} {scope : Ref} {scopes : List Ref} {owned : List Text}
    {bound : Names} {v : Value} {m : Machine} (hs : f.scopes = scope :: scopes)
    (ho : m.heap.get? scope = some (.scope owned bound)) (hid : id ∈ owned)
    (hv : bound.get? id = some v) : f.lookup id m = .done (.value v) m := by
  have found : m.heap.inScopes id true f.scopes = .value v := by
    rw [hs, Heap.inScopes, ho]
    simp only [hid, if_true, hv]
  unfold Frame.lookup
  rw [Proc.bind_of_done (p := Proc.heap) rfl, found]
  rfl

theorem locate_of_done {α : Type} {f : Frame} {row : Nat} {p : Proc α} {a : α} {m m' : Machine}
    (h : p m = .done (.value a) m') : f.locate row p m = .done (.value a) m' := by
  rw [Frame.locate, Proc.handle, h]
  rfl

/-- The procedure for a literal text is called: the text is written. -/
theorem complete_literal (grant : Grant) (limit fuel channel : Nat) (title : Text) {depth : Nat}
    (caller : Caller) (room : caller.depth + 1 < depth) {t file : Text} {span : Span}
    {params : Params} (takes : Takes offered span params) {r globals : Ref} {lines : LineMap}
    {m : Machine}
    (hr : m.heap.get? r =
      some (.function (closureOf params [Tree.writes 0 0 t] globals lines file)))
    (v w : Value) :
    ∃ heap, complete (Interp.ofFuel grant limit depth (fuel + 2))
        ⟨.function r, offered.map .str, .blocking, file⟩ caller
        [.capability (.write channel title), v, w] m =
      .done (.value .none) { m with heap, events := m.events.push (.wrote channel t) } := by
  let c := closureOf params [Tree.writes 0 0 t] globals lines file
  let args : List Value := [.capability (.write channel title), v, w]
  let bound : Names := (Arguments.ids params.plain).zip args
  let scope := m.heap.alloc (.scope (Arguments.ids params.all ++ namesOf c.body) bound)
  let m' : Machine := { m with heap := scope.2 }
  refine ⟨scope.2, ?_⟩
  have entered : (Interp.ofFuel grant limit depth (fuel + 1)).enter caller = pure () := by
    unfold Interp.enter
    rw [if_neg]
    exact Nat.not_le.2 (by omega : caller.depth < depth)
  have count : args.length = params.plain.length := by
    have := congrArg List.length takes.ids
    simpa [Arguments.ids, offered, args] using this.symm
  have inScope : c.enter args [] m = .done (.value scope.1) m' := by
    unfold Closure.enter
    rw [show c.params = params from rfl,
      Arguments.bind_of_isPositional takes.positional count, pure_bind]
    rfl
  have owned : Text.ofString "write" ∈ Arguments.ids params.all ++ namesOf c.body := by
    have : Text.ofString "write" ∈ Arguments.ids params.plain := by
      rw [takes.ids]
      decide
    obtain ⟨q, hq, he⟩ := List.mem_map.1 this
    refine List.mem_append_left _ (List.mem_map.2 ⟨q, ?_, he⟩)
    simp [Params.all, hq]
  have written : bound.get? "write" = some (.capability (.write channel title)) := by
    simp only [bound, takes.ids]
    rfl
  have looked : (c.frame caller scope.1).lookup "write" m' =
      .done (.value (.capability (.write channel title))) m' :=
    lookup_own rfl (Heap.get?_alloc _ _) owned written
  have called : (Interp.ofFuel grant limit depth (fuel + 1)).call (c.frame caller scope.1).caller
      (.capability (.write channel title)) [.str t] [] m' =
      .done (.value .none) { m' with events := m'.events.push (.wrote channel t) } :=
    call_write room t title m'
  have ran : c.run (Interp.ofFuel grant limit depth (fuel + 1)) caller scope.1 m' =
      .done (.value .none) { m' with events := m'.events.push (.wrote channel t) } := by
    unfold Closure.run
    rw [show c.body = [Tree.writes 0 0 t] from rfl, execAll_singleton, Tree.exec_writes, Tree.write,
      bind_assoc, Proc.bind_of_done (locate_of_done looked), bind_assoc,
      Proc.bind_of_done (locate_of_done called)]
    rfl
  have invoked : (Interp.ofFuel grant limit depth (fuel + 2)).call caller (.function r) args [] m =
      .done (.value .none) { m' with events := m'.events.push (.wrote channel t) } := by
    have opened : (Interp.ofFuel grant limit depth (fuel + 2)).call caller (.function r) args [] =
        ((Interp.ofFuel grant limit depth (fuel + 1)).enter caller >>= fun _ =>
          Eval.call grant (Interp.ofFuel grant limit depth (fuel + 1)) caller (.function r) args
            []) := rfl
    rw [opened, entered, pure_bind, Eval.call, Proc.bind_of_done (p := Proc.heap) rfl, hr]
    exact (Proc.bind_of_done inScope).trans ran
  unfold complete invoke
  simp only [offered, List.length_map, List.length_cons, List.length_nil, if_true]
  rw [Proc.bind_of_done invoked]
  rfl

end Procedure

/-! ## The run of a plain template -/

namespace Template

/-- A template without a start delimiter is one literal text. -/
theorem parts_plain {d : Delimiters} {mode : Mode} {t : Text} (h : ¬ d.start <:+: t) :
    parts d mode t = .ok [.literal 0 1 t] := by
  have uncut : Text.cut? d.start t = none := by
    cases hc : Text.cut? d.start t with
    | none => rfl
    | some r =>
      obtain ⟨before, after⟩ := r
      exact absurd ⟨before, after, (Text.cut?_eq_some hc).symm⟩ h
  rw [parts, Segments.ofText_eq, uncut]
  rfl

end Template

namespace Run

variable {σ : Type} {world : (q : Request) → σ → q.Reply × σ} {s : σ}

/-- A process that ends with a value has nothing to be handled. -/
theorem finish_handle_value {α : Type} {p : Proc α} {f : Ref → Proc α} {a : α} {m m' : Machine}
    {s' : σ} (h : (p m).finish world s = (.value a, m', s')) :
    (p.handle f m).finish world s = (.value a, m', s') := by
  rw [Proc.handle, Step.finish_bind, h]
  rfl

/-- A run passes into a state whatever the machine is, and nothing is written. -/
theorem advance_done (run : Ref) (state : RunState) (m : Machine) :
    ∃ m', advance run state m = .done (.value ()) m' ∧ m'.events = m.events ∧
      m'.directory = m.directory := by
  have got : ∃ t, get run m = .done (.value t) m := by
    unfold get
    rw [Proc.bind_of_done (p := Proc.heap) rfl]
    cases m.heap.get? run with
    | none => exact ⟨_, rfl⟩
    | some o => cases o <;> exact ⟨_, rfl⟩
  obtain ⟨t, ht⟩ := got
  exact ⟨_, Proc.bind_of_done ht, rfl, rfl⟩

/-- The run of a plain template writes its text and ends well. -/
theorem finish_start_plain (grant : Grant) (limit fuel channel : Nat) (title : Text) {depth : Nat}
    (room : 1 < depth) {m : Machine} {r : Ref} {path : Path} {d : Delimiters} {octets : Octets}
    {t : Text} (context : m.heap.get? r =
      some (.dict [(.str "write", .capability (.write channel title))]))
    (reads : (world (.read (m.directory.join path) .blocking) s).1 = .ok octets)
    (decoded : Text.decode? octets = some t) (plain : ¬ d.start <:+: t)
    (lines : t.lineFeeds < 2147483647) :
    ∃ m', (start (Interp.ofFuel grant limit depth (fuel + 2)) .none path d .blocking (.dict r)
        m).finish world s =
        (.value (), m', (world (.read (m.directory.join path) .blocking) s).2) ∧
      m'.events = m.events.push (.wrote channel t) ∧ m'.directory = m.directory := by
  let es : Entries := [(.str "write", .capability (.write channel title))]
  let file := m.directory.join path
  let made := arrived m path d .executing (entriesUntilMade m path es 1 .blocking)
  have dict : m.heap.dict r = es := by
    rw [Heap.dict, context]
  have accepts : Context.Accepts m.heap (.dict r) r := by
    refine ⟨rfl, ?_⟩
    rw [dict]
    rfl
  have text : TemplateFile.textOf path.text (world (.read file .blocking) s).1 = .ok t := by
    rw [show (world (.read file .blocking) s).1 = .ok octets from reads]
    simp only [TemplateFile.textOf, decoded]
  obtain ⟨span, params, takes⟩ := Procedure.exists_takes_offered
  have checked := Procedure.check_literal (Text.isWhole_of_decode? decoded) lines takes
    (by decide) file.text
  obtain ⟨f, heap, defined, hf⟩ := @Procedure.define_plain
    (Interp.ofFuel grant limit depth (fuel + 2)) params span [Tree.writes 0 0 t]
    (Procedure.isPlain_of_plain? takes.plain) (Literal.lineMap t) file.text made
  obtain ⟨heap', called⟩ := Procedure.complete_literal grant limit fuel channel title .none room
    takes (m := { made with heap }) hf (.capability (.requirement file.parent))
    (.capability (.inclusion file.parent r d .blocking))
  have performed : (do
      let o ← Procedure.check (Literal.statement t ++ [10]) (Literal.lineMap t)
        (Procedure.offered.map .str) .blocking file.text
      let function ← Procedure.define (Interp.ofFuel grant limit depth (fuel + 2)) o .blocking
        (Literal.lineMap t) file.text
      let _ ← Procedure.complete (Interp.ofFuel grant limit depth (fuel + 2))
        ⟨function, Procedure.offered.map .str, .blocking, file.text⟩ .none
        ((Context.supplied es file.parent r d .blocking).map (·.2))
      return () : Proc Unit) made =
      .done (.value ()) { made with heap := heap', events := m.events.push (.wrote channel t) } := by
    rw [checked, pure_bind, Proc.bind_of_done defined]
    exact Proc.bind_of_done called
  have went : stagesOf (Interp.ofFuel grant limit depth (fuel + 2)) .none m.next d .blocking
      (.dict r) ⟨m.directory.join path, t⟩
      (arrived m path d .reading [passage m path .unstarted .reading]) = _ :=
    stagesOf_of_parts accepts (Template.parts_plain plain)
  simp only [dict, Literal.text_ofParts, Literal.lines_ofParts] at went
  have staged : (stages (Interp.ofFuel grant limit depth (fuel + 2)) .none m.next .blocking (.dict r)
      (arrived m path d .unstarted [])).finish world s =
      (.value (), { made with heap := heap', events := m.events.push (.wrote channel t) },
        (world (.read file .blocking) s).2) := by
    rw [finish_stages_of_text accepts text]
    exact congrArg (Step.finish world · _) (went.trans performed)
  obtain ⟨m', completed, events, directory⟩ := advance_done m.next .completed
    { made with heap := heap', events := m.events.push (.wrote channel t) }
  refine ⟨m', ?_, events, directory⟩
  refine (congrArg (Step.finish world · s) (Proc.bind_of_done create_eq)).trans ?_
  exact (Proc.finish_bind_value (finish_handle_value staged)).trans
    (congrArg (Step.finish world · _) completed)

end Run

/-! ## The command -/

namespace Disk

/-- A file can be written, for which directories may have to be made. -/
def Writable (d : Disk) (file : Path) : Prop :=
  ∃ d', d.makeDirectories file.parent 0 file.parent.parts.length = (.ok (), d') ∧
    ∀ octets, (d'.write file octets).1 = .ok ()

end Disk

namespace Command

/-- A text that has octets is saved in a file that can be written. -/
theorem endsOn_save_writable {output : Path} {t : Text} {octets : Octets} {m : Machine} {d : Disk}
    (writable : d.Writable (m.directory.join output)) (encoded : Text.encode? t = some octets) :
    (save output t m).EndsOn d fun o m' d' => o = .value () ∧ m'.events = m.events ∧
      d'.read (m.directory.join output) = .ok octets := by
  obtain ⟨d₁, made, written⟩ := writable
  refine endsOn_ask.2 ?_
  generalize m.directory.join output = file at made written ⊢
  have answered : Disk.answer (.makeDirectories file.parent) d = (.ok (), d₁) := made
  rw [answered]
  refine endsOn_ask.2 ?_
  have stored : (Disk.answer (.write file (Text.encode? t)) d₁).1 = .ok () := written _
  have read : (Disk.answer (.write file (Text.encode? t)) d₁).2.read file =
      .ok ((Text.encode? t).getD []) := Disk.read_write stored
  have none_ : t.unencodable? = none := by
    refine Option.not_isSome_iff_eq_none.1 fun hs => ?_
    simp [encode?_of_unencodable?.1 hs] at encoded
  rw [stored]
  simp only [none_]
  exact ⟨rfl, rfl, read.trans (by rw [encoded]; rfl)⟩

/-- The output of a command whose template has written a text is saved. -/
theorem endsOn_finish_writable {output : Path} {octets : Octets} {m : Machine} {d : Disk}
    (writable : d.Writable (m.directory.join output))
    (encoded : Text.encode? (written 0 m) = some octets) :
    ((do
      Proc.log (.writing output)
      save output (written 0 (← Proc.machine))
      Proc.log .finished
      return none : Proc (Option Complaint)) m).EndsOn d fun o _ d' =>
        o = .value none ∧ d'.read (m.directory.join output) = .ok octets := by
  refine (endsOn_save_writable (m := { m with log := m.log.push (.writing output) }) writable
    encoded).bind fun o m' d' ⟨ho, _, hr⟩ => ?_
  subst ho
  exact ⟨rfl, hr⟩

/-- A plain template is run and its output is written. -/
theorem endsOn_perform_plain {j : Job} {cwd : Path} {d : Disk} {o : Options} {octets : Octets}
    {t : Text} (noContext : j.context = none) (valid : Options.ofTexts j.start j.stop = .ok o)
    (template : d.read (cwd.join (Path.ofText j.template.text)) = .ok octets)
    (decoded : Text.decode? octets = some t) (plain : ¬ o.delimiters.start <:+: t)
    (lines : t.lineFeeds < 2147483647) (writable : d.Writable (cwd.join j.output)) :
    (perform Interp.standard j (Machine.fresh cwd)).EndsOn d fun ending _ d' =>
      ending = .value none ∧ d'.read (cwd.join j.output) = .ok octets := by
  have nothing : given j = pure [] := by
    rw [given, noContext]
  let es : Entries := [(.str "write", .capability (.write channel writerTitle))]
  let logged := { Machine.fresh cwd with log := #[.running j.template] }
  let m : Machine := { logged with heap := (logged.heap.alloc (.dict es)).2 }
  have ran : ∃ m', (Run.start Interp.standard .none (Path.ofText j.template.text) o.delimiters
      .blocking (.dict (logged.heap.alloc (.dict es)).1) m).finish Disk.answer d = (.value (), m', d) ∧
      m'.events = m.events.push (.wrote channel t) ∧ m'.directory = m.directory :=
    Run.finish_start_plain Run.grant Interp.rounds 993 channel writerTitle (by decide)
      (Heap.get?_alloc logged.heap (.dict es)) template decoded plain lines
  obtain ⟨m', ended, events, directory⟩ := ran
  have text : written 0 m' = t := by
    rw [written, events]
    simp [m, logged, Machine.fresh]
  have begun : performWith Interp.standard j [] (Machine.fresh cwd) =
      (Run.start Interp.standard .none (Path.ofText j.template.text) o.delimiters .blocking
          (.dict (logged.heap.alloc (.dict es)).1) >>= fun _ => do
        Proc.log (.writing j.output)
        save j.output (written 0 (← Proc.machine))
        Proc.log .finished
        return none : Proc (Option Complaint)) m := by
    rw [performWith, if_neg (by decide), valid]
    rfl
  have there : m'.directory = cwd := directory
  rw [perform_eq, nothing, pure_bind, begun, ← there]
  unfold Step.EndsOn
  rw [Proc.finish_bind_value ended]
  exact endsOn_finish_writable (there.symm ▸ writable)
    (text.symm ▸ Text.encode?_of_decode? decoded)

/-- A plain file is copied. The command with a template that is UTF-8 and holds no start delimiter,
without a context file, ends with status 0, and the output file has the same octets. A machine
integer has to number the lines of the template, as those of every script. -/
theorem plain_file_copied (debug : Bool) {arguments : List Text} {j : Job} {cwd : Path} {d : Disk}
    {o : Options} {octets : Octets} {t : Text}
    (order : Order.ofArguments? arguments = some (.job j)) (noContext : j.context = none)
    (valid : Options.ofTexts j.start j.stop = .ok o)
    (template : d.read (cwd.join j.template) = .ok octets)
    (decoded : Text.decode? octets = some t) (plain : ¬ o.delimiters.start <:+: t)
    (lines : t.lineFeeds < 2147483647) (writable : d.Writable (cwd.join j.output)) :
    (execute Interp.standard debug arguments (Machine.fresh cwd)).EndsOn d fun ending _ d' =>
      ending = .value ⟨.int 0, .of debug j.verbose, [], none⟩ ∧
        d'.read (cwd.join j.output) = .ok octets := by
  have named : d.read (cwd.join (Path.ofText j.template.text)) = .ok octets := by
    rw [Order.ofText_template order]
    exact template
  have performed : ((perform Interp.standard j).attempt (Machine.fresh cwd)).EndsOn d fun o _ d' =>
      o = .value (.ok none) ∧ d'.read (cwd.join j.output) = .ok octets :=
    (endsOn_perform_plain noContext valid named decoded plain lines writable).bind
      fun o m' d' ⟨ho, hr⟩ => by
        subst ho
        exact ⟨rfl, hr⟩
  rw [execute_eq _ _ order]
  refine performed.bind fun o m' d' ⟨ho, hr⟩ => ?_
  subst ho
  exact ⟨rfl, hr⟩

/-- A byte order mark, a carriage return alone, a zero, a quote, a backslash, the standard start
delimiter and a line end of two, with delimiters of their own, into a new directory. -/
theorem plain_file_copied_specials :
    let octets := [0xEF, 0xBB, 0xBF, 13, 0, 39, 92, 37, 123, 13, 10]
    let arguments := ["--start-delim=<<", "--end-delim=>>", "t", "o/t"].map Text.ofString
    let d : Disk := ⟨[([Text.ofString "t"], some octets)]⟩
    ∃ j o t, Order.ofArguments? arguments = some (.job j) ∧ j.context = none ∧
      Options.ofTexts j.start j.stop = .ok o ∧
      d.read (Path.join ⟨.single, []⟩ j.template) = .ok octets ∧ Text.decode? octets = some t ∧
      ¬ o.delimiters.start <:+: t ∧ t.lineFeeds < 2147483647 ∧
      d.Writable (Path.join ⟨.single, []⟩ j.output) ∧
      (execute Interp.standard false arguments (Machine.fresh ⟨.single, []⟩)).EndsOn d
        fun ending _ d' => ending = .value ⟨.int 0, .warning, [], none⟩ ∧
          d'.read (Path.join ⟨.single, []⟩ (Path.ofText "o/t")) = .ok octets := by
  intro octets arguments d
  have order : Order.ofArguments? arguments = some (.job ⟨Path.ofText "t", Path.ofText "o/t", none,
    "<<", ">>", false⟩) := by decide +kernel
  have valid : Options.ofTexts "<<" ">>" =
    .ok ⟨⟨"<<", ">>", by decide, by decide⟩, by decide⟩ := rfl
  have template : d.read (Path.join ⟨.single, []⟩ (Path.ofText "t")) = .ok octets := by
    decide +kernel
  have decoded : Text.decode? octets = some [0xFEFF, 13, 0, 39, 92, 37, 123, 13, 10] := by
    decide +kernel
  have plain : ¬ Text.ofString "<<" <:+: [0xFEFF, 13, 0, 39, 92, 37, 123, 13, 10] := by decide
  have lines : Text.lineFeeds [0xFEFF, 13, 0, 39, 92, 37, 123, 13, 10] < 2147483647 := by decide
  have writable : d.Writable (Path.join ⟨.single, []⟩ (Path.ofText "o/t")) := by
    refine ⟨⟨[([Text.ofString "t"], some octets), ([Text.ofString "o"], none)]⟩, ?_, fun _ => ?_⟩
    · decide +kernel
    · rfl
  exact ⟨_, _, _, order, rfl, valid, template, decoded, plain, lines, writable,
    plain_file_copied false order rfl valid template decoded plain lines writable⟩

end Command

end Stencil
