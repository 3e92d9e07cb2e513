import Stencil.Proofs.Run.Refusal
import Stencil.Proofs.Text.Utf8

/-!
# Reading templates

A template is read by one request, whose reply tells what becomes of it. Octets that are those of a
text are this text, without any change; whatever else the reply is, there is an error that names the
path as it was given and has the error of the system, or that of decoding, behind it. Only a path that
the system is not even asked about is refused with another error: one that holds a zero, or a
surrogate that stands for no octet.

## Main definitions

* `TemplateFile.accessError` — what says that a template cannot be read.
* `TemplateFile.Unreadable` — a reply because of which a template cannot be read.

## Main results

* `Disk.read_faulty_iff` — the paths that the system is not asked about.
* `Run.reads_exactly_or_fails` — a template is read exactly, or that fails in one way.
-/

namespace Stencil

/-! ## Paths that no system is asked about -/

namespace Text

theorem surrogates?_eq_none_iff {excused : CodePoint → Bool} {t : Text} {n : Nat} :
    surrogates? excused n t = none ↔ ∀ c ∈ t, c.isSurrogate = true → excused c = true := by
  induction t generalizing n with
  | nil => simp [surrogates?]
  | cons c t ih =>
    rw [surrogates?, List.forall_mem_cons]
    cases hs : c.isSurrogate <;> cases he : excused c <;> simp [ih]

end Text

namespace Disk

variable {d : Disk} {p : Path} {t : Text} {e : FileError}

/-- A text that is no path because of a code point in it. -/
def Faulty (t : Text) : Prop :=
  (0 : CodePoint) ∈ t ∨ ∃ c ∈ t, c.isSurrogate = true ∧ isOctetSurrogate c = false

theorem isSystem_of_follow {place parts : List Text} (h : d.follow place parts = .error e) :
    e.isSystem = true := by
  induction parts generalizing place with
  | nil => cases h
  | cons part rest ih =>
    rw [follow] at h
    split at h
    · cases h
      rfl
    · cases h
      rfl
    · split at h
      · exact ih h
      · split at h
        · cases h
          rfl
        · exact ih h

/-- The system is not asked about a path exactly if it is a faulty one. -/
theorem faulty_iff : Faulty t ↔ ∃ e, fault? t = some e ∧ e.isSystem = false := by
  unfold Faulty fault?
  cases hs : Text.surrogates? isOctetSurrogate 0 t with
  | some found =>
    refine ⟨fun _ => ⟨_, rfl, rfl⟩, fun _ => .inr ?_⟩
    have unexcused : ¬ ∀ c ∈ t, c.isSurrogate = true → isOctetSurrogate c = true := fun h => by
      cases hs.symm.trans (Text.surrogates?_eq_none_iff.2 h)
    simpa using unexcused
  | none =>
    have excused := Text.surrogates?_eq_none_iff.1 hs
    simp only
    split
    · next hz => exact ⟨fun _ => ⟨.nul, rfl, rfl⟩, fun _ => .inl hz⟩
    · next hz =>
      constructor
      · rintro (h | ⟨c, hc, hsur, hoct⟩)
        · exact absurd h hz
        · exact absurd (excused c hc hsur) (Bool.eq_false_iff.1 hoct)
      · rintro ⟨e, he, hsys⟩
        split at he
        · cases he
          cases hsys
        · cases he

/-- A disk gives another reply than a system does exactly for a faulty path. -/
theorem read_faulty_iff (d : Disk) (p : Path) :
    (∃ e, d.read p = .error e ∧ e.isSystem = false) ↔ Faulty p.text := by
  rw [faulty_iff, read, get, walk]
  cases hf : fault? p.text with
  | some e => simp
  | none =>
    simp only [reduceCtorEq, false_and, exists_false, iff_false]
    rintro ⟨e, he, hsys⟩
    refine Bool.false_ne_true (hsys.symm.trans ?_)
    cases hw : d.follow [] p.parts with
    | error e' =>
      simp only [hw] at he
      cases he
      exact isSystem_of_follow hw
    | ok place =>
      simp only [hw] at he
      cases hn : d.find? place with
      | none =>
        simp only [hn] at he
        cases he
        rfl
      | some node =>
        simp only [hn] at he
        cases node with
        | none =>
          cases he
          rfl
        | some octets => cases he

end Disk

/-! ## Template files -/

namespace TemplateFile

variable {σ : Type} {world : (q : Request) → σ → q.Reply × σ} {s : σ} {m : Machine} {mode : Mode}
  {given reason text : Text} {cause : ExceptionClass} {octets : Octets}
  {reply : Except FileError Octets}

/-- What says that a template cannot be read: an error that names the path as it was given, and why,
with the class of the error behind it. -/
def accessError (given reason : Text) (cause : ExceptionClass) : Thrown :=
  { Thrown.plain .fileAccessError [.str (FileAccess.message given reason)] with
    detail := .path given (some cause) }

/-- A reply because of which a template cannot be read, with the reason and the class of the error
behind it: the system has an error of its own, or the octets are those of no text. -/
inductive Unreadable : Except FileError Octets → Text → ExceptionClass → Prop
  | system {e : FileError} (error : e.isSystem = true) (isA : e.type.isA .osError = true) :
      Unreadable (.error e) e.reason e.type
  | octets {octets : Octets} (none_ : ∀ text : Text, text.isWhole → text.encode? ≠ some octets) :
      Unreadable (.ok octets) FileAccess.notText .unicodeDecodeError

/-- Every number of the system has a class of its own errors. -/
theorem isA_type_of_isSystem {e : FileError} (h : e.isSystem = true) :
    e.type.isA .osError = true := by
  cases e with
  | nul | unencodable => cases h
  | other number words =>
    have all : ∀ c ∈ ExceptionClass.numbered.map (·.2), c.isA .osError = true := by decide
    rw [FileError.type]
    cases hc : ExceptionClass.ofNumber? number with
    | none => rfl
    | some c =>
      obtain ⟨found, hf, rfl⟩ := Option.map_eq_some_iff.1 hc
      exact all _ (List.mem_map_of_mem (List.mem_of_find?_eq_some hf))
  | _ => rfl

/-- A reply is the octets of a text, or a template cannot be read because of it, or the system has not
been asked. -/
theorem reply_cases (reply : Except FileError Octets) :
    (∃ octets text, reply = .ok octets ∧ Text.isWhole text ∧ text.encode? = some octets) ∨
      (∃ reason cause, Unreadable reply reason cause) ∨
      ∃ e, reply = .error e ∧ e.isSystem = false := by
  cases reply with
  | error e =>
    cases hs : e.isSystem with
    | true => exact .inr (.inl ⟨_, _, .system hs (isA_type_of_isSystem hs)⟩)
    | false => exact .inr (.inr ⟨e, rfl, hs⟩)
  | ok octets =>
    cases hd : Text.decode? octets with
    | some text =>
      obtain ⟨hw, he⟩ := Text.decode?_eq_some_iff.1 hd
      exact .inl ⟨octets, text, rfl, hw, he⟩
    | none =>
      refine .inr (.inl ⟨_, _, .octets fun text hw he => ?_⟩)
      cases hd.symm.trans (Text.decode?_eq_some_iff.2 ⟨hw, he⟩)

theorem textOf_of_encode? (hw : text.isWhole) (he : text.encode? = some octets) :
    textOf given (.ok octets) = .ok text := by
  rw [textOf, Text.decode?_eq_some_iff.2 ⟨hw, he⟩]

theorem textOf_of_unreadable (h : Unreadable reply reason cause) :
    textOf given reply = .error (accessError given reason cause) := by
  cases h with
  | system hs =>
    rw [textOf, fault, if_pos hs]
    rfl
  | @octets octets none_ =>
    have hd : Text.decode? octets = none := by
      refine Option.eq_none_iff_forall_ne_some.2 fun text ht => ?_
      obtain ⟨hw, he⟩ := Text.decode?_eq_some_iff.1 ht
      exact none_ text hw he
    rw [textOf, hd]
    rfl

theorem isAbsolute_join {base p : Path} (h : base.isAbsolute) : (base.join p).isAbsolute := by
  unfold Path.join
  cases hr : p.root with
  | relative => exact h
  | _ => simp [Path.isAbsolute, hr]

end TemplateFile

namespace Run

open TemplateFile

/-- A template is read by one request, for the path that is seen from the directory of the machine. If
the reply is the octets of a text, the template has exactly this text, with its line ends and its mark
at the beginning; otherwise there is an error that names the path as it was given and has the error
behind it, and nothing else has changed. A run ends with this error, whoever has started it, if its
context grants `write`. There is no other way in which reading fails but for a faulty path. -/
theorem reads_exactly_or_fails (I : Interp) :
    (∀ path context options, blocking I path context options = (do
      let o ← Options.coerce options
      start I .none (Path.ofText path) o.delimiters .blocking context)) ∧
    (∀ (caller : Caller) directory parent d mode target override,
      include_ I caller directory parent d mode target override =
        includeBy (fun path inherited =>
            start I (caller.deeper (inclusionDepth mode)) path d mode inherited)
          directory parent mode target override) ∧
    (∀ d p, (∃ e, (Disk.answer (.read p .blocking) d).1 = .error e ∧ e.isSystem = false) ↔
      Disk.Faulty p.text) ∧
    ∀ (given : Text) (path : Path) (mode : Mode) (m : Machine) {σ : Type}
      (world : (q : Request) → σ → q.Reply × σ) (s : σ),
    let file := m.directory.join path
    let reply := world (.read file mode) s
    let last := (TemplateFile.read given path mode m).finish world s
    (m.directory.isAbsolute → file.isAbsolute) ∧
    (∀ octets text, reply.1 = .ok octets → Text.isWhole text → text.encode? = some octets →
      last = (.value ⟨file, text⟩, m, reply.2)) ∧
    (∀ reason cause, Unreadable reply.1 reason cause →
      last = (.raised m.next, m.threw (accessError given reason cause), reply.2) ∧
      ∀ (caller : Caller) (d : Delimiters) (context : Value) (r : Ref),
        Context.Accepts m.heap context r →
        TurnedAway m path d .reading [passage m path .unstarted .reading]
          (accessError path.text reason cause) reply.2
          ((start I caller path d mode context m).finish world s)) ∧
    ((∃ octets text, reply.1 = .ok octets ∧ Text.isWhole text ∧ text.encode? = some octets) ∨
      (∃ reason cause, Unreadable reply.1 reason cause) ∨
      ∃ e, reply.1 = .error e ∧ e.isSystem = false) := by
  refine ⟨fun _ _ _ => rfl, fun _ _ _ _ _ _ _ => rfl, Disk.read_faulty_iff, ?_⟩
  intro given path mode m σ world s file reply last
  have read : last = (Proc.ofVerdict ((textOf given reply.1).map (⟨file, ·⟩)) m).finish world
      reply.2 := finish_read given path mode
  refine ⟨isAbsolute_join, fun octets text ho hw he => ?_, fun reason cause hu =>
    ⟨?_, fun caller d context r hr => ?_⟩, reply_cases reply.1⟩
  · rw [read, ho, textOf_of_encode? hw he]
    rfl
  · rw [read, textOf_of_unreadable hu]
    rfl
  · exact turnedAway_of_unreadable hr (textOf_of_unreadable hu)

/-- A text with a mark at its beginning and a line end of two characters is read as it is, and a zero
in two octets is refused. -/
theorem reads_exactly_or_fails_marked :
    let m := { hosting with directory := ⟨.single, []⟩ }
    let path := Path.ofText "t"
    let marked := holding [0xEF, 0xBB, 0xBF, 0x61, 13, 10]
    let overlong := holding [0xC0, 0x80]
    let error := accessError "t" FileAccess.notText .unicodeDecodeError
    m.directory.isAbsolute ∧ Context.Accepts m.heap (.dict 0) 0 ∧
    (TemplateFile.read "t" path .blocking m).finish Disk.answer marked =
      (.value ⟨⟨.single, ["t"]⟩, [0xFEFF, 0x61, 13, 10]⟩, m, marked) ∧
    (TemplateFile.read "t" path .suspending m).finish Disk.answer overlong =
      (.raised m.next, m.threw error, overlong) ∧
    TurnedAway m path Delimiters.standard .reading [passage m path .unstarted .reading] error overlong
      ((start Interp.standard .none path Delimiters.standard .suspending (.dict 0) m).finish
        Disk.answer overlong) := by
  intro m path marked overlong error
  have accepts : Context.Accepts m.heap (.dict 0) 0 := ⟨rfl, by decide⟩
  have refused : Unreadable (.ok [0xC0, 0x80]) FileAccess.notText .unicodeDecodeError :=
    .octets fun text hw he => by
      have decoded := Text.decode?_eq_some_iff.2 ⟨hw, he⟩
      cases (show Text.decode? [0xC0, 0x80] = none from rfl).symm.trans decoded
  have reads (mode : Mode) (d : Disk) :=
    (reads_exactly_or_fails Interp.standard).2.2.2 "t" path mode m Disk.answer d
  obtain ⟨-, exact_, -, -⟩ := reads .blocking marked
  obtain ⟨-, -, fails, -⟩ := reads .suspending overlong
  obtain ⟨raised, away⟩ := fails _ _ refused
  exact ⟨rfl, accepts, exact_ _ [0xFEFF, 0x61, 13, 10] rfl rfl rfl, raised, away .none _ _ _ accepts⟩

end Run

end Stencil
