import Stencil.Number.Limit
import Stencil.Text.Quoted
import Stencil.Value.Key

/-!
# Values in writing

The text of a value and its quoted form, which shows texts between quotes. A list, a tuple or a
dictionary inside itself is shown as dots. A number with too many digits has no text, and neither
has what is nested too deep.

## Main definitions

* `WritingFault` — why a value has no text.

* `Value.typeName` — the type of a value.
* `Value.quoted` — the quoted form.
* `Value.text` — the text.
* `Thrown.message?` — the text of an exception.
* `Value.datum` — a value with everything it refers to.
-/

namespace Stencil

/-- Why a value has no text. -/
inductive WritingFault where
  /-- A whole number has too many digits. -/
  | digits
  /-- Values stand too deep inside each other. -/
  | depth
  deriving DecidableEq, Repr, Inhabited

namespace Native

/-- The name of a built-in function or type. -/
def id : Native → String
  | str => "str"
  | len => "len"
  | range => "range"
  | int => "int"

end Native

namespace Method

/-- The name of a method. -/
def id : Method → String
  | upper => "upper"
  | join => "join"
  | append => "append"
  | get => "get"
  | items => "items"

end Method

namespace Capability

/-- The name of a capability. -/
def id : Capability → Text
  | write .. => "write"
  | record _ id _ => id
  | inclusion .. => "include"
  | requirement _ => "require"

end Capability

namespace Value

/-- The type of a value. -/
def typeName (h : Heap) : Value → Text
  | none => "NoneType"
  | bool _ => "bool"
  | int _ => "int"
  | float _ | nan _ => "float"
  | str _ => "str"
  | tuple .. => "tuple"
  | list _ => "list"
  | dict _ => "dict"
  | range .. => "range"
  | slice .. => "slice"
  | entries _ => "dict_items"
  | function _ => "function"
  | native f => if f = .len then "builtin_function_or_method" else "type"
  | method .. => "builtin_function_or_method"
  | unbound .. => "method_descriptor"
  | exceptionClass _ => "type"
  | exception r => (h.thrown? r).elim ("Exception" : Text) fun e => Text.ofString e.type.text
  | module _ => "module"
  | coroutine _ => "coroutine"
  | capability _ => "function"
  | foreign type _ _ => type

/-- How deep values are shown and compared. -/
def maxDepth : Nat := 990

/-- What is being shown while something inside it is: objects, and views of dictionaries apart from
the dictionaries themselves. -/
structure Shown where
  objects : List Ref
  views : List Ref

/-- A whole number in decimal. -/
def intText (i : Int) : Except WritingFault Text :=
  if Digits.exceeded i then .error .digits else .ok (Text.ofInt i)

/-- The quoted form of a value inside what is being shown. -/
def quotedWithin (h : Heap) : (depth : Nat) → Shown → Value → Except WritingFault Text
  | 0, _, _ => .error .depth
  | depth + 1, around, v => do
    let inner := quotedWithin h depth
    let items (around : Shown) (vs : List Value) : Except WritingFault Text := do
      return Text.join ", " (← vs.mapM (inner around))
    let pair (around : Shown) (e : Value × Value) : Except WritingFault Text := do
      return (← inner around e.1) ++ ": " ++ (← inner around e.2)
    let inside (r : Ref) : Shown := { around with objects := r :: around.objects }
    match v with
    | none => return "None"
    | bool b => return if b then "True" else "False"
    | int i => intText i
    | float x => return Double.text x
    | nan _ => return "nan"
    | str t => return Text.quoted t
    | tuple id vs =>
      let around ← match id with
        | some r => if r ∈ around.objects then return "(...)" else pure (inside r)
        | Option.none => pure around
      match vs with
      | [x] => return "(" ++ (← inner around x) ++ ",)"
      | vs => return "(" ++ (← items around vs) ++ ")"
    | list r =>
      if r ∈ around.objects then return "[...]"
      else return "[" ++ (← items (inside r) (h.list r)) ++ "]"
    | dict r =>
      if r ∈ around.objects then return "\x7b...\x7d"
      else
        let pairs ← (h.dict r).mapM (pair (inside r))
        return "\x7b" ++ Text.join ", " pairs ++ "\x7d"
    | range start stop step =>
      let last : Text ← if step = 1 then pure [] else do pure (", " ++ (← intText step))
      return "range(" ++ (← intText start) ++ ", " ++ (← intText stop) ++ last ++ ")"
    | slice lower upper step => return "slice(" ++ (← items around [lower, upper, step]) ++ ")"
    | entries r =>
      if r ∈ around.views then return "..."
      else
        let pairs := (h.dict r).map fun (k, w) => tuple Option.none [k, w]
        let shown ← items { around with views := r :: around.views } pairs
        return "dict_items([" ++ shown ++ "])"
    | function r =>
      match h.get? r with
      | some (.function f) => return "<function " ++ f.qualified ++ ">"
      | _ => return "<function>"
    | native f =>
      return if f = .len then "<built-in function len>"
        else "<class " ++ Text.quoted (Text.ofString f.id) ++ ">"
    | method receiver m =>
      return "<built-in method " ++ Text.ofString m.id ++ " of " ++ receiver.typeName h ++
        " object>"
    | unbound owner m =>
      return "<method " ++ Text.quoted (Text.ofString m.id) ++ " of " ++
        Text.quoted (Text.ofString owner.id) ++ " objects>"
    | exceptionClass c => return "<class " ++ Text.quoted (Text.ofString c.text) ++ ">"
    | exception r =>
      match h.thrown? r with
      | some e => return Text.ofString e.type.text ++ "(" ++ (← items around e.args) ++ ")"
      | Option.none => return "Exception()"
    | module r =>
      match h.get? r with
      | some (.module id _) => return "<module " ++ Text.quoted id ++ ">"
      | _ => return "<module>"
    | coroutine _ => return "<coroutine object>"
    | capability c => return "<function " ++ c.id ++ ">"
    | foreign _ _ quoted => return quoted

/-- The quoted form of a value. -/
def quoted? (h : Heap) (v : Value) : Except WritingFault Text := quotedWithin h maxDepth ⟨[], []⟩ v

end Value

mutual

/-- The text of an exception: what its fields say, or else its only argument, or its arguments as a
tuple. -/
def Thrown.messageWithin (h : Heap) : (depth : Nat) → Thrown → Except WritingFault Text
  | 0, _ => .error .depth
  | depth + 1, e => do
    let text := Value.textWithin h depth
    let field (id : String) : Option Value := e.field? (Text.ofString id)
    let byArgs : Except WritingFault Text :=
      match e.args with
      | [] => .ok []
      | [v] => if e.type.isA .keyError then v.quoted? h else text v
      | args => (Value.tuple none args).quoted? h
    if e.type.isA .syntaxError then
      let reason ← text ((field "msg").getD .none)
      let file : Option Text := match field "filename" with
        | some (.str t) => some ((Text.splitOn '/' t).getLastD [])
        | _ => none
      let line : Option Int := match field "lineno" with
        | some (.int i) => some i
        | _ => none
      match file, line with
      | some f, some i => return reason ++ " (" ++ f ++ ", line " ++ Text.ofInt i ++ ")"
      | some f, none => return reason ++ " (" ++ f ++ ")"
      | none, some i => return reason ++ " (line " ++ Text.ofInt i ++ ")"
      | none, none => return reason
    else if e.type.isA .osError then
      match field "errno", field "strerror", field "filename", field "filename2" with
      | number, reason, some f, other =>
        let shown ← f.quoted? h
        let rest ← match other with
          | some g => do pure (" -> " ++ (← g.quoted? h))
          | none => pure []
        return "[Errno " ++ (← text (number.getD .none)) ++ "] " ++
          (← text (reason.getD .none)) ++ ": " ++ shown ++ rest
      | some number, some reason, none, _ =>
        return "[Errno " ++ (← text number) ++ "] " ++ (← text reason)
      | _, _, _, _ => byArgs
    else if e.type.isA .importError then
      match field "msg" with
      | some (.str t) => return t
      | _ => byArgs
    else if e.type.isA .unicodeError then
      match field "encoding", field "object", field "start", field "end", field "reason" with
      | encoding, some (.str t), some (.int first), some (.int last), some reason =>
        let title : Text ← match encoding with
          | some id => do pure ("'" ++ (← text id) ++ "' codec can't encode character")
          | none => pure "can't translate character"
        let range : Text :=
          if last = first + 1 then
            " " ++ Text.marked (Text.numericEscape (t.getD first.toNat 0)) ++ " in position " ++
              Text.ofInt first
          else "s in position " ++ Text.ofInt first ++ "-" ++ Text.ofInt (last - 1)
        return title ++ range ++ ": " ++ (← text reason)
      | _, _, _, _, _ => byArgs
    else if e.type.isA .baseExceptionGroup then
      match field "message", field "exceptions" with
      | some message, some (.tuple _ es) =>
        return (← text message) ++ " (" ++ Text.ofNat es.length ++ " sub-exception" ++
          (if es.length = 1 then ([] : Text) else "s") ++ ")"
      | _, _ => byArgs
    else byArgs

/-- The text of a value, for exceptions to a limited depth. -/
def Value.textWithin (h : Heap) : (depth : Nat) → Value → Except WritingFault Text
  | 0, _ => .error .depth
  | depth + 1, v =>
    match v with
    | .str t => .ok t
    | .foreign _ text _ => .ok text
    | .exception r =>
      match h.thrown? r with
      | some e => e.messageWithin h depth
      | none => .ok []
    | v => v.quoted? h

end

/-- The text of an exception. -/
def Thrown.message? (h : Heap) (e : Thrown) : Except WritingFault Text :=
  e.messageWithin h Value.maxDepth

/-- The text of an exception, which is empty if there is none. -/
def Thrown.message (h : Heap) (e : Thrown) : Text :=
  match e.message? h with
  | .ok t => t
  | .error _ => []

/-- The text of a value. -/
def Value.text? (h : Heap) (v : Value) : Except WritingFault Text := v.textWithin h Value.maxDepth

/-- A value with everything it refers to, down to a depth. -/
def Value.datumWithin (h : Heap) : (depth : Nat) → Value → Datum
  | 0, v => .other (v.typeName h)
  | depth + 1, v =>
    let inner := datumWithin h depth
    match v with
    | .none => .none
    | .bool b => .bool b
    | .int i => .int i
    | .float x => .float x
    | .nan _ => .float (0.0 / 0.0)
    | .str t => .str t
    | .tuple _ items => .tuple (items.map inner)
    | .list r => .list ((h.list r).map inner)
    | .dict r => .dict ((h.dict r).map fun (k, w) => (inner k, inner w))
    | .capability (.inclusion ..) | .capability (.requirement _) => .other "callable"
    | .capability c => .granted c.id
    | .module _ => .other "module"
    | .function _ | .native _ | .method .. | .unbound .. | .exceptionClass _ => .other "callable"
    | v => .other (v.typeName h)

/-- A value with everything it refers to. -/
def Value.datum (h : Heap) (v : Value) : Datum := v.datumWithin h 200

end Stencil
