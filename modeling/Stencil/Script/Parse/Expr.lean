import Stencil.Script.Parse.Cursor
import Stencil.Script.Parse.Field

/-!
# Expressions from terminals

The grammar of expressions, loosest first: a choice by a test, `or`, `and`, `not`, comparisons,
sums, products, signs, awaiting, and then calls, subscripts and attributes of atoms. Each level is
a parser over the parser for whole expressions, which `expression` supplies with less fuel.

## Main definitions

* `Target.ofExpr?` — an expression as something to assign to.
* `Parse.expression` — one expression.
* `Parse.expressions` — one expression, or several with commas as a tuple.
-/

namespace Stencil.Script

/-- An expression as something that a value can be assigned to. -/
def Target.ofExpr? : Expr → Option Target
  | .name s id => some (.name s id)
  | .index s base key => some (.index s base key)
  | .attr s base id nameRow => some (.attr s base id nameRow)
  | .tuple s es => (ofAll? es).map (Target.items s)
  | .list s es => (ofAll? es).map (Target.items s)
  | _ => none
where
  ofAll? : List Expr → Option (List Target)
    | [] => some []
    | e :: es =>
      match ofExpr? e, ofAll? es with
      | some t, some ts => some (t :: ts)
      | _, _ => none

namespace Parse

open Script.Parser

/-- Items with commas between them up to a closing bracket, which is taken. -/
def itemsUpTo (self : Parser Expr) (close : Text) : (fuel : Nat) → Parser (List Expr)
  | 0 => fail
  | fuel + 1 => do
    if ← op? close then return []
    let e ← self
    if ← op? "," then return e :: (← itemsUpTo self close fuel)
    op close
    return [e]

/-- Entries of a dictionary up to its closing brace, which is taken. -/
def entriesUpTo (self : Parser Expr) : (fuel : Nat) → Parser (List Entry)
  | 0 => fail
  | fuel + 1 => do
    if ← op? "\x7d" then return []
    let key ← self
    op ":"
    let value ← self
    if ← op? "," then return .mk key value :: (← entriesUpTo self fuel)
    op "\x7d"
    return [.mk key value]

/-- The pieces of one string token. -/
def stringPieces (self : Parser Expr) (t : Terminal) : Parser (List Piece) := do
  let some s := StringToken.ofText? t.text | failAt t.span.row
  let decode (body : Text) : Parser Piece :=
    match s.read? body with
    | some value => return .text value
    | none => failAt t.span.row
  if s.isOctets then failAt t.span.row
  else if s.isJoined then
    let some fields := Field.split? s.isRaw (s.body.length + 1) 0 s.body | failAt t.span.row
    fields.mapM fun field =>
      match field with
      | .text raw => decode raw
      | .shown shown => return .text shown
      | .value source rowOffset conversion => do
        let row := t.span.row + rowOffset
        let inner := Terminals.ofText ("(" ++ source ++ ")")
        let moved := inner.list.map fun u =>
          { u with span := u.span.relocate (· + (row - 1)) }
        let body := moved.filter fun u => u.kind ≠ .newline ∧ u.kind ≠ .endMarker
        if inner.ending ≠ .complete then failAt row
        else match self.onAll body t.span with
          | .ok e => return .value e conversion
          | .error fault => throw fault
  else return [← decode s.body]

/-- String tokens one after another. -/
def strings (self : Parser Expr) : (fuel : Nat) → Parser (Bool × List Piece)
  | 0 => fail
  | fuel + 1 => do
    match ← peek with
    | some t =>
      if t.kind = .string then
        let _ ← take
        let pieces ← stringPieces self t
        let joined := (StringToken.ofText? t.text).any StringToken.isJoined
        let (others, rest) ← strings self fuel
        return (joined || others, pieces ++ rest)
      else return (false, [])
    | none => return (false, [])

/-- The text of pieces without values. -/
def piecesText (pieces : List Piece) : Text :=
  pieces.flatMap fun
    | .text t => t
    | .value _ _ => []

/-- One loop after the item of a list, with its conditions. -/
def loopConditions (condition : Parser Expr) : (fuel : Nat) → Parser (List Expr)
  | 0 => fail
  | fuel + 1 => do
    if ← word? "if" then
      let e ← condition
      return e :: (← loopConditions condition fuel)
    else return []

/-- Targets with commas between them, before a word that ends them. -/
def targetItems (primary : Parser Expr) (stop : Text) : (fuel : Nat) → Parser (List Expr × Bool)
  | 0 => fail
  | fuel + 1 => do
    let e ← primary
    if ← op? "," then
      if ← atWord stop then return ([e], true)
      let (others, _) ← targetItems primary stop fuel
      return (e :: others, true)
    else return ([e], false)

/-- The target of a loop, before the word `in`. -/
def loopTarget (fuel : Nat) (primary : Parser Expr) : Parser Target := do
  let start ← here
  let (items, several) ← targetItems primary "in" fuel
  let e : Expr ← match items, several with
    | [e], false => pure e
    | items, _ => do pure (.tuple (← since start) items)
  match Target.ofExpr? e with
  | some target => return target
  | none => failAt e.span.row

/-- A constant, a name, or something in brackets. -/
def atom (fuel : Nat) (self : Parser Expr) (primary condition : Parser Expr) : Parser Expr := do
  let start ← here
  let some t ← peek | fail
  match t.kind with
  | .name =>
    if t.text = "None" then
      let _ ← take
      return .const start .none
    else if t.text = "True" then
      let _ ← take
      return .const start (.bool true)
    else if t.text = "False" then
      let _ ← take
      return .const start (.bool false)
    else return .name start (← name)
  | .number =>
    match number? t.text with
    | some value => do
      let _ ← take
      return .const start value
    | none => fail
  | .string =>
    let (joined, pieces) ← strings self fuel
    let span ← since start
    return if joined then .joined span pieces else .const span (.str (piecesText pieces))
  | .op =>
    if ← op? "(" then
      if ← op? ")" then return .tuple (← since start) []
      let e ← self
      if ← op? "," then
        let others ← itemsUpTo self ")" fuel
        return .tuple (← since start) (e :: others)
      op ")"
      return e
    else if ← op? "[" then
      if ← op? "]" then return .list (← since start) []
      let e ← self
      if ← word? "for" then
        let target ← loopTarget fuel primary
        word "in"
        let source ← condition
        let conditions ← loopConditions condition fuel
        op "]"
        return .comprehension (← since start) e target source conditions
      if ← op? "," then
        let others ← itemsUpTo self "]" fuel
        return .list (← since start) (e :: others)
      op "]"
      return .list (← since start) [e]
    else if ← op? "\x7b" then
      let entries ← entriesUpTo self fuel
      return .dict (← since start) entries
    else fail
  | _ => fail

/-- What follows an argument: further arguments after a comma, or the closing parenthesis. -/
def moreArguments (further : Parser (List Expr × List Named)) :
    Parser (List Expr × List Named) := do
  if ← op? "," then further
  else
    op ")"
    return ([], [])

/-- Arguments up to the closing parenthesis, which is taken. Those given by name come last; the flag
tells that there is one before. -/
def arguments (self : Parser Expr) (seen : Bool) : (fuel : Nat) → Parser (List Expr × List Named)
  | 0 => fail
  | fuel + 1 => do
    if ← op? ")" then return ([], [])
    let c ← get
    let byName : Bool := match c.rest with
      | t :: u :: _ => t.isName && u.isOp "="
      | _ => false
    if byName then
      let start ← here
      let id ← name
      let _ ← take
      let value ← self
      let span ← since start
      let rest ← moreArguments (arguments self true fuel)
      return (rest.1, .mk span id value :: rest.2)
    else
      if seen then fail
      let e ← self
      let rest ← moreArguments (arguments self seen fuel)
      return (e :: rest.1, rest.2)

/-- An expression that may be left out before a colon, a comma or a closing bracket. -/
def bound (self : Parser Expr) : Parser (Option Expr) := do
  if (← atOp ":") || (← atOp ",") || (← atOp "]") then return none else some <$> self

/-- One key between brackets: an expression, or the bounds of a run of items. -/
def key (self : Parser Expr) : Parser Expr := do
  let start ← here
  let lower ← if ← atOp ":" then pure none else some <$> self
  if ← op? ":" then
    let upper ← bound self
    let step ← if ← op? ":" then bound self else pure none
    return .slice (← since start) lower upper step
  else
    match lower with
    | some e => return e
    | none => fail

/-- Further keys after a comma. -/
def moreKeys (self : Parser Expr) : (fuel : Nat) → Parser (List Expr)
  | 0 => fail
  | fuel + 1 => do
    if ← atOp "]" then return []
    let e ← key self
    if ← op? "," then return e :: (← moreKeys self fuel) else return [e]

/-- What stands between the brackets after an expression; the closing bracket is taken. -/
def subscript (fuel : Nat) (self : Parser Expr) (start : Span) (base : Expr) : Parser Expr := do
  let keyStart ← here
  let first ← key self
  let whole : Expr ←
    if ← op? "," then
      let others ← moreKeys self fuel
      pure (.tuple (← since keyStart) (first :: others))
    else pure first
  op "]"
  return .index (← since start) base whole

/-- Calls, subscripts and attributes after an expression. -/
def trailers (self : Parser Expr) (start : Span) : (fuel : Nat) → Expr → Parser Expr
  | 0, _ => fail
  | fuel + 1, e => do
    if ← op? "." then
      let nameSpan ← here
      let id ← name
      trailers self start fuel (.attr (← since start) e id nameSpan.row)
    else if ← op? "(" then
      let (args, named) ← arguments self false fuel
      trailers self start fuel (.call (← since start) e args named)
    else if ← op? "[" then
      if ← atOp "]" then fail
      trailers self start fuel (← subscript fuel self start e)
    else return e

/-- Operands with operators between them that group to the left. -/
def chain (operator : Terminal → Option BinaryOp) (operand : Parser Expr) (start : Span) :
    (fuel : Nat) → Expr → Parser Expr
  | 0, _ => fail
  | fuel + 1, left => do
    match (← peek).bind operator with
    | some op => do
      let _ ← take
      let right ← operand
      chain operator operand start fuel (.binary (← since start) op left right)
    | none => return left

/-- Signs before an operand. -/
def signed (operand : Parser Expr) : (fuel : Nat) → Parser Expr
  | 0 => fail
  | fuel + 1 => do
    let start ← here
    if ← op? "-" then
      let e ← signed operand fuel
      return .unary (← since start) .neg e
    else if ← op? "+" then
      let e ← signed operand fuel
      return .unary (← since start) .plus e
    else operand

/-- The comparison that comes next; it is taken. -/
def comparisonOp? : Parser (Option CompareOp) := do
  let simple : List (Text × CompareOp) :=
    [("==", .eq), ("!=", .ne), ("<", .lt), ("<=", .le), (">", .gt), (">=", .ge)]
  match ← peek with
  | some t =>
    match simple.find? fun (text, _) => t.isOp text with
    | some (_, op) => do
      let _ ← take
      return some op
    | none =>
      if ← word? "in" then return some .mem
      else if ← word? "is" then
        if ← word? "not" then return some .isNot else return some .is
      else if ← word? "not" then
        word "in"
        return some .notMem
      else return none
  | none => return none

/-- Comparisons after an operand. -/
def comparisons (operand : Parser Expr) : (fuel : Nat) → Parser (List Comparison)
  | 0 => fail
  | fuel + 1 => do
    match ← comparisonOp? with
    | some op => do
      let right ← operand
      return .mk op right :: (← comparisons operand fuel)
    | none => return []

/-- Operands after the same word, as often as it comes. -/
def operands (joint : Text) (operand : Parser Expr) : (fuel : Nat) → Parser (List Expr)
  | 0 => fail
  | fuel + 1 => do
    if ← word? joint then
      let e ← operand
      return e :: (← operands joint operand fuel)
    else return []

/-- Negations before an operand. -/
def negated (operand : Parser Expr) : (fuel : Nat) → Parser Expr
  | 0 => fail
  | fuel + 1 => do
    let start ← here
    if ← word? "not" then
      let e ← negated operand fuel
      return .unary (← since start) .not e
    else operand

/-- The operators of products. -/
def productOp (t : Terminal) : Option BinaryOp :=
  if t.isOp "*" then some .mul
  else if t.isOp "/" then some .div
  else if t.isOp "//" then some .floorDiv
  else if t.isOp "%" then some .mod
  else none

/-- The operators of sums. -/
def sumOp (t : Terminal) : Option BinaryOp :=
  if t.isOp "+" then some .add else if t.isOp "-" then some .sub else none

mutual

/-- An atom with its calls, subscripts and attributes. -/
def primary : (fuel : Nat) → Parser Expr
  | 0 => fail
  | fuel + 1 => do
    let start ← here
    let e ← atom fuel (expression fuel) (primary fuel) (disjunction fuel)
    trailers (expression fuel) start (fuel + 1) e

/-- Operands joined by `or`, looser than anything but a choice. -/
def disjunction : (fuel : Nat) → Parser Expr
  | 0 => fail
  | fuel + 1 => do
    let awaited : Parser Expr := do
      let start ← here
      if ← word? "await" then
        let e ← primary fuel
        return .await (← since start) e
      else primary fuel
    let factor := signed awaited (fuel + 1)
    let term : Parser Expr := do
      let start ← here
      chain productOp factor start (fuel + 1) (← factor)
    let sum : Parser Expr := do
      let start ← here
      chain sumOp term start (fuel + 1) (← term)
    let comparison : Parser Expr := do
      let start ← here
      let first ← sum
      match ← comparisons sum (fuel + 1) with
      | [] => return first
      | rest => return .compare (← since start) first rest
    let inversion := negated comparison (fuel + 1)
    let joined (joint : Text) (conjunction : Bool) (operand : Parser Expr) : Parser Expr := do
      let start ← here
      let first ← operand
      match ← operands joint operand (fuel + 1) with
      | [] => return first
      | rest => return .logic (← since start) conjunction first rest
    joined "or" false (joined "and" true inversion)

/-- One expression. -/
def expression : (fuel : Nat) → Parser Expr
  | 0 => fail
  | fuel + 1 => do
    let start ← here
    let yes ← disjunction fuel
    if ← word? "if" then
      let test ← disjunction fuel
      word "else"
      let no ← expression fuel
      return .choose (← since start) test yes no
    else return yes

end

/-- The next terminal can begin an expression. -/
def atExpression : Parser Bool := do
  return match ← peek with
    | some t =>
      match t.kind with
      | .name =>
        t.text ∉ keywords ||
          (["None", "True", "False", "not", "await", "lambda"].map Text.ofString).contains t.text
      | .number | .string => true
      | .op => (["(", "[", "\x7b", "-", "+", "~"].map Text.ofString).contains t.text
      | _ => false
    | none => false

/-- Further expressions after a comma. -/
def moreExpressions (depth : Nat) : (fuel : Nat) → Parser (List Expr)
  | 0 => fail
  | fuel + 1 => do
    if ← atExpression then
      let e ← expression depth
      if ← op? "," then return e :: (← moreExpressions depth fuel) else return [e]
    else return []

/-- One expression, or several with commas between them as a tuple. -/
def expressions (fuel : Nat) : Parser Expr := do
  let start ← here
  let e ← expression fuel
  if ← op? "," then
    let others ← moreExpressions fuel fuel
    return .tuple (← since start) (e :: others)
  else return e

end Parse

end Stencil.Script
