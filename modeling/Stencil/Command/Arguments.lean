import Stencil.Options.Basic

/-!
# Arguments of the command

The command takes a template and an output file, and options that may stand anywhere before a
double hyphen. A long option has its value behind an equals sign or in the next argument. Letters
of short options may share one hyphen, and what follows a letter that needs a value is the value.

## Main definitions

* `Command.Item`, `Command.items?` — arguments one by one.
* `Command.Order` — what the command is asked to do.
* `Command.Order.ofArguments?` — the order in a list of arguments.
-/

namespace Stencil.Command

/-- Options without a value. -/
inductive Flag where
  | verbose
  | version
  | help
  deriving DecidableEq, Repr

/-- Options with a value. -/
inductive Setting where
  | context
  | startDelimiter
  | endDelimiter
  deriving DecidableEq, Repr

/-- What an argument says. -/
inductive Item where
  | positional (t : Text)
  | flag (f : Flag)
  | setting (s : Setting) (value : Text)
  deriving DecidableEq, Repr

/-- A single argument: what it says, and the option whose value comes next. -/
structure Argument where
  items : List Item
  awaits : Option Setting
  deriving DecidableEq, Repr

/-- The long options. -/
def long : List (Text × (Flag ⊕ Setting)) :=
  [(Text.ofString "--context", .inr .context),
    (Text.ofString "--start-delim", .inr .startDelimiter),
    (Text.ofString "--end-delim", .inr .endDelimiter),
    (Text.ofString "--verbose", .inl .verbose),
    (Text.ofString "--version", .inl .version),
    (Text.ofString "--help", .inl .help)]

/-- A long option. -/
def longOption? (t : Text) : Option Argument :=
  let (id, value) := match Text.cut? "=" t with
    | some (id, value) => (id, some value)
    | none => (t, none)
  match long.find? (·.1 == id), value with
  | some (_, .inl f), none => some ⟨[.flag f], none⟩
  | some (_, .inr s), some value => some ⟨[.setting s value], none⟩
  | some (_, .inr s), none => some ⟨[], some s⟩
  | _, _ => none

/-- Letters of short options. -/
def shortOptions? : Text → Option Argument
  | [] => some ⟨[], none⟩
  | c :: rest =>
    if c = 'v' then
      (shortOptions? rest).map fun a => { a with items := .flag .verbose :: a.items }
    else if c = 'c' then
      if rest.isEmpty then some ⟨[], some .context⟩ else some ⟨[.setting .context rest], none⟩
    else none

/-- What an argument says, if it says something. -/
def argument? (t : Text) : Option Argument :=
  match t with
  | hyphen :: c :: rest =>
    if hyphen = '-' then
      if c = '-' then longOption? t else shortOptions? (c :: rest)
    else some ⟨[.positional t], none⟩
  | _ => some ⟨[.positional t], none⟩

/-- What a list of arguments says, if every one says something. -/
def items? : List Text → Option (List Item)
  | [] => some []
  | t :: rest =>
    if t = "--" then some (rest.map .positional)
    else
      match argument? t with
      | none => none
      | some ⟨items, none⟩ => (items? rest).map (items ++ ·)
      | some ⟨items, some s⟩ =>
        match rest with
        | [] => none
        | value :: rest => (items? rest).map (items ++ Item.setting s value :: ·)

/-- A template is run with these settings. -/
structure Job where
  template : Path
  output : Path
  context : Option Path
  start : Text
  stop : Text
  verbose : Bool
  deriving DecidableEq, Repr

/-- What the command is asked to do. -/
inductive Order where
  | version
  | help
  | job (j : Job)
  deriving DecidableEq, Repr

/-- Arguments that are no options. -/
def positionals (items : List Item) : List Text :=
  items.filterMap fun
    | .positional t => some t
    | _ => none

/-- The last value of an option. -/
def value? (s : Setting) (items : List Item) : Option Text :=
  (items.filterMap fun
    | .setting s' value => if s' = s then some value else none
    | _ => none).getLast?

/-- The order that an option gives which makes all else irrelevant. -/
def eager? : Item → Option Order
  | .flag .version => some .version
  | .flag .help => some .help
  | _ => none

namespace Order

/-- The order in a list of arguments, if they make sense: a template and an output file, unless
something else is asked for. No path holds a null. -/
def ofArguments? (arguments : List Text) : Option Order := do
  let items ← items? arguments
  match items.findSome? eager?, positionals items with
  | some order, _ => return order
  | none, [template, output] =>
    let paths := template :: output :: (value? .context items).toList
    guard (paths.all fun p => !p.contains (0 : CodePoint))
    return .job {
      template := Path.ofText template
      output := Path.ofText output
      context := (value? .context items).map Path.ofText
      start := (value? .startDelimiter items).getD Delimiters.standard.start
      stop := (value? .endDelimiter items).getD Delimiters.standard.stop
      verbose := items.contains (.flag .verbose) }
  | none, _ => none

end Order

end Stencil.Command
