import Stencil.Text.Quoted

/-!
# Paths

A path is a root and a list of components. Reading one drops empty components and single dots;
double dots stay, since what they mean depends on what is linked where. Exactly two slashes in
front are a root of their own.

## Main definitions

* `Path`, `Path.ofText`, `Path.text` — paths and their texts.
* `Path.join` — a path seen from another one.
* `Path.parent`, `Path.name`, `Path.suffix` — parts of a path.
* `Path.settle` — an absolute path without double dots.
-/

namespace Stencil

/-- What a path begins with. -/
inductive Root where
  | relative
  | single
  | double
  deriving DecidableEq, Repr, Inhabited

/-- A path. -/
structure Path where
  root : Root
  parts : List Text
  deriving DecidableEq, Repr, Inhabited

namespace Root

/-- The slashes of a root. -/
def text : Root → Text
  | relative => []
  | single => "/"
  | double => "//"

/-- The root of a text: its slashes at the front, of which three or more count as one. -/
def ofText (t : Text) : Root :=
  match (t.takeWhile fun (c : CodePoint) => c = '/').length with
  | 0 => relative
  | 2 => double
  | _ => single

end Root

namespace Path

/-- The path that leads nowhere else. -/
def here : Path := ⟨.relative, []⟩

/-- A component says something. -/
def isComponent (part : Text) : Bool := part ≠ [] ∧ part ≠ "."

/-- The path that a text names. -/
def ofText (t : Text) : Path := ⟨Root.ofText t, (Text.splitOn '/' t).filter isComponent⟩

/-- A path in writing; the empty path is a dot. -/
def text (p : Path) : Text :=
  match p.root, p.parts with
  | .relative, [] => "."
  | root, parts => root.text ++ Text.join "/" parts

/-- The path begins at a root. -/
def isAbsolute (p : Path) : Bool := p.root ≠ .relative

/-- A path seen from another: an absolute path is itself, a relative one goes on from there. -/
def join (base p : Path) : Path :=
  match p.root with
  | .relative => ⟨base.root, base.parts ++ p.parts⟩
  | _ => p

/-- The path without its last component. -/
def parent (p : Path) : Path := { p with parts := p.parts.dropLast }

/-- The last component, empty if there is none. -/
def name (p : Path) : Text := p.parts.getLastD []

/-- What follows the last dot of the name, with the dot, unless the dot is at an end of it. -/
def suffix (p : Path) : Text :=
  let ending := (p.name.reverse.takeWhile fun (c : CodePoint) => c ≠ '.').reverse
  if ending.isEmpty ∨ p.name.length ≤ ending.length + 1 then [] else ('.' : CodePoint) :: ending

/-- The path with something added to its name. -/
def extend (p : Path) (ending : Text) : Path :=
  { p with parts := p.parts.dropLast ++ [p.name ++ ending] }

/-- The components that are left when double dots go back one component each. -/
def settleParts (done : List Text) : List Text → List Text
  | [] => done.reverse
  | part :: parts =>
    if part = ".." then settleParts done.tail parts else settleParts (part :: done) parts

/-- An absolute path without double dots. -/
def settle (p : Path) : Path := ⟨.single, settleParts [] p.parts⟩

/-- How a path is shown as a value. -/
def quoted (p : Path) : Text := "PosixPath(" ++ Text.quoted p.text ++ ")"

end Path

end Stencil
