import Stencil.Machine.Request

/-!
# Disks

A disk holds files and directories by their places, and answers requests. There are no links, so
that a place has one path without double dots; still every component of a path that is gone through
has to be there, also before double dots.

## Main definitions

* `Disk` — files and directories.
* `Disk.walk` — the place that a path leads to.
* `Disk.store`, `Disk.remove` — the files of a disk are changed from outside.
* `Disk.answer` — the answer to a request.
-/

namespace Stencil

/-- Files, with their octets, and directories by their places. The root is always there. -/
structure Disk where
  nodes : List (List Text × Option Octets)
  deriving DecidableEq, Repr, Inhabited

namespace Disk

/-- A disk without files. -/
def empty : Disk := ⟨[]⟩

/-- What is at a place: a file with its octets, or a directory. -/
def find? (d : Disk) (place : List Text) : Option (Option Octets) :=
  if place.isEmpty then some none else (d.nodes.find? (·.1 == place)).map (·.2)

/-- The disk with something at a place. -/
def put (d : Disk) (place : List Text) (node : Option Octets) : Disk :=
  if place.isEmpty then d
  else if (d.find? place).isSome then
    ⟨d.nodes.map fun (p, n) => if p = place then (p, node) else (p, n)⟩
  else ⟨d.nodes ++ [(place, node)]⟩

/-- The disk without what is at a place. -/
def remove (d : Disk) (place : List Text) : Disk := ⟨d.nodes.filter (·.1 != place)⟩

/-- The disk with directories down to a place, unless there is something already. -/
def ensure (d : Disk) (place : List Text) : Disk :=
  (List.range (place.length + 1)).foldl
    (fun d n => if (d.find? (place.take n)).isSome then d else d.put (place.take n) none) d

/-- The disk with a file or a directory at a place and directories above it. -/
def store (d : Disk) (place : List Text) (node : Option Octets) : Disk :=
  (d.ensure place.dropLast).put place node

/-- The longest name, and the longest path, in octets. -/
def maxName : Nat := 255

/-- The longest path in octets. -/
def maxPath : Nat := 4095

/-- The octets of a name: a surrogate that stands for an octet is that octet. -/
def isOctetSurrogate (c : CodePoint) : Bool := 0xDC80 ≤ c && c ≤ 0xDCFF

/-- The number of octets of a text as a path. -/
def width (t : Text) : Nat :=
  t.foldr (fun c n => (if isOctetSurrogate c then 1 else CodePoint.octetCount c) + n) 0

/-- Why a text is no path. -/
def fault? (t : Text) : Option FileError :=
  match Text.surrogates? isOctetSurrogate 0 t with
  | some (index, run) => some (.unencodable index run)
  | none =>
    if (0 : CodePoint) ∈ t then some .nul
    else if maxPath < width t then some .nameTooLong
    else none

/-- The place that components lead to from another one: everything before the last has to be a
directory, and what the last leads to need not be there. -/
def follow (d : Disk) (place : List Text) : List Text → Except FileError (List Text)
  | [] => .ok place
  | part :: rest =>
    match d.find? place with
    | none => .error .missing
    | some (some _) => .error .notDirectory
    | some none =>
      if part = ".." then follow d place.dropLast rest
      else if maxName < width part then .error .nameTooLong
      else follow d (place ++ [part]) rest

/-- The place that an absolute path leads to. -/
def walk (d : Disk) (p : Path) : Except FileError (List Text) :=
  match fault? p.text with
  | some e => .error e
  | none => d.follow [] p.parts

/-- What is at the end of an absolute path. -/
def get (d : Disk) (p : Path) : Except FileError (Option Octets) :=
  match d.walk p with
  | .error e => .error e
  | .ok place =>
    match d.find? place with
    | none => .error .missing
    | some node => .ok node

/-- The octets of a file. -/
def read (d : Disk) (p : Path) : Except FileError Octets :=
  match d.get p with
  | .error e => .error e
  | .ok none => .error .directory
  | .ok (some octets) => .ok octets

/-- What stands at a path. -/
def probe (d : Disk) (p : Path) : Except FileError (Option EntryKind) :=
  match d.get p with
  | .ok none => .ok (some .directory)
  | .ok (some _) => .ok (some .file)
  | .error e =>
    match e with
    | .missing | .notDirectory | .nul | .unencodable .. => .ok none
    | e => .error e

/-- A path without double dots. -/
def resolve (p : Path) : Except FileError Path :=
  match fault? p.text with
  | some .nul => .error .nul
  | some (.unencodable index run) => .error (.unencodable index run)
  | _ => .ok p.settle

/-- One new directory. -/
def makeDirectory (d : Disk) (p : Path) : Except FileError Disk :=
  match d.walk p with
  | .error e => .error e
  | .ok place => if (d.find? place).isSome then .error .exists_ else .ok (d.put place none)

/-- A path leads to a directory. -/
def isDirectory (d : Disk) (p : Path) : Bool :=
  match d.probe p with
  | .ok (some .directory) => true
  | _ => false

/-- A new directory that may be there already; `climbed` tells how far above a path it is. -/
def settleDirectory (d : Disk) (p : Path) (climbed : Nat) :
    Except (FileError × Nat) Unit × Disk :=
  match d.makeDirectory p with
  | .ok d => (.ok (), d)
  | .error e =>
    if e.isSystem ∧ e ≠ .missing ∧ d.isDirectory p then (.ok (), d) else (.error (e, climbed), d)

/-- Directories down to a path with at most so many components above it; an error comes with how
far above the path it is. -/
def makeDirectories (d : Disk) (p : Path) (climbed : Nat) :
    (above : Nat) → Except (FileError × Nat) Unit × Disk
  | 0 => d.settleDirectory p climbed
  | above + 1 =>
    match d.makeDirectory p with
    | .error .missing =>
      match makeDirectories d p.parent (climbed + 1) above with
      | (.ok (), d) => d.settleDirectory p climbed
      | (.error e, d) => (.error e, d)
    | _ => d.settleDirectory p climbed

/-- A file with these octets. -/
def write (d : Disk) (p : Path) (octets : Octets) : Except FileError Unit × Disk :=
  match d.walk p with
  | .error e => (.error e, d)
  | .ok place =>
    match d.find? place with
    | some none => (.error .directory, d)
    | _ => (.ok (), d.put place (some octets))

/-- The answer to a request, and the disk after it. -/
def answer : (q : Request) → Disk → q.Reply × Disk
  | .read path _, d => (d.read path, d)
  | .probe path, d => (d.probe path, d)
  | .resolve path, d => (resolve path, d)
  | .makeDirectories path, d => d.makeDirectories path 0 path.parts.length
  | .write path octets, d => d.write path (octets.getD [])

end Disk

end Stencil
