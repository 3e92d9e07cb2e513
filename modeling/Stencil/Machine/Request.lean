import Stencil.Text.Utf8
import Stencil.Value.Exception
import Stencil.Path.Basic
import Stencil.Template.Compile

/-!
# Requests

What a run asks of the world outside: the octets of a file, what stands at a path, and, for the
command line, directories and files to be made. An answer is part of the request's type.

## Main definitions

* `FileError` — why there is no answer, with its class and its words.
* `Request`, `Request.Reply` — what is asked, and the type of the answer.
-/

namespace Stencil

/-- Why a path cannot be used. -/
inductive FileError where
  | missing
  | directory
  | notDirectory
  | nameTooLong
  | exists_
  | denied
  /-- The system has any other number and words for it. -/
  | other (number : Nat) (words : Text)
  /-- The path holds a zero. -/
  | nul
  /-- The path holds surrogates that stand for no octets: where, and which. -/
  | unencodable (index : Nat) (run : Text)
  deriving DecidableEq, Repr, Inhabited

namespace FileError

/-- The class of the exception. -/
def type : FileError → ExceptionClass
  | missing => .fileNotFoundError
  | directory => .isADirectoryError
  | notDirectory => .notADirectoryError
  | nameTooLong => .osError
  | exists_ => .fileExistsError
  | denied => .permissionError
  | other number _ => (ExceptionClass.ofNumber? number).getD .osError
  | nul => .valueError
  | unencodable .. => .unicodeEncodeError

/-- The number of the system for it. -/
def number : FileError → Nat
  | missing => 2
  | denied => 13
  | exists_ => 17
  | notDirectory => 20
  | directory => 21
  | nameTooLong => 36
  | other number _ => number
  | nul | unencodable .. => 0

/-- The words of the system for it. -/
def reason : FileError → Text
  | missing => "No such file or directory"
  | directory => "Is a directory"
  | notDirectory => "Not a directory"
  | nameTooLong => "File name too long"
  | exists_ => "File exists"
  | denied => "Permission denied"
  | other _ words => words
  | nul => "embedded null byte"
  | unencodable index run => Text.surrogatesMessage index run

/-- The path is at fault and not the system. -/
def isSystem : FileError → Bool
  | nul | unencodable .. => false
  | _ => true

/-- The whole message about a path. -/
def message (e : FileError) (path : Text) : Text :=
  if e.isSystem then
    "[Errno " ++ Text.ofNat e.number ++ "] " ++ e.reason ++ ": " ++ Text.quoted path
  else e.reason

end FileError

/-- What stands at a path. -/
inductive EntryKind where
  | file
  | directory
  deriving DecidableEq, Repr, Inhabited

/-- What a run asks of the world outside. -/
inductive Request where
  /-- The octets of a file; a suspending run is resumed when they are there. -/
  | read (path : Path) (mode : Mode)
  /-- What stands at a path. -/
  | probe (path : Path)
  /-- The path with everything linked followed. -/
  | resolve (path : Path)
  /-- Directories down to a path; an error comes with how far above the path it is. -/
  | makeDirectories (path : Path)
  /-- A file with these octets; with none, it is emptied. -/
  | write (path : Path) (octets : Option Octets)
  deriving DecidableEq, Repr, Inhabited

namespace Request

/-- The answer to a request. -/
def Reply : Request → Type
  | read .. => Except FileError Octets
  | probe _ => Except FileError (Option EntryKind)
  | resolve _ => Except FileError Path
  | makeDirectories _ => Except (FileError × Nat) Unit
  | write .. => Except FileError Unit

/-- Other runs may go on before the answer. -/
def suspends : Request → Bool
  | read _ .suspending => true
  | _ => false

end Request

end Stencil
