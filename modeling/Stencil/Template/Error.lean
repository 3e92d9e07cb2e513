import Stencil.Script.Token

/-!
# Errors of a template

Why a template is no sequence of literals and balanced code sections, and what is said about it.

## Main definitions

* `TemplateFault` — the cause.
* `TemplateError` — a cause with the name of the template; `TemplateError.message` words it.
* `FileAccess.message` — what is said about a template that cannot be read.
-/

namespace Stencil

/-- Why a template cannot be compiled. -/
inductive TemplateFault where
  /-- A code section is not ended; the delimiter that began it. -/
  | unpaired (start : Text)
  /-- Blocks are left open at the end. -/
  | openBlocks (count : Nat)
  /-- A section ends a block where none is open. -/
  | strayEnd
  /-- A clause goes on after a block where none is open. -/
  | strayClause (keyword : Text)
  /-- A block is opened by an indented statement of this section. -/
  | indentedHeader (firstRow : Text)
  /-- The rows of a section are no sequence of tokens. -/
  | badSection (error : Script.TokenError) (firstRow : Text)
  deriving DecidableEq, Repr, Inhabited

namespace TemplateFault

/-- The cause in words. -/
def message : TemplateFault → Text
  | unpaired start => "has an un-paired " ++ start
  | openBlocks count => "has " ++ Text.ofNat count ++ " block(s) without a closing 'end'"
  | strayEnd => "has an 'end' with no open block"
  | strayClause keyword => "has '" ++ keyword ++ "' outside of a block"
  | indentedHeader firstRow =>
    "opens a block on an indented line; open nested blocks in their own code section: " ++
      firstRow.strip
  | badSection error firstRow =>
    "has an invalid code section (" ++ error.message ++ "): " ++ firstRow.strip

end TemplateFault

/-- An error of a template. -/
structure TemplateError where
  /-- The name of the template. -/
  path : Text
  /-- What is wrong with it. -/
  detail : Text
  deriving DecidableEq, Repr, Inhabited

namespace TemplateError

/-- The name that stands for a template without one. -/
def anonymous : Text := "<template>"

/-- An error of the template with a name, if it has one. -/
def of (name : Option Text) (detail : Text) : TemplateError := ⟨name.getD anonymous, detail⟩

/-- The error in words. -/
def message (e : TemplateError) : Text := "File '" ++ e.path ++ "' " ++ e.detail

end TemplateError

namespace FileAccess

/-- What is said about a template file that cannot be read, and why. -/
def message (path reason : Text) : Text :=
  "Could not read template: " ++ path ++ if reason.isEmpty then ([] : Text) else ": " ++ reason

/-- Why octets are no text. -/
def notText : Text := "not valid UTF-8"

end FileAccess

end Stencil
