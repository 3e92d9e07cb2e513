import Stencil.Text.Span
import Stencil.Text.Utf8

/-!
# Charsets of single octets

A charset in which every octet stands for one code point, or for none.

## Main definitions

* `Charset.Single` — such a charset.
* `Charset.Single.decode?` — the text of octets.
-/

namespace Stencil.Charset

/-- A charset in which every code point is one octet. -/
structure Single where
  id : String
  /-- The other names of the charset. -/
  others : List String
  /-- What the octets stand for; the rest of them stand for nothing. -/
  rows : List String
  deriving Repr, Inhabited

/-- The text of octets, if all of them stand for something. -/
def Single.decode? (s : Single) (octets : Octets) : Option Text :=
  let table := Text.Span.ofTable 16 s.rows
  octets.mapM fun (b : Nat) => do
    let entry ← Text.Span.find? table b
    let first ← entry.values.head?
    return first + (b - entry.first)

end Stencil.Charset
