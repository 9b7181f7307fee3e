import RouteTemplate.Target.DomainName.Direction
import RouteTemplate.Target.DomainName.Folding
import RouteTemplate.Target.DomainName.Joining
import RouteTemplate.Target.DomainName.Punycode
import RouteTemplate.Text.Composition

/- Domain names in targets.

   A name is folded, composed and cut into labels at its dots. A label that begins with `xn--` is decoded,
   and must be the encoding of a folded and composed label that is not all of ASCII. No label may begin
   with a mark, hold a join control that joins nothing or be very long, and the labels of a name with
   characters written from right to left must have one direction each. -/
namespace RouteTemplate.DomainName

open Text

/-- The ASCII characters that no name may hold. -/
def isForbidden (c : Char) : Bool :=
  c.toNat ≤ 0x20 || c == '\x7f' || "%#/:<>?@[\\]^|".toList.contains c

/-- What an encoded label begins with. -/
def encodedMark : Text := "xn--".toList

def isAscii (t : Text) : Bool := t.all (·.toNat < 128)

/-- The label that a folded label stands for. -/
def decodeLabel? (label : Text) : Option Text :=
  match after? encodedMark label with
  | none => some label
  | some encoded =>
    -- a hyphen at the end would say that nothing follows the characters of ASCII
    if isAscii label ∧ encoded.length ≤ 2000 ∧ !encoded.isEmpty ∧ encoded.getLast? ≠ some '-' then
      (Punycode.decode? encoded).filter fun decoded => decoded.all isSettled ∧ composed decoded = decoded
    else none

/-- May the label stand by itself? -/
def isLabel (label : Text) : Bool :=
  !label.head?.any isMark && controlsFit [] label && (isAscii label || label.length ≤ 1000)

/-- Do the labels of a name agree in direction, where it matters? -/
def directionsFit (labels : List Text) : Bool :=
  !(labels.any (·.any setsDirection)) || labels.all hasOneDirection

/-- The folded name, in which labels beyond ASCII are left as they are; `none` if it is no domain name. -/
def folded? (name : Text) : Option Text := do
  let parts ← name.mapM fold?
  let folded := composed parts.flatten
  let labels ← (splitOn '.' folded).mapM decodeLabel?
  if !folded.any isForbidden && labels.all isLabel && directionsFit labels then return folded else none

end RouteTemplate.DomainName
