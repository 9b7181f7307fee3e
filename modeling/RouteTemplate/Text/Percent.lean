import RouteTemplate.Text

/- Percent coding of text.

   `encode` keeps letters, digits and `-_.~` of ASCII and writes every byte of the UTF-8 form of all other
   characters as `%` and two upper-case hexadecimal digits. `decode?` reads such bytes back, leaves a `%`
   that no two digits follow as it is, and fails when the bytes are not UTF-8. -/
namespace RouteTemplate.Text.Percent

/-- The characters that need no coding. -/
def isUnreserved (c : Char) : Bool := c.isAlphanum || c == '-' || c == '_' || c == '.' || c == '~'

/-- An upper-case hexadecimal digit. -/
def hexDigit (n : Nat) : Char :=
  if n < 10 then Char.ofNat (n + '0'.toNat) else Char.ofNat (n - 10 + 'A'.toNat)

/-- A byte as `%` and two digits. -/
def encodeByte (b : UInt8) : Text := ['%', hexDigit (b.toNat / 16), hexDigit (b.toNat % 16)]

def encodeChar (c : Char) : Text :=
  if isUnreserved c then [c] else (String.utf8EncodeChar c).flatMap encodeByte

def encode (t : Text) : Text := t.flatMap encodeChar

/-- The bytes that coded text stands for. -/
def bytes : Text → List UInt8
  | [] => []
  | '%' :: hi :: lo :: rest =>
    match digitValue? 16 hi, digitValue? 16 lo with
    | some a, some b => UInt8.ofNat (16 * a + b) :: bytes rest
    | _, _ => String.utf8EncodeChar '%' ++ bytes (hi :: lo :: rest)
  | c :: rest => String.utf8EncodeChar c ++ bytes rest

/-- The text whose bytes those are, if they are UTF-8. -/
def decode? (t : Text) : Option Text := (bytes t).toByteArray.utf8Decode?.map (·.toList)

end RouteTemplate.Text.Percent
