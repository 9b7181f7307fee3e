import RouteTemplate.Text

/- Text as a JSON string.

   A JSON string stands in double quotes. The quote and the backslash are escaped by a backslash, a control
   character below the blank by a letter, where it has one, or by `u` and four hexadecimal digits; every
   other character stands for itself. -/
namespace RouteTemplate.Text

/-- A lower-case hexadecimal digit. -/
def lowerHexDigit (n : Nat) : Char :=
  if n < 10 then Char.ofNat (n + '0'.toNat) else Char.ofNat (n - 10 + 'a'.toNat)

/-- The letter by which a character is escaped, if it has one. -/
def escapeLetter? (c : Char) : Option Char :=
  match c with
  | '"' => some '"'
  | '\\' => some '\\'
  | '\x08' => some 'b'
  | '\t' => some 't'
  | '\n' => some 'n'
  | '\x0c' => some 'f'
  | '\r' => some 'r'
  | _ => none

/-- A character as it stands in a JSON string. -/
def literalChar (c : Char) : Text :=
  match escapeLetter? c with
  | some letter => ['\\', letter]
  | none =>
    if c.toNat < 32 then
      ['\\', 'u', '0', '0', lowerHexDigit (c.toNat / 16), lowerHexDigit (c.toNat % 16)]
    else [c]

/-- The text as a JSON string. -/
def literal (t : Text) : Text := '"' :: t.flatMap literalChar ++ ['"']

end RouteTemplate.Text
