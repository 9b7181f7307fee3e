import RouteTemplate.Text

/- Punycode: labels beyond ASCII, written in ASCII.

   An encoded label has its characters of ASCII first, then a hyphen if there are any, then one number for
   each other character, in the order of their code points. A number tells how far to go on, counting
   every place of the label at every code point, until the next character is put in. Its digits are
   letters and figures, least first; each has a threshold, and a digit below its threshold is the last.
   The thresholds adapt to the numbers read so far. -/
namespace RouteTemplate.Punycode

/-- The value of a digit: letters of either case, then figures. -/
def digit? (c : Char) : Option Nat :=
  if c.isDigit then some (c.toNat - '0'.toNat + 26)
  else if c.isAlpha then some (c.toLower.toNat - 'a'.toNat)
  else none

/-- The bias for numbers about as large as `n`: 36 for each division by 35 that leaves it large, and `k`
    for those already made. -/
def scale (k n : Nat) : Nat := if 455 < n then scale (k + 36) (n / 35) else k + 36 * n / (n + 38)
termination_by n

/-- The bias after a number was read and the label has `length` characters. -/
def adapt (first : Bool) (number length : Nat) : Nat :=
  let scaled := if first then number / 700 else number / 2
  scale 0 (scaled + scaled / length)

/-- The threshold of the digit at a position, counted in steps of 36. -/
def threshold (bias position : Nat) : Nat := max 1 (min 26 (position - bias))

/-- A label in the course of decoding. -/
structure Decoding where
  label : Text
  /-- The code point reached, and the place in the label. -/
  codePoint : Nat
  place : Nat
  bias : Nat
  /-- The number begun: its value so far, the weight of its next digit and the position of that digit. -/
  number : Nat
  weight : Nat
  position : Nat

/-- Numbers and weights have no more than 32 bits. -/
def bound : Nat := Nat.pow 2 32

/-- Reads one more digit, and puts a character in when it ends a number. -/
def Decoding.step (d : Decoding) (c : Char) : Option Decoding := do
  let digit ← digit? c
  let number := d.number + digit * d.weight
  let limit := threshold d.bias d.position
  if limit ≤ digit then
    let weight := d.weight * (36 - limit)
    if bound ≤ number || bound ≤ weight then none
    else return { d with number, weight, position := d.position + 36 }
  -- the number is read: it counts the places of the label, once around for each code point
  let length := d.label.length + 1
  let codePoint := d.codePoint + (d.place + number) / length
  let place := (d.place + number) % length
  if codePoint.isValidChar then
    return {
      label := d.label.take place ++ Char.ofNat codePoint :: d.label.drop place
      codePoint
      place := place + 1
      bias := adapt (d.place = 0) number length
      number := 0
      weight := 1
      position := 36 }
  else none

/-- The characters of ASCII and the digits of an encoded label. -/
def split (encoded : Text) : Text × Text :=
  match Text.splitOnce '-' encoded.reverse with
  | some (digits, plain) => if plain.isEmpty then ([], encoded) else (plain.reverse, digits.reverse)
  | none => ([], encoded)

/-- The label that is encoded; `none` if nothing is. -/
def decode? (encoded : Text) : Option Text := do
  let (plain, digits) := split encoded
  let d ← digits.foldlM Decoding.step ⟨plain, 128, 0, 72, 0, 1, 36⟩
  if d.weight = 1 then return d.label else none

end RouteTemplate.Punycode
