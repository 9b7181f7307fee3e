import RouteTemplate.Text

/- IPv4 addresses as host names.

   A host whose last label is a number is an IPv4 address, and must then be a valid one: up to four
   numbers, decimal, octal after `0` or hexadecimal after `0x`, where all but the last stand for one byte
   each and the last for all bytes that remain. -/
namespace RouteTemplate.Ipv4

open Text

/-- The number that a part of an address stands for; `none` if it is none. -/
def number? (part : Text) : Option Nat :=
  match part with
  | [] => none
  | '0' :: x :: digits => if x = 'x' ∨ x = 'X' then numeral? 16 digits else numeral? 8 (x :: digits)
  | _ => numeral? 10 part

/-- The labels of a name; one empty label at the end does not count. -/
def labels (name : Text) : List Text :=
  let all := splitOn '.' name
  if all.getLast? = some [] then all.dropLast else all

/-- Is the last label a number, or made of digits? -/
def endsInNumber (name : Text) : Bool :=
  match (labels name).getLast? with
  | none => false
  | some last => (!last.isEmpty && last.all (·.isDigit)) || (number? last).isSome

/-- Does the name stand for an address? -/
def isValid (name : Text) : Bool :=
  match (labels name).mapM number? with
  | none => false
  | some numbers =>
    numbers.length ≤ 4 && numbers.dropLast.all (· ≤ 255) &&
      numbers.getLastD 0 < Nat.pow 256 (5 - numbers.length)

end RouteTemplate.Ipv4
