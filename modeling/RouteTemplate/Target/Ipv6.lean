import RouteTemplate.Text

/- IPv6 addresses, as they stand between brackets.

   An address is eight groups of one to four hexadecimal digits between colons. The last two groups may be
   written as four decimal numbers between dots. One run of groups, at least one long, may be left out
   for `::`. -/
namespace RouteTemplate.Ipv6

open Text

/-- One to four hexadecimal digits. -/
def isGroup (t : Text) : Bool := 1 ≤ t.length && t.length ≤ 4 && t.all fun c => (digitValue? 16 c).isSome

/-- A decimal number up to 255 without leading zeros. -/
def isByte (t : Text) : Bool :=
  !t.isEmpty && t.all (·.isDigit) && (t.length = 1 || t.head? ≠ some '0') &&
    ((numeral? 10 t).any (· ≤ 255))

/-- Four decimal numbers between dots. -/
def isDotted (t : Text) : Bool := (splitOn '.' t).length = 4 && (splitOn '.' t).all isByte

/-- How many groups the pieces between colons stand for; the last may be dotted where `dotted` says so. -/
def countGroups (dotted : Bool) : List Text → Option Nat
  | [] => some 0
  | [piece] => if isGroup piece then some 1 else if dotted && isDotted piece then some 2 else none
  | piece :: rest => if isGroup piece then (countGroups dotted rest).map (· + 1) else none

/-- The number of groups in one side of an address, which may be empty. -/
def groups (dotted : Bool) (t : Text) : Option Nat :=
  if t.isEmpty then some 0 else countGroups dotted (splitOn ':' t)

def isValid (t : Text) : Bool :=
  match splitAtMark [':', ':'] t with
  | none => groups true t = some 8
  | some (front, back) =>
    match groups false front, groups true back with
    | some m, some n => m + n ≤ 7
    | _, _ => false

end RouteTemplate.Ipv6
