import RouteTemplate.Text.CombiningClass
import RouteTemplate.Text.Decomposition

/- Composed text: one form for texts that look the same.

   An accented letter can be one character or a letter with marks after it. `composed` writes it in the
   shorter way: it takes all characters apart, puts the marks after a letter in the order of their classes,
   and joins each letter with what follows it as far as that makes a character. -/
namespace RouteTemplate.Text

/-- Puts a character before ordered text: a mark goes behind the marks of lower classes. -/
def insertMark (c : Char) : Text → Text
  | [] => [c]
  | d :: rest =>
    if 0 < combiningClass d && combiningClass d < combiningClass c then d :: insertMark c rest
    else c :: d :: rest

/-- The text with the marks in a row in the order of their classes. -/
def ordered (t : Text) : Text := t.foldr insertMark []

/-- The character that a character makes with one after it. -/
def pair? (a b : Char) : Option Char :=
  if b.toNat < 0x300 then none
  else ((Hangul.syllable? a.toNat b.toNat).map Char.ofNat).or (joined? (decompose a ++ [b]))

/-- Joins a letter with what follows. `marks` stand between them, last one first. -/
def composeFrom (letter : Char) (marks : Text) : Text → Text
  | [] => letter :: marks.reverse
  | c :: rest =>
    -- a mark of the same class or a higher one keeps `c` from the letter
    let whole := if marks.all fun d => combiningClass d < combiningClass c then pair? letter c else none
    match whole with
    | some whole => composeFrom whole marks rest
    | none =>
      -- `c` is the next letter, or a mark that stays one
      if combiningClass c = 0 then letter :: (marks.reverse ++ composeFrom c [] rest)
      else composeFrom letter (c :: marks) rest

/-- Joins what can be joined in ordered text. -/
def compose : Text → Text
  | [] => []
  | c :: rest => if combiningClass c = 0 then composeFrom c [] rest else c :: compose rest

/-- The composed form of a text. -/
def composed (t : Text) : Text := compose (ordered (t.flatMap decompose))

end RouteTemplate.Text
