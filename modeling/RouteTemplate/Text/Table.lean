import RouteTemplate.Text

/- Tables over code points.

   A property of characters is a list of ranges of code points. What characters stand for is a list of
   rows: a row gives the words for one code point after the other, with a blank between them. -/
namespace RouteTemplate.Text

/-- Is the number inside one of the closed ranges? -/
def inRanges (ranges : List (Nat × Nat)) (n : Nat) : Bool :=
  ranges.any fun (first, last) => first ≤ n && n ≤ last

/-- The words for the code points from the first on. -/
abbrev Rows := List (Nat × List Text)

namespace Rows

def ofStrings (rows : List (Nat × String)) : Rows :=
  rows.map fun (first, words) => (first, splitOn ' ' words.toList)

/-- The word for a code point. -/
def word? (rows : Rows) (n : Nat) : Option Text :=
  rows.findSome? fun (first, words) => if first ≤ n then words[n - first]? else none

/-- The first code point that the word is for. -/
def codePoint? (rows : Rows) (word : Text) : Option Nat :=
  rows.findSome? fun (first, words) => (words.findIdx? fun w => w = word).map (first + ·)

end Rows

end RouteTemplate.Text
