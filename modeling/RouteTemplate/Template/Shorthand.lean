import RouteTemplate.Text.Word

/- Shorthand in templates.

   `{{name}}` stands for a segment `name` followed by the parameter `name` in the path, and for an entry
   of that name in the query; `{{?name}}` is the same inside a block that `name` guards. `expand` writes
   a region of a template without shorthand: it turns `{{?name}}` into a block around `{{name}}`
   everywhere, and then every `{{name}}` into its long form. Braces that are no shorthand stay. -/
namespace RouteTemplate

/-- The two regions of a template. -/
inductive Region where
  | path
  | query
  deriving DecidableEq

/-- The character between the items of a region. -/
def Region.separator : Region → Char
  | .path => '/'
  | .query => '&'

namespace Shorthand

/-- The characters of a shorthand's name. -/
def isNameChar (c : Char) : Bool := Text.isWord c || c == '$'

/-- The name of the shorthand that the text begins with, and the text after it. -/
def read? (opener t : Text) : Option (Text × Text) :=
  match after? opener t with
  | none => none
  | some opened =>
    match opened.dropWhile isNameChar with
    | '}' :: '}' :: rest =>
      if (opened.takeWhile isNameChar).isEmpty then none else some (opened.takeWhile isNameChar, rest)
    | _ => none

theorem length_of_read? {opener t name rest : Text} (h : read? opener t = some (name, rest)) :
    rest.length < t.length := by
  unfold read? at h
  split at h
  · cases h
  · next opened hopen =>
    split at h
    · next rest' hdrop =>
      split at h
      · cases h
      · cases h
        have hlen : (opened.dropWhile isNameChar).length ≤ opened.length :=
          (List.dropWhile_sublist _).length_le
        rw [hdrop] at hlen
        rw [eq_append_of_after? hopen, List.length_append]
        simp only [List.length_cons] at hlen
        omega
    · cases h

/-- The text with every shorthand replaced, from left to right. -/
def replace (opener : Text) (long : Text → Text) : Text → Text
  | [] => []
  | c :: rest =>
    match _ : read? opener (c :: rest) with
    | some (name, after) => long name ++ replace opener long after
    | none => c :: replace opener long rest
termination_by t => t.length
decreasing_by
  · exact length_of_read? ‹_›
  · exact Nat.lt_succ_self rest.length

/-- The optional shorthand as a block around the plain one. -/
def guarded (name : Text) : Text :=
  ['[', '?'] ++ name ++ [':', '{', '{'] ++ name ++ ['}', '}', ']']

/-- The long form of the plain shorthand in a region. -/
def long (region : Region) (name : Text) : Text :=
  match region with
  | .path => name ++ ['/', '{'] ++ name ++ ['}']
  | .query => name ++ ['=', '{'] ++ name ++ ['}']

end Shorthand

/-- A region of a template without shorthand. -/
def expand (region : Region) (t : Text) : Text :=
  Shorthand.replace ['{', '{'] (Shorthand.long region)
    (Shorthand.replace ['{', '{', '?'] Shorthand.guarded t)

end RouteTemplate
