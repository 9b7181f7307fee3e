import RouteTemplate.Endpoint
import RouteTemplate.Request

/- Shapes: endpoints with their optional path parts decided.

   An endpoint with blocks stands for a family of shapes. In a shape every path part is an atom, so it
   matches requests of one length only. Query entries may stay optional, since an entry that is missing
   moves no other. `Shape.resolve` matches a request against one shape and gives the values bound to its
   parameters; a parameter that occurs more than once must see one value everywhere. A `Leaf` is a shape
   together with the keys that were decided on the way to it. -/
namespace RouteTemplate

/-- What a shape asks of one query name. -/
structure Rule where
  atom : Atom
  /-- The name may be missing from the request. -/
  optional : Bool
  deriving DecidableEq

/-- Path atoms by position and query rules by name. -/
structure Shape where
  path : List Atom
  query : Dict Rule
  deriving DecidableEq

/-- A shape, the keys taken as present to reach it, and those taken as absent. -/
structure Leaf where
  shape : Shape
  taken : SortedSet Text
  untaken : SortedSet Text
  deriving DecidableEq

/-! Binding. -/

/-- The values of parameters. -/
abbrev Bindings := Dict Text

/-- The bindings with `name` bound to `value`; a name bound to another value refuses. -/
def Bindings.bind (b : Bindings) (name value : Text) : Option Bindings :=
  match b.get? name with
  | none => some (b.insert name value)
  | some bound => if bound = value then some b else none

/-- Matches an atom against the text in its place. -/
def Atom.bind (b : Bindings) : Atom × Text → Option Bindings
  | (.literal text, found) => if text = found then some b else none
  | (.param name, found) => b.bind name found

/-- Matches atoms against the segments in their places. -/
def bindSegments (b : Bindings) (atoms : List Atom) (segments : List Text) : Option Bindings :=
  (atoms.zip segments).foldlM Atom.bind b

/-- Matches one rule against a query. -/
def Rule.bind (query : Dict Text) (b : Bindings) : Text × Rule → Option Bindings
  | (name, rule) =>
    match query.get? name with
    | none => if rule.optional then some b else none
    | some value => Atom.bind b (rule.atom, value)

/-- Matches the rules of a shape against a query, in the order of their names. -/
def Shape.bindQuery (s : Shape) (query : Dict Text) (b : Bindings) : Option Bindings :=
  s.query.entries.foldlM (Rule.bind query) b

/-- Matches a request against one shape: first the number of segments, then the query, then the path. -/
def Shape.resolve (s : Shape) (r : Request) : Option Bindings :=
  if r.segments.length ≠ s.path.length then none
  else (s.bindQuery r.query .empty).bind fun b => bindSegments b s.path r.segments

/-! Writing. -/

/-- A rule as a shape writes it, in brackets when its name may be missing. -/
def Rule.display (name : Text) (rule : Rule) : Text :=
  let entry := Text.entry name rule.atom.display
  if rule.optional then '[' :: entry ++ [']'] else entry

def Shape.display (s : Shape) : Text :=
  Text.target (s.path.map (·.display)) (s.query.entries.map fun (name, rule) => rule.display name)

/-- A leaf on one line, with the keys that select it. -/
def Leaf.display (l : Leaf) : Text :=
  l.shape.display ++ "  present=[".toList ++ Text.join [','] l.taken.toList ++
    "] absent=[".toList ++ Text.join [','] l.untaken.toList ++ [']']

/-! The order of listings: path, then query, then keys taken, then keys not taken. -/

instance : Ord Rule := ⟨compareLex (compareOn Rule.atom) (compareOn Rule.optional)⟩

theorem Rule.compare_def (a b : Rule) :
    compare a b = compareLex (compareOn Rule.atom) (compareOn Rule.optional) a b := rfl

instance : Ord Shape := ⟨compareLex (compareOn Shape.path) (compareOn Shape.query)⟩

theorem Shape.compare_def (a b : Shape) :
    compare a b = compareLex (compareOn Shape.path) (compareOn Shape.query) a b := rfl

instance : Ord Leaf :=
  ⟨compareLex (compareOn Leaf.shape) (compareLex (compareOn Leaf.taken) (compareOn Leaf.untaken))⟩

theorem Leaf.compare_def (a b : Leaf) : compare a b =
    compareLex (compareOn Leaf.shape) (compareLex (compareOn Leaf.taken) (compareOn Leaf.untaken)) a b :=
  rfl

section
attribute [local instance] lexOrd

def Rule.fields (rule : Rule) : Atom × Bool := (rule.atom, rule.optional)

instance : Std.TransOrd Rule := transOrd_of_fields Rule.fields Rule.compare_def

instance : Std.LawfulEqOrd Rule := by
  refine lawfulEqOrd_of_fields Rule.fields Rule.compare_def ?injective
  rintro ⟨_, _⟩ ⟨_, _⟩ ⟨⟩
  rfl

def Shape.fields (s : Shape) : List Atom × Dict Rule := (s.path, s.query)

instance : Std.TransOrd Shape := transOrd_of_fields Shape.fields Shape.compare_def

instance : Std.LawfulEqOrd Shape := by
  refine lawfulEqOrd_of_fields Shape.fields Shape.compare_def ?injective
  rintro ⟨_, _⟩ ⟨_, _⟩ ⟨⟩
  rfl

def Leaf.fields (l : Leaf) : Shape × SortedSet Text × SortedSet Text := (l.shape, l.taken, l.untaken)

instance : Std.TransOrd Leaf := transOrd_of_fields Leaf.fields Leaf.compare_def

instance : Std.LawfulEqOrd Leaf := by
  refine lawfulEqOrd_of_fields Leaf.fields Leaf.compare_def ?injective
  rintro ⟨_, _, _⟩ ⟨_, _, _⟩ ⟨⟩
  rfl

end

end RouteTemplate
