import RouteTemplate.Dict

/- Endpoints: what a template says once it is read.

   An endpoint is a list of path parts and a list of named query entries. A part is an atom (literal
   text, or a parameter to be replaced by a value) under any number of optional keys, its guards; it
   takes part only when every guard is present (`Part.kept`). `Endpoint.keep` drops the parts whose
   guards are not all present and frees the others of theirs. The order of query entries matters when
   an endpoint is written out, and nowhere else: `Endpoint.alike` compares them as tables. -/
namespace RouteTemplate

/-- Literal text, or the name of a parameter. -/
inductive Atom where
  | literal (text : Text)
  | param (name : Text)
  deriving DecidableEq

/-- An atom under its guards, outermost first. -/
structure Part where
  guards : List Text
  atom : Atom
  deriving DecidableEq

/-- A named query value. -/
structure Entry where
  name : Text
  part : Part
  deriving DecidableEq

/-- Path parts in order, and query entries in the order they are written. -/
structure Endpoint where
  path : List Part
  query : List Entry
  deriving DecidableEq

/-! Names with a meaning of their own. -/

/-- The parameters that need no braces. The first two stand for a method's name and the routing prefix. -/
inductive Placeholder where
  | methodName
  | routingPrefix
  | instanceReceiver
  | extensionReceiver
  deriving DecidableEq

def Placeholder.text : Placeholder → Text
  | .methodName => "$name".toList
  | .routingPrefix => "$prefix".toList
  | .instanceReceiver => "$instanceReceiver".toList
  | .extensionReceiver => "$extensionReceiver".toList

/-- The words read as parameters also without braces. -/
def reservedWords : List Text :=
  [Placeholder.methodName.text, Placeholder.routingPrefix.text,
    Placeholder.instanceReceiver.text, Placeholder.extensionReceiver.text]

/-! Atoms are ordered for listings: literals before parameters, then by text. -/

def Atom.isParam : Atom → Bool
  | .literal _ => false
  | .param _ => true

def Atom.text : Atom → Text
  | .literal text => text
  | .param name => name

instance : Ord Atom := ⟨compareLex (compareOn Atom.isParam) (compareOn Atom.text)⟩

theorem Atom.compare_def (a b : Atom) :
    compare a b = compareLex (compareOn Atom.isParam) (compareOn Atom.text) a b := rfl

section
attribute [local instance] lexOrd

def Atom.fields (atom : Atom) : Bool × Text := (atom.isParam, atom.text)

instance : Std.TransOrd Atom := transOrd_of_fields Atom.fields Atom.compare_def

instance : Std.LawfulEqOrd Atom := by
  refine lawfulEqOrd_of_fields Atom.fields Atom.compare_def ?injective
  rintro (_ | _) (_ | _) ⟨⟩ <;> rfl

end

/-- The parameter an atom names, if it is one. -/
def Atom.parameter? : Atom → Option Text
  | .literal _ => none
  | .param name => some name

/-- An atom as a template writes it. -/
def Atom.display : Atom → Text
  | .literal text => text
  | .param name => '{' :: name ++ ['}']

/-! Parts. -/

namespace Part

/-- The part inside one more block. -/
def guard (key : Text) (p : Part) : Part := { p with guards := key :: p.guards }

/-- A part takes part when every one of its guards is present. -/
def kept (present : Text → Bool) (p : Part) : Bool := p.guards.all present

/-- The part freed of its guards. -/
def bare (p : Part) : Part := { p with guards := [] }

/-- A part is optional when some key guards it. -/
def isOptional (p : Part) : Bool := !p.guards.isEmpty

end Part

/-- The entry inside one more block. -/
def Entry.guard (key : Text) (e : Entry) : Entry := { e with part := e.part.guard key }

/-! Views of an endpoint. -/

namespace Endpoint

/-- All parts, path before query. -/
def parts (e : Endpoint) : List Part := e.path ++ e.query.map (·.part)

/-- Every parameter named anywhere, at its first appearance. -/
def parameters (e : Endpoint) : List Text := (e.parts.filterMap (·.atom.parameter?)).eraseDups

/-- Every key that guards a part, at its first appearance. -/
def keys (e : Endpoint) : List Text := (e.parts.flatMap (·.guards)).eraseDups

def hasOptionals (e : Endpoint) : Bool := e.parts.any (·.isOptional)

/-- The part of the first query entry with the name. -/
def queryPart? (e : Endpoint) (name : Text) : Option Part :=
  (e.query.find? fun entry => entry.name == name).map (·.part)

/-- The query as a table; of two entries with one name the later counts. -/
def queryTable (e : Endpoint) : Dict Part := Dict.ofList (e.query.map fun entry => (entry.name, entry.part))

/-- Equality up to the order of query entries. -/
def alike (a b : Endpoint) : Bool := a.path = b.path && a.queryTable = b.queryTable

/-- The endpoint for one set of present keys: parts with an absent guard dropped, the others bare. -/
def keep (present : Text → Bool) (e : Endpoint) : Endpoint where
  path := (e.path.filter (·.kept present)).map (·.bare)
  query := (e.query.filter (·.part.kept present)).map fun entry => { entry with part := entry.part.bare }

end Endpoint

end RouteTemplate
