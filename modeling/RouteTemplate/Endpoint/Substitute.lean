import RouteTemplate.Endpoint

/- Placing a method's name and the routing prefix into an endpoint.

   The two parameters that stand for them are replaced by literal text, and every other part stays. In
   the path a value becomes one segment for each of its non-empty pieces between slashes, each under the
   guards of the parameter; in the query it becomes the value as it is. -/
namespace RouteTemplate

/-- The text that a parameter stands for, if it stands for the method's name or the routing prefix. -/
def placed? (method root name : Text) : Option Text :=
  if name = Placeholder.methodName.text then some method
  else if name = Placeholder.routingPrefix.text then some root
  else none

/-- The path parts that take the place of one. -/
def Part.substitute (method root : Text) (p : Part) : List Part :=
  match p.atom.parameter?.bind (placed? method root) with
  | some value => (Text.pieces '/' value).map fun piece => { p with atom := .literal piece }
  | none => [p]

/-- The query value that takes the place of one. -/
def Entry.substitute (method root : Text) (e : Entry) : Entry :=
  match e.part.atom.parameter?.bind (placed? method root) with
  | some value => { e with part := { e.part with atom := .literal value } }
  | none => e

/-- The endpoint of the method with that name under that routing prefix. -/
def Endpoint.substitute (method root : Text) (e : Endpoint) : Endpoint where
  path := e.path.flatMap (·.substitute method root)
  query := e.query.map (·.substitute method root)

end RouteTemplate
