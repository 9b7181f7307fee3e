import RouteTemplate.Template
import RouteTemplate.Endpoint.Substitute
import RouteTemplate.Endpoint.Fill
import RouteTemplate.ResolveTree.Build

/- The registry: methods under one routing prefix.

   A method is declared by its name, a template and the names of its arguments. Registering it reads the
   template, places the name and the routing prefix, and checks that every parameter left is a declared
   argument or one of the two receivers; a name is registered once. Methods keep the order in which they
   were registered, and a request goes to the first that matches it. A table says for each name where its
   method stands among them, so that a method is found without going through all. -/
namespace RouteTemplate

/-- What is said of a method before it is registered. Without a template it has the default one. -/
structure Declaration where
  name : Text
  template : Option Text
  arguments : List Text
  deriving DecidableEq

/-- A registered method. Its arguments are the declared ones and the receivers. -/
structure Method where
  name : Text
  arguments : SortedSet Text
  endpoint : Endpoint
  deriving DecidableEq

/-- Methods in the order of their registration, under a routing prefix. -/
structure Registry where
  root : Text
  methods : List Method
  /-- Where the method of a name stands. -/
  places : Dict Nat
  deriving DecidableEq

/-- A request matched to a method, with the values of its parameters. -/
structure Match where
  method : Method
  arguments : Bindings

namespace Method

/-- The method of a declaration under a routing prefix. -/
def declare (root : Text) (d : Declaration) : Except EndpointError Method :=
  match Endpoint.parse (d.template.getD defaultTemplate) with
  | .error e => .error e
  | .ok read =>
    let endpoint := read.substitute d.name root
    let known := SortedSet.ofList
      (d.arguments ++ [Placeholder.instanceReceiver.text, Placeholder.extensionReceiver.text])
    match endpoint.checkParameters d.name (· ∈ known) with
    | .error e => .error e
    | .ok () => .ok ⟨d.name, known, endpoint⟩

/-- The target of a call with the given arguments present. Parameters were checked at registration. -/
def fill {σ : Type} (m : Method) (present : Text → Bool) (look : Lookup σ) (s : σ) :
    Except EndpointError Text × σ :=
  m.endpoint.fillMemoized present look s

def resolve (m : Method) (r : Request) : Option Bindings := (ResolveTree.build m.endpoint).resolve r

end Method

namespace Registry

/-- No methods yet. -/
def empty (root : Text) : Registry := ⟨root, [], .empty⟩

/-- The method that stands in the place of a name. -/
def find? (r : Registry) (name : Text) : Option Method :=
  (r.places.get? name).bind fun place => r.methods[place]?

/-- The method of a declaration, entered after those there are. A declaration that cannot be registered
    leaves the registry as it is. -/
def register (r : Registry) (d : Declaration) : Except EndpointError Method × Registry :=
  if r.places.contains d.name then (.error (.duplicateMethod d.name), r)
  else
    match Method.declare r.root d with
    | .error e => (.error e, r)
    | .ok m =>
      (.ok m, { r with methods := r.methods ++ [m], places := r.places.insert d.name r.methods.length })

/-- The first method, in registration order, that matches the request. -/
def route (r : Registry) (request : Request) : Option Match :=
  r.methods.findSome? fun m => (m.resolve request).map fun arguments => ⟨m, arguments⟩

end Registry

end RouteTemplate
