import RouteTemplate.Request
import RouteTemplate.ResolveTree.Build
import RouteTemplate.Endpoint.Display

/- Events: what is reported while methods are registered and requests are matched.

   An event is a value that an operation returns beside its answer, in the order in which things happen. -/
namespace RouteTemplate

inductive Event where
  /-- A method was registered; its endpoint as written. -/
  | methodRegistered (method endpoint : Text)
  /-- The resolve tree of an endpoint was built. -/
  | treeBuilt (endpoint : Text) (leaves : Nat)
  /-- A request was routed and no method matched. -/
  | noMethodMatched (request : Text)
  /-- A request was refused for a query entry without `=`. -/
  | malformedQueryEntry (target entry : Text)
  /-- A methods file was read and all its methods registered. -/
  | methodsLoaded (path : Text) (methods : Nat)
  deriving DecidableEq

inductive Severity where
  | debug
  | info
  | warn
  deriving DecidableEq

def Event.severity : Event → Severity
  | .methodRegistered .. | .methodsLoaded .. => .info
  | .treeBuilt .. | .noMethodMatched .. => .debug
  | .malformedQueryEntry .. => .warn

def Event.message : Event → Text
  | .methodRegistered .. => "Registered method".toList
  | .treeBuilt .. => "Built resolve tree".toList
  | .noMethodMatched .. => "No method matched request".toList
  | .malformedQueryEntry .. => "Malformed query entry".toList
  | .methodsLoaded .. => "Loaded methods".toList

/-- What reading a target reports. -/
def Request.events (target : Text) : Except RequestError Request → List Event
  | .error (.malformedQuery entry) => [.malformedQueryEntry target entry]
  | .error (.invalidTarget ..) | .ok _ => []

/-- What building the tree of an endpoint reports. -/
def ResolveTree.built (e : Endpoint) (t : ResolveTree) : Event := .treeBuilt e.display t.leafCount

end RouteTemplate
