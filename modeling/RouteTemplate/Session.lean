import RouteTemplate.Registry
import RouteTemplate.Event
import RouteTemplate.Target

/- Sessions: a registry in use.

   A session holds a registry, the resolve trees built so far and the events reported so far. A method's
   tree is built when it is first needed and kept from then on. `perform` runs one operation and gives its
   answer and the session after it; the answer does not depend on which trees were built before. -/
namespace RouteTemplate

structure Session where
  registry : Registry
  /-- Trees by the name of their method. -/
  trees : Dict ResolveTree
  log : List Event

namespace Session

def start (root : Text) : Session := ⟨.empty root, .empty, []⟩

def report (s : Session) (events : List Event) : Session := { s with log := s.log ++ events }

/-- The tree of a method, built now if it is needed for the first time. -/
def tree (s : Session) (m : Method) : ResolveTree × Session :=
  match s.trees.get? m.name with
  | some t => (t, s)
  | none =>
    let t := ResolveTree.build m.endpoint
    (t, { s with trees := s.trees.insert m.name t }.report [t.built m.endpoint])

def register (s : Session) (d : Declaration) : Except EndpointError Method × Session :=
  match s.registry.register d with
  | (.error e, registry) => (.error e, { s with registry })
  | (.ok m, registry) =>
    (.ok m, { s with registry }.report [.methodRegistered m.name m.endpoint.display])

def resolve (s : Session) (m : Method) (r : Request) : Option Bindings × Session :=
  let (t, s) := s.tree m
  (t.resolve r, s)

/-- The first of the methods that matches; trees of later ones are not needed. -/
def routeAmong (r : Request) : List Method → Session → Option Match × Session
  | [], s => (none, s)
  | m :: rest, s =>
    match s.resolve m r with
    | (some arguments, s) => (some ⟨m, arguments⟩, s)
    | (none, s) => routeAmong r rest s

def route (s : Session) (r : Request) : Option Match × Session :=
  match routeAmong r s.registry.methods s with
  | (some found, s) => (some found, s)
  | (none, s) => (none, s.report [.noMethodMatched r.display])

def routeTarget (s : Session) (target : Text) : Except RequestError (Option Match) × Session :=
  let read := Request.parse target
  let s := s.report (Request.events target read)
  match read with
  | .error e => (.error e, s)
  | .ok r =>
    let (found, s) := s.route r
    (.ok found, s)

/-- The shapes of a method with the keys that lead to them. -/
def enumerate (s : Session) (m : Method) : SortedSet Leaf × Session :=
  let (t, s) := s.tree m
  (t.enumerate, s)

end Session

/-- One thing to do with a registry. -/
inductive Operation where
  | register (d : Declaration)
  | list
  | get (name : Text)
  | tree (name : Text)
  | enumerate (name : Text)
  | fill (name : Text) (present : Text → Bool) (values : Text → Option Text)
  | resolve (name : Text) (request : Request)
  | route (request : Request)
  | routeTarget (target : Text)

/-- What comes of it. Answers about a method are `none` when no method has the name. -/
inductive Answer where
  | registered (result : Except EndpointError Method)
  | listed (registry : Registry)
  | method (found : Option Method)
  | tree (found : Option ResolveTree)
  | leaves (found : Option (SortedSet Leaf))
  | filled (found : Option (Except EndpointError Text × List Text))
  | resolved (found : Option (Option Bindings))
  | routed (result : Except RequestError (Option Match))

namespace Session

/-- Does something with the method of that name, if there is one. -/
def withMethod {α : Type} (s : Session) (name : Text) (act : Method → α × Session) :
    Option α × Session :=
  match s.registry.find? name with
  | none => (none, s)
  | some m =>
    let (a, s) := act m
    (some a, s)

def perform (s : Session) : Operation → Answer × Session
  | .register d =>
    let (result, s) := s.register d
    (.registered result, s)
  | .list => (.listed s.registry, s)
  | .get name => (.method (s.registry.find? name), s)
  | .tree name =>
    let (found, s) := s.withMethod name s.tree
    (.tree found, s)
  | .enumerate name =>
    let (found, s) := s.withMethod name s.enumerate
    (.leaves found, s)
  | .fill name present values =>
    let (found, s) := s.withMethod name fun m => (m.fill present (Lookup.recording values) [], s)
    (.filled found, s)
  | .resolve name request =>
    let (found, s) := s.withMethod name fun m => s.resolve m request
    (.resolved found, s)
  | .route request =>
    let (found, s) := s.route request
    (.routed (.ok found), s)
  | .routeTarget target =>
    let (result, s) := s.routeTarget target
    (.routed result, s)

end Session

end RouteTemplate
