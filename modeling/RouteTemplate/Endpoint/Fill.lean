import RouteTemplate.Endpoint
import RouteTemplate.Error

/- Filling: from an endpoint to the target of one call.

   Values come from a `Lookup`, which may keep a state of its own: a record of what it was asked, or the
   answers given so far. `Endpoint.fill` keeps the parts whose guards are present and asks for the value
   of each parameter, path before query, until one has none. `Endpoint.fillMemoized` asks for each name
   at most once. Values are inserted as they are. -/
namespace RouteTemplate

/-- A source of values by name, with a state that each question may change. -/
def Lookup (σ : Type) : Type := Text → σ → Option Text × σ

namespace Lookup

variable {σ : Type}

/-- Answers from a function, and keeps the names asked for in order. -/
def recording (values : Text → Option Text) : Lookup (List Text) :=
  fun name asked => (values name, asked ++ [name])

/-- Answers a name asked before as it was answered then, without asking again. -/
def memoized (look : Lookup σ) : Lookup (Dict (Option Text) × σ) :=
  fun name (known, s) =>
    match known.get? name with
    | some answer => (answer, (known, s))
    | none =>
      let (answer, s) := look name s
      (answer, (known.insert name answer, s))

/-- The texts that atoms stand for, asked for in order until a parameter has no value. -/
def render (look : Lookup σ) : List Atom → σ → Except EndpointError (List Text) × σ
  | [], s => (.ok [], s)
  | .literal text :: rest, s =>
    match render look rest s with
    | (.error e, s) => (.error e, s)
    | (.ok more, s) => (.ok (text :: more), s)
  | .param name :: rest, s =>
    match look name s with
    | (none, s) => (.error (.missingArgument name), s)
    | (some value, s) =>
      match render look rest s with
      | (.error e, s) => (.error e, s)
      | (.ok more, s) => (.ok (value :: more), s)

end Lookup

namespace Endpoint

variable {σ : Type}

/-- The target of a call with the given keys present, or the first kept parameter without a value. -/
def fill (e : Endpoint) (present : Text → Bool) (look : Lookup σ) (s : σ) :
    Except EndpointError Text × σ :=
  let kept := e.keep present
  match look.render (kept.path.map (·.atom)) s with
  | (.error e, s) => (.error e, s)
  | (.ok segments, s) =>
    match look.render (kept.query.map (·.part.atom)) s with
    | (.error e, s) => (.error e, s)
    | (.ok values, s) =>
      (.ok (Text.target segments (List.zipWith Text.entry (kept.query.map (·.name)) values)), s)

/-- Filling that asks for each name at most once. -/
def fillMemoized (e : Endpoint) (present : Text → Bool) (look : Lookup σ) (s : σ) :
    Except EndpointError Text × σ :=
  match e.fill present look.memoized (Dict.empty, s) with
  | (result, (_, s)) => (result, s)

/-- Fails with the first parameter, at any depth, that is not known to the method. -/
def checkParameters (e : Endpoint) (method : Text) (known : Text → Bool) : Except EndpointError Unit :=
  match e.parameters.find? fun name => !known name with
  | some name => .error (.unknownParameter method name)
  | none => .ok ()

/-- Filling for a method with declared arguments: every parameter must be known before any is asked for. -/
def fillChecked (e : Endpoint) (method : Text) (known present : Text → Bool) (look : Lookup σ) (s : σ) :
    Except EndpointError Text × σ :=
  match e.checkParameters method known with
  | .error e => (.error e, s)
  | .ok () => e.fillMemoized present look s

end Endpoint

end RouteTemplate
