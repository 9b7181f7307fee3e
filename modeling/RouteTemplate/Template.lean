import RouteTemplate.Template.Region

/- Templates: the text from which an endpoint is read.

   A template is a path region and, after the first `?` that stands outside braces and brackets, a query
   region. Each region is freed of shorthand and read; the names of the query entries must differ, also
   across blocks. -/
namespace RouteTemplate

/-- The path region, and the query region after the first `?` outside braces and brackets.
    `depth` brackets and braces are open; one that closes nothing counts for nothing. -/
def splitQuery (depth : Nat) : Text → Text × Option Text
  | [] => ([], none)
  | c :: rest =>
    if c = '?' ∧ depth = 0 then ([], some rest)
    else
      let depth :=
        if c = '{' ∨ c = '[' then depth + 1
        else if c = '}' ∨ c = ']' then depth - 1
        else depth
      let (path, query) := splitQuery depth rest
      (c :: path, query)

/-- The first member of the list that stands in it before, or among those seen. -/
def firstRepeated? (seen : List Text) : List Text → Option Text
  | [] => none
  | name :: rest => if seen.contains name then some name else firstRepeated? (name :: seen) rest

/-- The endpoint that a template describes. -/
def Endpoint.parse (template : Text) : Except EndpointError Endpoint :=
  let (path, query) := splitQuery 0 template
  match readPath template (expand .path path) with
  | .error e => .error e
  | .ok path =>
    match readQuery template (expand .query (query.getD [])) with
    | .error e => .error e
    | .ok query =>
      match firstRepeated? [] (query.map (·.name)) with
      | some name => .error (.duplicateQueryParameter name)
      | none => .ok ⟨path, query⟩

/-- The template of a method that declares none: the routing prefix, then the method's name. -/
def defaultTemplate : Text := "\x7b$prefix\x7d/\x7b$name\x7d".toList

end RouteTemplate
