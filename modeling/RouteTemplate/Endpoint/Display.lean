import RouteTemplate.Endpoint

/- The written form of an endpoint.

   Every part is written inside blocks of its own, one for each guard, outermost first:
   `items/[?id:{id}]?q={q}&[?page:page={page}]`. Reading this text as a template gives the endpoint
   back, as long as brackets and braces match within each part. -/
namespace RouteTemplate

open Text

/-- A text inside one block for each guard. -/
def inBlocks (guards : List Text) (inner : Text) : Text :=
  guards.foldr (fun key t => '[' :: '?' :: key ++ ':' :: t ++ [']']) inner

def Part.display (p : Part) : Text := inBlocks p.guards p.atom.display

def Entry.display (e : Entry) : Text := inBlocks e.part.guards (e.name ++ '=' :: e.part.atom.display)

def Endpoint.display (e : Endpoint) : Text := target (e.path.map (·.display)) (e.query.map (·.display))

end RouteTemplate
