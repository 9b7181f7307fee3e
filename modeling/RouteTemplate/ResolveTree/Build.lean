import RouteTemplate.ResolveTree

/- From an endpoint to its resolve tree.

   The path is read from left to right with the keys decided so far, those taken and those not taken. A
   part under a key that was taken is looked at inside; a part under a key that was not taken is skipped;
   at a key still undecided the tree forks. A leaf is reached when the path is used up. Keys that occur in
   the query alone are never decided: there a part under an undecided key stays optional.

   Each step makes the remaining parts smaller, counting a part as one and every guard as one more. -/
namespace RouteTemplate

/-- What a shape asks of a query value once some keys are taken and some are not: nothing under a key that
    is not taken, and nothing definite under a key left open. -/
def Rule.ofPart? (taken untaken : SortedSet Text) (p : Part) : Option Rule :=
  if p.guards.any (· ∈ untaken) then none
  else some ⟨p.atom, p.guards.any (· ∉ taken)⟩

/-- The rules of a query, by name; of two entries with one name the later counts. -/
def Rule.table (taken untaken : SortedSet Text) (query : List Entry) : Dict Rule :=
  .ofList (query.filterMap fun entry => (ofPart? taken untaken entry.part).map (entry.name, ·))

namespace ResolveTree

/-- The parts counted with their guards. -/
def size : List Part → Nat
  | [] => 0
  | p :: rest => p.guards.length + 1 + size rest

/-- The leaf for a path, below the atoms that follow the last fork. -/
def tip (query : List Entry) (above run : List Atom) (taken untaken : SortedSet Text) : ResolveTree :=
  under run (.leaf ⟨⟨above ++ run, Rule.table taken untaken query⟩, taken, untaken⟩)

/-- The tree for the remaining parts. `above` holds the atoms up to the last fork, `run` those since. -/
def grow (query : List Entry) (above run : List Atom) (taken untaken : SortedSet Text)
    (parts : List Part) : ResolveTree :=
  if parts.all (!·.isOptional) then tip query above (run ++ parts.map (·.atom)) taken untaken
  else match parts with
    | [] => tip query above run taken untaken
    | ⟨[], atom⟩ :: rest => grow query above (run ++ [atom]) taken untaken rest
    | ⟨key :: guards, atom⟩ :: rest =>
      if key ∈ taken then grow query above run taken untaken (⟨guards, atom⟩ :: rest)
      else if key ∈ untaken then grow query above run taken untaken rest
      else
        let yes := grow query (above ++ run) [] (taken.insert key) untaken (⟨guards, atom⟩ :: rest)
        let no := grow query (above ++ run) [] taken (untaken.insert key) rest
        under run (.fork (yes.options ++ no.options))
termination_by size parts
decreasing_by all_goals (simp only [size, List.length_cons]; omega)

/-- The resolve tree of an endpoint. -/
def build (e : Endpoint) : ResolveTree := grow e.query [] [] .empty .empty e.path

end ResolveTree

end RouteTemplate
