import RouteTemplate.Shape

/- Resolve trees: all shapes of an endpoint, arranged for matching.

   The tree shares the segments that several shapes begin with, and forks where an optional key is first
   decided, the branch that takes the key first. `resolve` walks it with the segments still to match and
   the values bound above; at a fork the first child that matches answers. `leaves` lists the leaves in
   the order of that walk, `enumerate` as a set, and `shapes` gives their distinct shapes. -/
namespace RouteTemplate

inductive ResolveTree where
  /-- An undecided key; the children are tried in turn. -/
  | fork (options : List ResolveTree)
  /-- Atoms matched by position before going on. -/
  | run (atoms : List Atom) (next : ResolveTree)
  | leaf (leaf : Leaf)

namespace ResolveTree

mutual

/-- The leaves from left to right. -/
def leaves : ResolveTree → List Leaf
  | .fork options => leavesOf options
  | .run _ next => next.leaves
  | .leaf l => [l]

/-- The leaves of children from left to right. -/
def leavesOf : List ResolveTree → List Leaf
  | [] => []
  | option :: rest => option.leaves ++ leavesOf rest

end

/-- The number of leaves. -/
def leafCount (t : ResolveTree) : Nat := t.leaves.length

/-- The leaves as a set. -/
def enumerate (t : ResolveTree) : SortedSet Leaf := .ofList t.leaves

/-- The distinct shapes of the leaves, whichever keys led to them. -/
def shapes (t : ResolveTree) : SortedSet Shape := .ofList (t.enumerate.toList.map (·.shape))

mutual

/-- Matches the remaining segments and the query below a node, `b` being bound above it. -/
def resolveFrom (query : Dict Text) : ResolveTree → List Text → Bindings → Option Bindings
  | .fork options, segments, b => resolveFirst query options segments b
  | .run atoms next, segments, b =>
    if segments.length < atoms.length then none
    else match bindSegments b atoms segments with
      | none => none
      | some b => next.resolveFrom query (segments.drop atoms.length) b
  | .leaf l, segments, b => if segments.isEmpty then l.shape.bindQuery query b else none

/-- The answer of the first child that has one. -/
def resolveFirst (query : Dict Text) : List ResolveTree → List Text → Bindings → Option Bindings
  | [], _, _ => none
  | option :: rest, segments, b =>
    match option.resolveFrom query segments b with
    | some found => some found
    | none => resolveFirst query rest segments b

end

/-- The values bound by the first shape, in the order of the leaves, that matches the request. -/
def resolve (t : ResolveTree) (r : Request) : Option Bindings :=
  t.resolveFrom r.query r.segments .empty

/-- What a fork around the tree tries: the children of a fork, and otherwise the tree itself. -/
def options : ResolveTree → List ResolveTree
  | .fork options => options
  | t => [t]

/-- The tree below the given atoms. -/
def under (atoms : List Atom) (t : ResolveTree) : ResolveTree :=
  if atoms.isEmpty then t else .run atoms t

end ResolveTree

end RouteTemplate
