import RouteTemplate.Proofs.ResolveTree.FirstMatch

/- An endpoint below fixed segments.

   Literal segments in front of an endpoint's path (`Endpoint.below`) take no part in any decision, so its tree has
   the same leaves with the same keys decided, each below the segments (`leaves_build_below`). A request fits such a
   leaf when it begins with the segments and what is left fits the leaf itself (`Shape.resolve_below`). So the tree
   answers as the endpoint's own tree does once the segments are cut off the request
   (`ResolveTree.resolve_build_below`). -/
namespace RouteTemplate

/-- The endpoint with literal segments in front of its path. -/
def Endpoint.below (segments : List Text) (e : Endpoint) : Endpoint :=
  { e with path := segments.map (⟨[], .literal ·⟩) ++ e.path }

def Shape.below (atoms : List Atom) (s : Shape) : Shape := { s with path := atoms ++ s.path }

def Leaf.below (atoms : List Atom) (l : Leaf) : Leaf := { l with shape := l.shape.below atoms }

theorem length_of_after? {start l rest : List Text} (h : after? start l = some rest) :
    l.length = start.length + rest.length := by
  rw [eq_append_of_after? h, List.length_append]

/-! ## A shape below fixed segments -/

theorem bindSegments_literals (b : Bindings) (atoms : List Atom) : ∀ start segments : List Text,
    start.length ≤ segments.length → bindSegments b (start.map .literal ++ atoms) segments =
      (after? start segments).bind (bindSegments b atoms)
  | [], segments, _ => by cases segments <;> rfl
  | text :: start, found :: segments, h => by
    have ih := bindSegments_literals b atoms start segments (by simpa using h)
    show b.bindAll ((Atom.literal text, found) :: (start.map Atom.literal ++ atoms).zip segments) = _
    rw [Bindings.bindAll_literal, after?]
    by_cases hsame : text = found
    · rw [if_pos hsame, if_pos hsame]
      exact ih
    · rw [if_neg hsame, if_neg hsame, Option.bind_none]

theorem Shape.resolve_below (s : Shape) (start : List Text) (r : Request) :
    (s.below (start.map .literal)).resolve r =
      (after? start r.segments).bind fun rest => s.resolve { r with segments := rest } := by
  have length : (s.below (start.map .literal)).path.length = start.length + s.path.length := by
    simp [below]
  rw [resolve, length]
  by_cases hlen : r.segments.length = start.length + s.path.length
  · have query : ∀ b, (s.below (start.map .literal)).bindQuery r.query b = s.bindQuery r.query b := fun _ => rfl
    have path : ∀ b, bindSegments b (s.below (start.map .literal)).path r.segments =
        (after? start r.segments).bind (bindSegments b s.path) := fun b =>
      bindSegments_literals b s.path start r.segments (by omega)
    rw [if_neg (not_not_intro hlen), query]
    simp only [path]
    cases hrest : after? start r.segments with
    | none => simp
    | some rest =>
      have fits : rest.length = s.path.length := by
        have := length_of_after? hrest
        omega
      simp only [Option.bind_some, resolve]
      rw [if_neg (not_not_intro fits)]
  · rw [if_pos hlen]
    cases hrest : after? start r.segments with
    | none => rfl
    | some rest =>
      have misfits : rest.length ≠ s.path.length := by
        have := length_of_after? hrest
        omega
      rw [Option.bind_some, resolve, if_pos misfits]

/-! ## The tree below fixed segments -/

namespace ResolveTree

variable (query : List Entry)

/-- The atoms above and in the run come before the path of every leaf, and change nothing else. -/
theorem leaves_grow_below (above run : List Atom) (taken untaken : SortedSet Text) (parts : List Part) :
    (grow query above run taken untaken parts).leaves =
      (grow query [] [] taken untaken parts).leaves.map (Leaf.below (above ++ run)) := by
  -- Both sides move atoms on at each step, so the lemma is taken at all of them.
  refine grow_induction (motive := fun _ _ taken untaken parts => ∀ above run,
    (grow query above run taken untaken parts).leaves =
      (grow query [] [] taken untaken parts).leaves.map (Leaf.below (above ++ run)))
    ?nil ?bare ?taken ?untaken ?fork [] [] taken untaken parts above run
  case nil =>
    intro _ _ taken untaken above run
    rw [leaves_grow_nil, leaves_grow_nil]
    simp [Leaf.below, Shape.below]
  case bare =>
    intro _ _ taken untaken atom rest ih above run
    rw [grow_bare, grow_bare, ih above, ih [] ([] ++ [atom]), List.map_map]
    refine List.map_congr_left fun l _ => ?_
    simp [Leaf.below, Shape.below]
  case taken =>
    intro _ _ taken untaken key guards atom rest h ih above run
    rw [grow_taken _ _ _ _ _ _ h, grow_taken _ _ _ _ _ _ h]
    exact ih above run
  case untaken =>
    intro _ _ taken untaken key guards atom rest h hu ih above run
    rw [grow_untaken _ _ _ _ _ _ h hu, grow_untaken _ _ _ _ _ _ h hu]
    exact ih above run
  case fork =>
    intro _ _ taken untaken key guards atom rest h hu yes no above run
    rw [leaves_grow_fork _ _ _ _ _ _ h hu, leaves_grow_fork _ _ _ _ _ _ h hu, List.map_append, taking, passing,
      yes (above ++ run) [], no (above ++ run) [], List.append_nil]
    rfl

theorem grow_bares (above run atoms : List Atom) (taken untaken : SortedSet Text) (rest : List Part) :
    grow query above run taken untaken (atoms.map (⟨[], ·⟩) ++ rest) =
      grow query above (run ++ atoms) taken untaken rest := by
  induction atoms generalizing run with
  | nil => simp
  | cons atom atoms ih => rw [List.map_cons, List.cons_append, grow_bare, ih, ← List.append_cons]

theorem leaves_build_below (start : List Text) (e : Endpoint) :
    (build (e.below start)).leaves = (build e).leaves.map (Leaf.below (start.map .literal)) := by
  have bare : start.map (fun text => (⟨[], .literal text⟩ : Part)) = (start.map Atom.literal).map (⟨[], ·⟩) := by
    rw [List.map_map]
    rfl
  rw [build, Endpoint.below, bare, grow_bares, leaves_grow_below]
  rfl

/-- The tree below fixed segments answers as the tree does once they are cut off the request. -/
theorem resolve_build_below (start : List Text) (e : Endpoint) (r : Request) :
    (build (e.below start)).resolve r =
      (after? start r.segments).bind fun rest => (build e).resolve { r with segments := rest } := by
  rw [resolve_build_eq_findSome?, leaves_build_below, List.findSome?_map]
  have leaf : (fun l : Leaf => l.shape.resolve r) ∘ Leaf.below (start.map .literal) = fun l =>
      (after? start r.segments).bind fun rest => l.shape.resolve { r with segments := rest } := by
    funext l
    exact Shape.resolve_below l.shape start r
  rw [leaf]
  cases after? start r.segments with
  | none => exact List.findSome?_eq_none_iff.mpr fun _ _ => rfl
  | some rest => exact (resolve_build_eq_findSome? e _).symm

end ResolveTree

end RouteTemplate
