import Mathlib.Data.List.Basic
import RouteTemplate.ResolveTree
import RouteTemplate.Proofs.Binding

/- The branches of a resolve tree.

   A branch is a leaf together with all atoms on the way to it. `branches` lists them from left to right, so
   that its leaves are `leaves` (`map_leaf_branches`). Matching a request against a tree is trying its
   branches in this order (`resolveFrom_eq_findSome?`): the runs of a branch are matched piece by piece, each
   against the segments that are left, which is matching them all at once (`Branch.follow_prepend`).

   When the atoms on the way to a leaf are the path of its shape, following the branch is matching the shape
   alone (`Branch.follow_eq_resolve`): the first binds the path before the query, the second after it. -/
namespace RouteTemplate

theorem zip_append_of_le {α β : Type} : ∀ (l m : List α) (r : List β), l.length ≤ r.length →
    (l ++ m).zip r = l.zip r ++ m.zip (r.drop l.length)
  | [], _, _, _ => rfl
  | a :: l, m, b :: r, h => by
    simp [zip_append_of_le l m r (by simpa using h)]

theorem findSome?_congr {α β : Type} {f g : α → Option β} {l : List α} (h : ∀ a ∈ l, f a = g a) :
    l.findSome? f = l.findSome? g := by
  rw [← List.head?_filterMap, ← List.head?_filterMap, List.filterMap_congr h]

namespace ResolveTree

/-- A leaf with the atoms on the way to it. -/
structure Branch where
  atoms : List Atom
  leaf : Leaf

namespace Branch

/-- The branch below further atoms. -/
def prepend (above : List Atom) (branch : Branch) : Branch := { branch with atoms := above ++ branch.atoms }

/-- Matches the segments and the query against one branch, `b` being bound above it. -/
def follow (query : Dict Text) (segments : List Text) (b : Bindings) (branch : Branch) : Option Bindings :=
  if segments.length = branch.atoms.length then
    (bindSegments b branch.atoms segments).bind (branch.leaf.shape.bindQuery query)
  else none

theorem prepend_nil (branch : Branch) : branch.prepend [] = branch := rfl

end Branch

theorem bindSegments_append {b : Bindings} {run atoms : List Atom} {segments : List Text}
    (h : run.length ≤ segments.length) : bindSegments b (run ++ atoms) segments =
      (bindSegments b run segments).bind fun b' => bindSegments b' atoms (segments.drop run.length) := by
  show b.bindAll ((run ++ atoms).zip segments) =
    (b.bindAll (run.zip segments)).bind fun b' => b'.bindAll (atoms.zip (segments.drop run.length))
  rw [zip_append_of_le run atoms segments h, Bindings.bindAll_append]

/-- Following a branch below a run is matching the run, and then following the branch with what is left. -/
theorem Branch.follow_prepend (query : Dict Text) (segments : List Text) (b : Bindings)
    (run : List Atom) (branch : Branch) : (branch.prepend run).follow query segments b =
      if segments.length < run.length then none
      else (bindSegments b run segments).bind fun b' => branch.follow query (segments.drop run.length) b' := by
  unfold follow prepend
  by_cases hshort : segments.length < run.length
  · have : segments.length ≠ (run ++ branch.atoms).length := by rw [List.length_append]; omega
    rw [if_pos hshort, if_neg this]
  · have hle : run.length ≤ segments.length := Nat.le_of_not_lt hshort
    rw [if_neg hshort]
    by_cases hlen : (segments.drop run.length).length = branch.atoms.length
    · have : segments.length = (run ++ branch.atoms).length := by
        rw [List.length_drop] at hlen
        rw [List.length_append]
        omega
      simp only [this, hlen, if_true, bindSegments_append hle, Option.bind_assoc]
    · have : segments.length ≠ (run ++ branch.atoms).length := by
        rw [List.length_drop] at hlen
        rw [List.length_append]
        omega
      rw [if_neg this]
      simp only [if_neg hlen]
      cases bindSegments b run segments <;> rfl

theorem Branch.follow_eq_resolve {branch : Branch} (h : branch.leaf.shape.path = branch.atoms) (r : Request) :
    branch.follow r.query r.segments .empty = branch.leaf.shape.resolve r := by
  rw [Shape.resolve_eq_bindAll, follow, Shape.fits, ← h]
  by_cases hlen : r.segments.length = branch.leaf.shape.path.length
  · rw [if_pos hlen, funext (Shape.bindQuery_eq branch.leaf.shape r.query)]
    cases hq : branch.leaf.shape.answeredBy r.query with
    | false => simp
    | true =>
      rw [hlen, beq_self_eq_true, Bool.true_and, if_pos rfl, Shape.foundIn, Bindings.bindAll_append]
      rfl
  · simp [hlen]

mutual

/-- The branches from left to right. -/
def branches : ResolveTree → List Branch
  | .fork options => branchesOf options
  | .run atoms next => next.branches.map (Branch.prepend atoms)
  | .leaf l => [⟨[], l⟩]

/-- The branches of children from left to right. -/
def branchesOf : List ResolveTree → List Branch
  | [] => []
  | option :: rest => option.branches ++ branchesOf rest

end

mutual

theorem map_leaf_branches : ∀ t : ResolveTree, t.branches.map (·.leaf) = t.leaves
  | .fork options => map_leaf_branchesOf options
  | .run atoms next => by
    rw [branches, leaves, List.map_map]
    exact map_leaf_branches next
  | .leaf l => rfl

theorem map_leaf_branchesOf : ∀ options : List ResolveTree, (branchesOf options).map (·.leaf) = leavesOf options
  | [] => rfl
  | option :: rest => by
    rw [branchesOf, leavesOf, List.map_append, map_leaf_branches option, map_leaf_branchesOf rest]

end

mutual

theorem resolveFrom_eq_findSome? (query : Dict Text) : ∀ (t : ResolveTree) (segments : List Text) (b : Bindings),
    t.resolveFrom query segments b = t.branches.findSome? (Branch.follow query segments b)
  | .fork options, segments, b => resolveFirst_eq_findSome? query options segments b
  | .run atoms next, segments, b => by
    rw [resolveFrom, branches, List.findSome?_map]
    -- Where the run fails, so does every branch below it; where it matches, they go on with what it binds.
    by_cases hshort : segments.length < atoms.length
    · have : ∀ branch, (Branch.follow query segments b ∘ Branch.prepend atoms) branch = none := fun branch => by
        rw [Function.comp_apply, Branch.follow_prepend, if_pos hshort]
      rw [if_pos hshort, List.findSome?_eq_none_iff.mpr fun branch _ => this branch]
    · have below : Branch.follow query segments b ∘ Branch.prepend atoms = fun branch =>
          (bindSegments b atoms segments).bind fun b' => branch.follow query (segments.drop atoms.length) b' := by
        funext branch
        rw [Function.comp_apply, Branch.follow_prepend, if_neg hshort]
      rw [if_neg hshort, below]
      cases hb : bindSegments b atoms segments with
      | none => exact (List.findSome?_eq_none_iff.mpr fun _ _ => rfl).symm
      | some b' => exact resolveFrom_eq_findSome? query next _ b'
  | .leaf l, segments, b => by
    cases segments <;> simp [resolveFrom, branches, Branch.follow, bindSegments]

theorem resolveFirst_eq_findSome? (query : Dict Text) : ∀ (options : List ResolveTree) (segments : List Text)
    (b : Bindings), resolveFirst query options segments b =
      (branchesOf options).findSome? (Branch.follow query segments b)
  | [], _, _ => rfl
  | option :: rest, segments, b => by
    rw [resolveFirst, branchesOf, List.findSome?_append, resolveFrom_eq_findSome? query option]
    cases option.branches.findSome? (Branch.follow query segments b) with
    | none => exact resolveFirst_eq_findSome? query rest segments b
    | some found => rfl

end

/-- When on every branch the atoms are the path of the leaf's shape, a tree answers as the first of its
    leaves whose shape matches. -/
theorem resolve_eq_findSome? {t : ResolveTree} (h : ∀ branch ∈ t.branches, branch.leaf.shape.path = branch.atoms)
    (r : Request) : t.resolve r = t.leaves.findSome? fun l => l.shape.resolve r := by
  have same : ∀ branch ∈ t.branches, branch.follow r.query r.segments .empty = branch.leaf.shape.resolve r :=
    fun branch hm => Branch.follow_eq_resolve (h branch hm) r
  calc t.resolve r
      = t.branches.findSome? (Branch.follow r.query r.segments .empty) := resolveFrom_eq_findSome? _ t _ _
    _ = t.branches.findSome? fun branch => branch.leaf.shape.resolve r := findSome?_congr same
    _ = t.leaves.findSome? fun l => l.shape.resolve r := by
        rw [← map_leaf_branches, List.findSome?_map]
        rfl

/-! ## The branches of the pieces a tree is built from -/

theorem branchesOf_append : ∀ l m : List ResolveTree, branchesOf (l ++ m) = branchesOf l ++ branchesOf m
  | [], _ => rfl
  | option :: rest, m => by simp [branchesOf, branchesOf_append rest m]

/-- Splicing a fork into the fork above it loses no branch. -/
theorem branchesOf_options (t : ResolveTree) : branchesOf t.options = t.branches := by
  cases t <;> simp [options, branches, branchesOf]

theorem branches_under (atoms : List Atom) (t : ResolveTree) :
    (under atoms t).branches = t.branches.map (Branch.prepend atoms) := by
  cases atoms with
  | nil => simp [under, funext Branch.prepend_nil]
  | cons a atoms => simp [under, branches]

end ResolveTree

end RouteTemplate
