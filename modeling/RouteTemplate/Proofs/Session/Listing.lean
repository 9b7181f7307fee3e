import RouteTemplate.Command
import RouteTemplate.Proofs.Order
import RouteTemplate.Proofs.ResolveTree.NormalForm
import RouteTemplate.Proofs.ResolveTree.Presence
import RouteTemplate.Proofs.Session.Runs

/- Listing the leaves of a method.

   A set is listed in strictly ascending order, so what a listing holds decides the listing. The leaves of a tree are
   those to which a way leads (`ResolveTree.mem_enumerate_iff`), and its shapes those of its leaves, each once
   (`ResolveTree.mem_shapes_iff`). No leaf stands twice in the tree of an endpoint. So a session that lists a method
   writes one line for each leaf of the tree, whatever was done before (`Session.listing_exact`). -/
namespace RouteTemplate

theorem SortedSet.pairwise_toList {α : Type} [Ord α] {before : α → α → Prop}
    (h : ∀ a b : α, compare a b = .lt ↔ before a b) (s : SortedSet α) : s.toList.Pairwise before := by
  apply s.ascending.imp
  intro a b less
  exact (h a b).mp less

namespace ResolveTree

variable {t : ResolveTree} {l : Leaf} {shape : Shape}

theorem mem_enumerate_iff : l ∈ t.enumerate.toList ↔ ∃ runs, Way t runs l := by
  rw [enumerate, SortedSet.mem_toList, SortedSet.mem_ofList, mem_leaves_iff]

theorem mem_shapes_iff : shape ∈ t.shapes.toList ↔ ∃ runs l, Way t runs l ∧ l.shape = shape := by
  rw [shapes, SortedSet.mem_toList, SortedSet.mem_ofList, List.mem_map]
  simp only [mem_enumerate_iff]
  constructor
  · intro h
    obtain ⟨l, ⟨runs, way⟩, same⟩ := h
    exact ⟨runs, l, way, same⟩
  · intro h
    obtain ⟨runs, l, way, same⟩ := h
    exact ⟨l, ⟨runs, way⟩, same⟩

end ResolveTree

namespace Session

open ResolveTree

variable {s : Session} {m : Method}

theorem Kept.shapes (h : s.Kept) (hm : m ∈ s.registry.methods) :
    (s.shapes m.name).1 = .ok ((build m.endpoint).enumerate.toList.map Leaf.display) := by
  have found : s.registry.find? m.name = some m := h.coherent.find?_eq_some_iff.mpr ⟨hm, rfl⟩
  have built : (s.tree m).1 = build m.endpoint := (h.tree hm).1
  rw [Session.shapes, found]
  show Except.ok ((s.tree m).1.enumerate.toList.map Leaf.display) = _
  rw [built]

/-- **Listings are complete and in order.** Leaves are compared by their paths, with literals before parameters, then
    by their queries in the order of names, then by the keys they take and those they do not take, and texts by code
    point. This is a strict total order, in which just equal leaves compare equal. A tree enumerates exactly the leaves
    to which a way leads in it, and its shapes are exactly those of its leaves, both in strictly ascending order. So a
    session after any run lists a method of its own by one line for each leaf of the tree. -/
theorem listing_exact :
    (∀ a b : Leaf, (compare a b = .lt ↔ a.Before b) ∧ (compare a b = .eq ↔ a = b) ∧
      (compare a b = .gt ↔ b.Before a)) ∧
    IsStrictTotalOrder Leaf Leaf.Before ∧ IsStrictTotalOrder Shape Shape.Before ∧
    (∀ t : ResolveTree,
      (t.enumerate.toList.Pairwise Leaf.Before ∧ ∀ l, l ∈ t.enumerate.toList ↔ ∃ runs, Way t runs l) ∧
      t.shapes.toList.Pairwise Shape.Before ∧
        ∀ shape, shape ∈ t.shapes.toList ↔ ∃ runs l, Way t runs l ∧ l.shape = shape) ∧
    ∀ (root : Text) (ops : List Operation), ∀ m ∈ ((start root).performAll ops).2.registry.methods,
      (build m.endpoint).enumerate.toList.Perm (build m.endpoint).leaves ∧
      (((start root).performAll ops).2.shapes m.name).1 =
        .ok ((build m.endpoint).enumerate.toList.map Leaf.display) := by
  refine ⟨?order, strictTotalOrder_of_compare Leaf.compare_eq_lt_iff,
    strictTotalOrder_of_compare Shape.compare_eq_lt_iff, ?sets, ?lines⟩
  case order =>
    intro a b
    refine ⟨Leaf.compare_eq_lt_iff a b, Std.LawfulEqOrd.compare_eq_iff_eq, ?_⟩
    rw [← Leaf.compare_eq_lt_iff]
    exact Std.OrientedCmp.gt_iff_lt
  case sets =>
    intro t
    exact ⟨⟨t.enumerate.pairwise_toList Leaf.compare_eq_lt_iff, fun _ => mem_enumerate_iff⟩,
      t.shapes.pairwise_toList Shape.compare_eq_lt_iff, fun _ => mem_shapes_iff⟩
  case lines =>
    intro root ops m hm
    have kept : ((start root).performAll ops).2.Kept := (kept_start root).performAll ops
    exact ⟨SortedSet.perm_toList_ofList nodup_leaves_build, kept.shapes hm⟩

end Session

end RouteTemplate
