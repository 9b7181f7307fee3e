import Mathlib.Data.List.Perm.Basic
import RouteTemplate.Proofs.ResolveTree.FirstMatch

/- Leaves and sets of present keys.

   A set of present keys is consistent with a leaf when it holds all keys the leaf takes and none that the
   leaf does not take. Every set is consistent with exactly one leaf of an endpoint's tree, and the path of
   that leaf is what the endpoint keeps of its path for the set (`exists_filter_consistent_build`): growing
   the tree and dropping parts for one set read the same guards, the first for all sets at once. A leaf is
   the one for the keys it takes, so no leaf stands in a tree twice (`nodup_leaves_build`). -/
namespace RouteTemplate

/-- Does the set hold every key the leaf takes, and none that it does not take? -/
def Leaf.consistent (present : Text → Bool) (l : Leaf) : Bool :=
  l.taken.toList.all present && l.untaken.toList.all fun key => !present key

theorem Leaf.consistent_iff {present : Text → Bool} {l : Leaf} : l.consistent present = true ↔
    (∀ key ∈ l.taken, present key = true) ∧ ∀ key ∈ l.untaken, present key = false := by
  simp [consistent, SortedSet.mem_toList]

theorem Leaf.consistent_takes {l : Leaf} (h : Apart l.taken l.untaken) : l.consistent l.takes = true := by
  refine consistent_iff.mpr ⟨fun key hk => decide_eq_true hk, fun key hk => decide_eq_false fun ht => ?_⟩
  exact h key ht hk

/-! ## The atoms that are kept -/

/-- The atoms of the parts all of whose guards are present. -/
def keptAtoms (present : Text → Bool) (parts : List Part) : List Atom :=
  (parts.filter (·.kept present)).map (·.atom)

section
variable {present : Text → Bool} {key : Text} {guards : List Text} {atom : Atom} {rest : List Part}

theorem keptAtoms_bare : keptAtoms present (⟨[], atom⟩ :: rest) = atom :: keptAtoms present rest := by
  simp [keptAtoms, List.filter_cons, Part.kept]

theorem keptAtoms_present (h : present key = true) : keptAtoms present (⟨key :: guards, atom⟩ :: rest) =
    keptAtoms present (⟨guards, atom⟩ :: rest) := by
  simp only [keptAtoms, List.filter_cons, Part.kept, List.all_cons, h, Bool.true_and]
  split <;> rfl

theorem keptAtoms_absent (h : present key = false) :
    keptAtoms present (⟨key :: guards, atom⟩ :: rest) = keptAtoms present rest := by
  simp [keptAtoms, Part.kept, h]

end

theorem path_keep_eq (present : Text → Bool) (e : Endpoint) :
    (e.keep present).path = (keptAtoms present e.path).map fun atom => ⟨[], atom⟩ := by
  simp [Endpoint.keep, keptAtoms, Part.bare]

namespace ResolveTree

/-! ## One leaf for each set -/

/-- Of the leaves grown from the parts, a set that goes with the decisions made before is consistent with
    one, and this one's path ends in the atoms kept for the set. -/
theorem exists_filter_consistent_grow (query : List Entry) {present : Text → Bool} {above run : List Atom}
    {taken untaken : SortedSet Text} {parts : List Part} (ht : ∀ key ∈ taken, present key = true)
    (hu : ∀ key ∈ untaken, present key = false) :
    ∃ l, (grow query above run taken untaken parts).leaves.filter (Leaf.consistent present) = [l] ∧
      l.shape.path = above ++ run ++ keptAtoms present parts := by
  induction above, run, taken, untaken, parts using grow_induction with
  | nil above run taken untaken =>
    refine ⟨⟨⟨above ++ run, Rule.table taken untaken query⟩, taken, untaken⟩, ?_, by simp [keptAtoms]⟩
    rw [leaves_grow_nil, List.filter_cons_of_pos (Leaf.consistent_iff.mpr ⟨ht, hu⟩), List.filter_nil]
  | bare above run taken untaken atom rest ih =>
    obtain ⟨l, only, path⟩ := ih ht hu
    refine ⟨l, by rw [grow_bare, only], ?_⟩
    rw [path, keptAtoms_bare]
    simp
  | taken above run taken untaken key guards atom rest h ih =>
    obtain ⟨l, only, path⟩ := ih ht hu
    exact ⟨l, by rw [grow_taken _ _ _ _ _ _ h, only], by rw [path, keptAtoms_present (ht key h)]⟩
  | untaken above run taken untaken key guards atom rest h hk ih =>
    obtain ⟨l, only, path⟩ := ih ht hu
    exact ⟨l, by rw [grow_untaken _ _ _ _ _ _ h hk, only], by rw [path, keptAtoms_absent (hu key hk)]⟩
  | fork above run taken untaken key guards atom rest h hk yes no =>
    have hd : Apart taken untaken := fun k hkt hku => by simpa [ht k hkt] using hu k hku
    rw [leaves_grow_fork _ _ _ _ _ _ h hk, List.filter_append]
    cases hp : present key with
    | true =>
      -- No leaf on the other side is consistent: it does not take the key.
      have none_right : (passing key query above run taken untaken rest).leaves.filter
          (Leaf.consistent present) = [] := by
        apply List.filter_eq_nil_iff.mpr
        intro l hl hc
        obtain ⟨hk, -⟩ := mem_untaken_of_mem_leaves query (hd.insert_untaken h) hl SortedSet.mem_insert_self
        simpa [hp] using (Leaf.consistent_iff.mp hc).2 key hk
      obtain ⟨l, only, path⟩ := yes (fun k hm => by
        rcases SortedSet.mem_insert.mp hm with rfl | hm
        · exact hp
        · exact ht k hm) hu
      refine ⟨l, by rw [only, none_right, List.append_nil], ?_⟩
      rw [path, keptAtoms_present hp, List.append_nil]
    | false =>
      have none_left : (taking key query above run taken untaken guards atom rest).leaves.filter
          (Leaf.consistent present) = [] := by
        apply List.filter_eq_nil_iff.mpr
        intro l hl hc
        have taken_here := mem_taken_of_mem_leaves query (hd.insert_taken hk) hl SortedSet.mem_insert_self
        simpa [hp] using (Leaf.consistent_iff.mp hc).1 key taken_here
      obtain ⟨l, only, path⟩ := no ht (fun k hm => by
        rcases SortedSet.mem_insert.mp hm with rfl | hm
        · exact hp
        · exact hu k hm)
      refine ⟨l, by rw [none_left, only, List.nil_append], ?_⟩
      rw [path, keptAtoms_absent hp, List.append_nil]

variable (e : Endpoint)

theorem exists_filter_consistent_build (present : Text → Bool) :
    ∃ l, (build e).leaves.filter (Leaf.consistent present) = [l] ∧ l.shape.path = keptAtoms present e.path :=
  exists_filter_consistent_grow e.query (fun _ h => absurd h (SortedSet.not_mem_empty _))
    fun _ h => absurd h (SortedSet.not_mem_empty _)

variable {e}

theorem filter_consistent_eq {present : Text → Bool} {l : Leaf} (hl : l ∈ (build e).leaves)
    (hc : l.consistent present = true) :
    (build e).leaves.filter (Leaf.consistent present) = [l] ∧ l.shape.path = keptAtoms present e.path := by
  obtain ⟨l', only, path⟩ := exists_filter_consistent_build e present
  have hm : l ∈ (build e).leaves.filter (Leaf.consistent present) := List.mem_filter.mpr ⟨hl, hc⟩
  rw [only, List.mem_singleton] at hm
  subst hm
  exact ⟨only, path⟩

/-- No leaf precedes itself, so none stands in the tree twice. -/
theorem nodup_leaves_build : (build e).leaves.Nodup := by
  apply (pairwise_precedes_build e).imp_of_mem
  intro l m hl _ hp heq
  subst heq
  exact hp.asymm (apart_of_mem_build hl) (apart_of_mem_build hl) hp

end ResolveTree

/-! ## Counting a set -/

theorem SortedSet.nodup_toList {α : Type} [Ord α] [Std.TransOrd α] (s : SortedSet α) : s.toList.Nodup := by
  apply s.ascending.imp
  intro a b h heq
  rw [heq, Std.ReflOrd.compare_self] at h
  cases h

theorem SortedSet.perm_toList_ofList {α : Type} [Ord α] [Std.TransOrd α] [Std.LawfulEqOrd α] {l : List α}
    (h : l.Nodup) : (SortedSet.ofList l).toList.Perm l :=
  (List.perm_ext_iff_of_nodup (SortedSet.nodup_toList _) h).mpr fun _ => SortedSet.mem_ofList

theorem SortedSet.length_toList_ofList {α : Type} [Ord α] [Std.TransOrd α] [Std.LawfulEqOrd α] {l : List α}
    (h : l.Nodup) : (SortedSet.ofList l).toList.length = l.length :=
  (SortedSet.perm_toList_ofList h).length_eq

namespace ResolveTree

/-- **Leaves are the ways in which keys may be present.** For each set of present keys one leaf is consistent
    with it, and its path is the path that the endpoint keeps. Each leaf arises so, from the keys it takes.
    Hence the leaves differ from each other, and there are as many in the tree as in their set. -/
theorem leaves_build_by_presence (e : Endpoint) :
    (∀ present : Text → Bool, ∃ l, (build e).leaves.filter (Leaf.consistent present) = [l] ∧
      (e.keep present).path = l.shape.path.map fun atom => ⟨[], atom⟩) ∧
    (∀ l ∈ (build e).leaves, (∀ key ∈ l.taken, key ∉ l.untaken) ∧
      (build e).leaves.filter (Leaf.consistent fun key => decide (key ∈ l.taken)) = [l] ∧
      (e.keep fun key => decide (key ∈ l.taken)).path = l.shape.path.map fun atom => ⟨[], atom⟩) ∧
    (build e).leaves.Nodup ∧
    (build e).leafCount = (build e).enumerate.toList.length := by
  refine ⟨fun present => ?_, fun l hl => ⟨apart_of_mem_build hl, ?_, ?_⟩, nodup_leaves_build, ?_⟩
  · obtain ⟨l, only, path⟩ := exists_filter_consistent_build e present
    exact ⟨l, only, by rw [path_keep_eq, path]⟩
  · exact (filter_consistent_eq hl (Leaf.consistent_takes (apart_of_mem_build hl))).1
  · rw [path_keep_eq, (filter_consistent_eq hl (Leaf.consistent_takes (apart_of_mem_build hl))).2]
    rfl
  · exact (SortedSet.length_toList_ofList nodup_leaves_build).symm

end ResolveTree

end RouteTemplate
