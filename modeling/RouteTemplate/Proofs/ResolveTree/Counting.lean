import Mathlib.Data.Finset.Powerset
import RouteTemplate.Proofs.FirstAppearance
import RouteTemplate.Proofs.ResolveTree.Decided
import RouteTemplate.Proofs.ResolveTree.Presence

/- How many shapes an endpoint has.

   A leaf is known by the keys it takes, so a tree has as many leaves as there are sets of keys that some leaf takes
   (`ResolveTree.card_takenSets`). A set is taken by a leaf exactly when each of its keys guards some path part with
   nothing but keys of the set around it (`ResolveTree.mem_takenSets`), which is a matter of the path alone. Of such
   sets there is at least one of each size, since to a set that lacks a key of the path another key can be added
   (`Endpoint.Feasible.extend`); and all sets of path keys are such when each key is the outermost guard of some part.
   So between one more than the keys of the path and two to their number are the leaves
   (`ResolveTree.leafCount_build_bounds`). -/
namespace RouteTemplate

/-! ## Sets of keys that lead to themselves -/

namespace Endpoint

/-- Every key that guards a path part, at its first appearance. -/
def pathKeys (e : Endpoint) : List Text := (e.path.flatMap (·.guards)).eraseDups

/-- Each of the keys guards some path part with none but these keys around it. -/
def Feasible (e : Endpoint) (keys : Finset Text) : Prop :=
  ∀ key ∈ keys, ∃ p ∈ e.path, ∃ outer inner, p.guards = outer ++ key :: inner ∧ ∀ k ∈ outer, k ∈ keys

variable {e : Endpoint} {keys : Finset Text} {key : Text}

theorem mem_pathKeys : key ∈ e.pathKeys ↔ ∃ p ∈ e.path, key ∈ p.guards := by
  rw [pathKeys, List.mem_eraseDups, List.mem_flatMap]

theorem card_pathKeys (e : Endpoint) : e.pathKeys.toFinset.card = e.pathKeys.length :=
  List.toFinset_card_of_nodup (nodup_eraseDups _)

namespace Feasible

theorem empty (e : Endpoint) : e.Feasible ∅ := fun _ h => absurd h (Finset.notMem_empty _)

theorem subset (h : e.Feasible keys) : keys ⊆ e.pathKeys.toFinset := by
  intro key hk
  obtain ⟨p, hp, outer, inner, hguards, -⟩ := h key hk
  rw [List.mem_toFinset, mem_pathKeys]
  exact ⟨p, hp, by simp [hguards]⟩

/-- Where a key of the path is missing, the first of the missing guards of a part can be added. -/
theorem extend (h : e.Feasible keys) (missing : ∃ key ∈ e.pathKeys, key ∉ keys) :
    ∃ key, key ∉ keys ∧ e.Feasible (insert key keys) := by
  obtain ⟨some_key, path_key, absent⟩ := missing
  obtain ⟨p, hp, guard⟩ := mem_pathKeys.mp path_key
  obtain ⟨key, first⟩ : ∃ key, p.guards.find? (· ∉ keys) = some key :=
    Option.isSome_iff_exists.mp (List.find?_isSome.mpr ⟨some_key, guard, decide_eq_true absent⟩)
  obtain ⟨new, outer, inner, hguards, before⟩ := List.find?_eq_some_iff_append.mp first
  refine ⟨key, of_decide_eq_true new, fun k hk => ?_⟩
  rcases Finset.mem_insert.mp hk with rfl | hk
  · exact ⟨p, hp, outer, inner, hguards, fun k hk => Finset.mem_insert_of_mem (by simpa using before k hk)⟩
  · obtain ⟨q, hq, outer', inner', hguards', within⟩ := h k hk
    exact ⟨q, hq, outer', inner', hguards', fun j hj => Finset.mem_insert_of_mem (within j hj)⟩

end Feasible

theorem exists_feasible_card (e : Endpoint) : ∀ n ≤ e.pathKeys.length, ∃ keys, e.Feasible keys ∧ keys.card = n
  | 0, _ => ⟨∅, .empty e, Finset.card_empty⟩
  | n + 1, hn => by
    obtain ⟨keys, feasible, card⟩ := exists_feasible_card e n (Nat.le_of_succ_le hn)
    have missing : ∃ key ∈ e.pathKeys, key ∉ keys := by
      by_contra! all
      have subset : e.pathKeys.toFinset ⊆ keys := fun key hk => all key (List.mem_toFinset.mp hk)
      have := Finset.card_le_card subset
      rw [card_pathKeys] at this
      omega
    obtain ⟨key, new, extended⟩ := feasible.extend missing
    exact ⟨insert key keys, extended, by rw [Finset.card_insert_of_notMem new, card]⟩

/-- All sets of path keys lead to themselves exactly when each key is the outermost guard of some part. -/
theorem feasible_of_outermost_iff (e : Endpoint) : (∀ keys ⊆ e.pathKeys.toFinset, e.Feasible keys) ↔
    ∀ key ∈ e.pathKeys, ∃ p ∈ e.path, p.guards.head? = some key := by
  refine ⟨fun all key hk => ?_, fun outermost keys hkeys key hk => ?_⟩
  · -- A key that leads to itself alone has no other guard around it.
    have alone : e.Feasible {key} := all {key} (by simpa using hk)
    obtain ⟨p, hp, outer, inner, hguards, within⟩ := alone key (Finset.mem_singleton_self key)
    refine ⟨p, hp, ?_⟩
    cases outer with
    | nil => rw [hguards, List.nil_append, List.head?_cons]
    | cons k outer =>
      rw [hguards, List.cons_append, List.head?_cons, Finset.mem_singleton.mp (within k List.mem_cons_self)]
  · obtain ⟨p, hp, head⟩ := outermost key (List.mem_toFinset.mp (hkeys hk))
    obtain ⟨inner, hguards⟩ := List.head?_eq_some_iff.mp head
    exact ⟨p, hp, [], inner, hguards, by simp⟩

end Endpoint

/-! ## The sets that leaves take -/

/-- The keys a leaf takes, as a finite set. -/
def Leaf.takenKeys (l : Leaf) : Finset Text := l.taken.toList.toFinset

theorem Leaf.mem_takenKeys {l : Leaf} {key : Text} : key ∈ l.takenKeys ↔ key ∈ l.taken := by
  rw [takenKeys, List.mem_toFinset, SortedSet.mem_toList]

namespace ResolveTree

variable {e : Endpoint} {l m : Leaf} {keys : Finset Text}

/-- The sets of keys that the leaves of a tree take. -/
def takenSets (e : Endpoint) : Finset (Finset Text) := ((build e).leaves.map Leaf.takenKeys).toFinset

/-- A leaf decides the keys that the path asks about when the keys it takes are present. -/
theorem decided_iff_asked (hl : l ∈ (build e).leaves) (key : Text) :
    (key ∈ l.taken ∨ key ∈ l.untaken) ↔ key ∈ askedKeys l.takes e.path := by
  rw [decided_iff_asked_grow e.query apart_empty l hl key]
  simp [SortedSet.not_mem_empty]

theorem feasible_takenKeys (hl : l ∈ (build e).leaves) : e.Feasible l.takenKeys := by
  intro key hk
  obtain ⟨p, hp, outer, inner, hguards, within⟩ :=
    mem_askedKeys.mp ((decided_iff_asked hl key).mp (.inl (Leaf.mem_takenKeys.mp hk)))
  exact ⟨p, hp, outer, inner, hguards, fun k hk => Leaf.mem_takenKeys.mpr (of_decide_eq_true (within k hk))⟩

theorem mem_taken_of_prefix (hl : l ∈ (build e).leaves) {p : Part} (hp : p ∈ e.path) {outer : List Text}
    (ho : outer <+: p.guards) (free : ∀ k ∈ outer, k ∉ l.untaken) : ∀ k ∈ outer, k ∈ l.taken := by
  induction outer using List.reverseRecOn with
  | nil => simp
  | append_singleton outer key ih =>
    obtain ⟨inner, hguards⟩ := ho
    rw [List.append_assoc, List.singleton_append] at hguards
    have around : ∀ k ∈ outer, k ∈ l.taken := ih ⟨_, hguards⟩ fun k hk => free k (List.mem_append_left _ hk)
    have asked : key ∈ askedKeys l.takes e.path :=
      mem_askedKeys.mpr ⟨p, hp, outer, inner, hguards.symm, fun k hk => decide_eq_true (around k hk)⟩
    have here : key ∈ l.taken := ((decided_iff_asked hl key).mpr asked).resolve_right (free key (by simp))
    intro k hk
    rcases List.mem_append.mp hk with hk | hk
    · exact around k hk
    · rwa [List.mem_singleton.mp hk]

theorem exists_leaf_of_feasible (h : e.Feasible keys) : ∃ l ∈ (build e).leaves, l.takenKeys = keys := by
  obtain ⟨l, only, -⟩ := exists_filter_consistent_build e fun key => decide (key ∈ keys)
  have hm : l ∈ (build e).leaves.filter (Leaf.consistent fun key => decide (key ∈ keys)) := by simp [only]
  obtain ⟨hl, consistent⟩ := List.mem_filter.mp hm
  obtain ⟨present, absent⟩ := Leaf.consistent_iff.mp consistent
  refine ⟨l, hl, Finset.ext fun key => ?_⟩
  rw [Leaf.mem_takenKeys]
  refine ⟨fun hk => of_decide_eq_true (present key hk), fun hk => ?_⟩
  obtain ⟨p, hp, outer, inner, hguards, within⟩ := h key hk
  have free : ∀ k ∈ outer ++ [key], k ∉ l.untaken := by
    intro k hm hu
    have member : k ∈ keys := by
      rcases List.mem_append.mp hm with hm | hm
      · exact within k hm
      · rwa [List.mem_singleton.mp hm]
    exact of_decide_eq_false (absent k hu) member
  exact mem_taken_of_prefix hl hp ⟨inner, by simp [hguards]⟩ free key (by simp)

theorem mem_takenSets : keys ∈ takenSets e ↔ e.Feasible keys := by
  rw [takenSets, List.mem_toFinset, List.mem_map]
  refine ⟨?_, exists_leaf_of_feasible⟩
  intro h
  obtain ⟨l, hl, rfl⟩ := h
  exact feasible_takenKeys hl

theorem eq_of_takenKeys (hl : l ∈ (build e).leaves) (hm : m ∈ (build e).leaves) (h : l.takenKeys = m.takenKeys) :
    l = m := by
  have same : l.takes = m.takes := by
    funext key
    rw [Leaf.takes, Leaf.takes, decide_eq_decide, ← Leaf.mem_takenKeys, ← Leaf.mem_takenKeys, h]
  have left := (filter_consistent_eq hl (Leaf.consistent_takes (apart_of_mem_build hl))).1
  have right := (filter_consistent_eq hm (Leaf.consistent_takes (apart_of_mem_build hm))).1
  rw [same, right] at left
  exact (List.singleton_inj.mp left).symm

theorem card_takenSets (e : Endpoint) : (takenSets e).card = (build e).leafCount := by
  have distinct : ((build e).leaves.map Leaf.takenKeys).Nodup :=
    nodup_leaves_build.map_on fun _ hl _ hm h => eq_of_takenKeys hl hm h
  rw [takenSets, List.toFinset_card_of_nodup distinct, List.length_map, leafCount]

theorem takenSets_subset (e : Endpoint) : takenSets e ⊆ e.pathKeys.toFinset.powerset :=
  fun _ h => Finset.mem_powerset.mpr (mem_takenSets.mp h).subset

theorem card_powerset_pathKeys (e : Endpoint) : e.pathKeys.toFinset.powerset.card = 2 ^ e.pathKeys.length := by
  rw [Finset.card_powerset, Endpoint.card_pathKeys]

theorem range_subset_card_takenSets (e : Endpoint) :
    Finset.range (e.pathKeys.length + 1) ⊆ (takenSets e).image Finset.card := by
  intro n hn
  obtain ⟨keys, feasible, card⟩ := e.exists_feasible_card n (Nat.lt_succ_iff.mp (Finset.mem_range.mp hn))
  exact Finset.mem_image.mpr ⟨keys, mem_takenSets.mpr feasible, card⟩

/-- **How many leaves a tree has.** When the path mentions `n` keys, at whatever depth, its tree has at least `n + 1`
    leaves and at most `2 ^ n`. It has `2 ^ n` exactly when each of the keys is the outermost guard of some path part.
    The query has no part in this, whatever keys occur in it. -/
theorem leafCount_build_bounds (e : Endpoint) :
    e.pathKeys.length + 1 ≤ (build e).leafCount ∧
    (build e).leafCount ≤ 2 ^ e.pathKeys.length ∧
    ((build e).leafCount = 2 ^ e.pathKeys.length ↔ ∀ key ∈ e.pathKeys, ∃ p ∈ e.path, p.guards.head? = some key) ∧
    ∀ query, (build ⟨e.path, query⟩).leafCount = (build e).leafCount := by
  simp only [← card_takenSets]
  refine ⟨?lower, ?upper, ?exact, fun query => ?query⟩
  case lower =>
    calc e.pathKeys.length + 1
        = (Finset.range (e.pathKeys.length + 1)).card := (Finset.card_range _).symm
      _ ≤ ((takenSets e).image Finset.card).card := Finset.card_le_card (range_subset_card_takenSets e)
      _ ≤ (takenSets e).card := Finset.card_image_le
  case upper =>
    rw [← card_powerset_pathKeys]
    exact Finset.card_le_card (takenSets_subset e)
  case exact =>
    -- A part of the sets of path keys is all of them exactly when it has their number.
    have all : takenSets e = e.pathKeys.toFinset.powerset ↔ ∀ keys ⊆ e.pathKeys.toFinset, e.Feasible keys := by
      simp only [← mem_takenSets]
      refine ⟨fun heq keys hk => heq ▸ Finset.mem_powerset.mpr hk, fun h => ?_⟩
      exact Finset.Subset.antisymm (takenSets_subset e) fun keys hk => h keys (Finset.mem_powerset.mp hk)
    rw [← Endpoint.feasible_of_outermost_iff, ← all, ← card_powerset_pathKeys]
    refine ⟨fun h => Finset.eq_of_subset_of_card_le (takenSets_subset e) h.ge, fun h => by rw [h]⟩
  case query =>
    refine congrArg Finset.card (Finset.ext fun keys => ?_)
    rw [mem_takenSets, mem_takenSets]
    rfl

/-- Of two keys, one inside the other leaves the fewest shapes, and one beside the other the most:
    `[?a:[?b:x]]` and `[?a:x]/[?b:y]`. -/
example :
    (build ⟨[⟨["a".toList, "b".toList], .literal "x".toList⟩], []⟩).leafCount = 2 + 1 ∧
      (build ⟨[⟨["a".toList], .literal "x".toList⟩, ⟨["b".toList], .literal "y".toList⟩], []⟩).leafCount = 2 ^ 2 := by
  decide +kernel

end ResolveTree

end RouteTemplate
