import RouteTemplate.Proofs.ResolveTree.FirstMatch

/- Which keys a leaf decides.

   A guard is asked about once all guards outside it are present (`mem_askedGuards`). A tree forks at a key when a part
   asks about it for the first time, so what a leaf takes or does not take is what was decided before the tree was
   grown, and the keys that the parts ask about when those the leaf takes are present
   (`ResolveTree.decided_iff_asked_grow`). In the tree of an endpoint nothing is decided before: a key is decided on the
   way to a leaf exactly when a chain of taken keys leads to it in the path (`ResolveTree.decided_iff_reached`). -/
namespace RouteTemplate

section
variable {present : Text → Bool} {key : Text}

theorem mem_askedGuards : ∀ {guards : List Text}, key ∈ askedGuards present guards ↔
    ∃ outer inner, guards = outer ++ key :: inner ∧ ∀ k ∈ outer, present k = true
  | [] => by simp [askedGuards]
  | first :: guards => by
    -- The key is the first guard, or stands further in; to get there the first guard must be present.
    have split : (∃ outer inner, first :: guards = outer ++ key :: inner ∧ ∀ k ∈ outer, present k = true) ↔
        key = first ∨ (present first = true ∧
          ∃ outer inner, guards = outer ++ key :: inner ∧ ∀ k ∈ outer, present k = true) := by
      refine ⟨?_, ?_⟩
      · intro h
        obtain ⟨outer, inner, heq, hall⟩ := h
        cases outer with
        | nil => exact .inl (List.cons.inj heq).1.symm
        | cons k outer =>
          obtain ⟨rfl, rfl⟩ := List.cons.inj heq
          exact .inr ⟨hall first List.mem_cons_self, outer, inner, rfl, fun k hk => hall k (List.mem_cons_of_mem _ hk)⟩
      · intro h
        rcases h with rfl | ⟨hfirst, outer, inner, rfl, hall⟩
        · exact ⟨[], guards, rfl, by simp⟩
        · exact ⟨first :: outer, inner, rfl, List.forall_mem_cons.mpr ⟨hfirst, hall⟩⟩
    rw [split, ← mem_askedGuards, askedGuards]
    cases present first <;> simp

theorem mem_askedKeys {parts : List Part} : key ∈ askedKeys present parts ↔
    ∃ p ∈ parts, ∃ outer inner, p.guards = outer ++ key :: inner ∧ ∀ k ∈ outer, present k = true := by
  simp only [askedKeys, List.mem_flatMap, mem_askedGuards]

end

namespace ResolveTree

/-- A leaf decides what was decided before, and what the parts ask about when the keys it takes are present. -/
theorem decided_iff_asked_grow (query : List Entry) {above run : List Atom} {taken untaken : SortedSet Text}
    {parts : List Part} (hd : Apart taken untaken) : ∀ l ∈ (grow query above run taken untaken parts).leaves, ∀ key,
      (key ∈ l.taken ∨ key ∈ l.untaken) ↔ (key ∈ taken ∨ key ∈ untaken) ∨ key ∈ askedKeys l.takes parts := by
  induction above, run, taken, untaken, parts using grow_induction with
  | nil above run taken untaken =>
    intro l hl key
    rw [leaves_grow_nil, List.mem_singleton] at hl
    subst hl
    simp [askedKeys]
  | bare above run taken untaken atom rest ih =>
    rw [grow_bare]
    exact ih hd
  | taken above run taken untaken first guards atom rest h ih =>
    rw [grow_taken _ _ _ _ _ _ h]
    intro l hl key
    -- Asking again about a key already taken decides nothing more.
    have absorbed : key = first → key ∈ taken ∨ key ∈ untaken := fun heq => .inl (heq ▸ h)
    rw [ih hd l hl key, askedKeys_taken (mem_taken_of_mem_leaves query hd hl h), List.mem_cons, ← or_assoc,
      or_iff_left_of_imp absorbed]
  | untaken above run taken untaken first guards atom rest h hu ih =>
    rw [grow_untaken _ _ _ _ _ _ h hu]
    intro l hl key
    obtain ⟨-, not_taken⟩ := mem_untaken_of_mem_leaves query hd hl hu
    have absorbed : key = first → key ∈ taken ∨ key ∈ untaken := fun heq => .inr (heq ▸ hu)
    rw [ih hd l hl key, askedKeys_untaken not_taken, List.mem_cons, ← or_assoc, or_iff_left_of_imp absorbed]
  | fork above run taken untaken first guards atom rest h hu yes no =>
    rw [leaves_grow_fork _ _ _ _ _ _ h hu]
    intro l hl key
    -- On both sides the key of the fork is decided first, one way or the other.
    rcases List.mem_append.mp hl with hl | hl
    · have taken_here := mem_taken_of_mem_leaves query (hd.insert_taken hu) hl SortedSet.mem_insert_self
      rw [yes (hd.insert_taken hu) l hl key, askedKeys_taken taken_here, List.mem_cons, SortedSet.mem_insert,
        or_assoc (a := key = first), or_assoc (a := key = first), or_left_comm]
    · obtain ⟨-, not_taken⟩ :=
        mem_untaken_of_mem_leaves query (hd.insert_untaken h) hl SortedSet.mem_insert_self
      rw [no (hd.insert_untaken h) l hl key, askedKeys_untaken not_taken, List.mem_cons, SortedSet.mem_insert,
        or_left_comm (a := key ∈ taken), or_assoc (a := key = first), or_left_comm]

variable {e : Endpoint} {l : Leaf}

/-- **The keys decided are those that taken keys lead to.** On the way to a leaf a key is decided exactly when it guards
    some path part, at some depth, with all keys outside it taken by the leaf; and it is decided one way only. So a key
    that guards no path part, whatever it guards in the query, is left open by every leaf. -/
theorem decided_iff_reached (hl : l ∈ (build e).leaves) :
    (∀ key, (key ∈ l.taken ∨ key ∈ l.untaken) ↔
      ∃ p ∈ e.path, ∃ outer inner, p.guards = outer ++ key :: inner ∧ ∀ k ∈ outer, k ∈ l.taken) ∧
    (∀ key, ¬(key ∈ l.taken ∧ key ∈ l.untaken)) ∧
    ∀ key, (∀ p ∈ e.path, key ∉ p.guards) → key ∉ l.taken ∧ key ∉ l.untaken := by
  have reached : ∀ key, (key ∈ l.taken ∨ key ∈ l.untaken) ↔
      ∃ p ∈ e.path, ∃ outer inner, p.guards = outer ++ key :: inner ∧ ∀ k ∈ outer, k ∈ l.taken := by
    intro key
    have nothing : ¬(key ∈ (.empty : SortedSet Text) ∨ key ∈ (.empty : SortedSet Text)) := by
      simp [SortedSet.not_mem_empty]
    rw [decided_iff_asked_grow e.query apart_empty l hl key, or_iff_right nothing, mem_askedKeys]
    simp only [Leaf.takes, decide_eq_true_eq]
  refine ⟨reached, fun key h => apart_of_mem_build hl key h.1 h.2, fun key free => ?_⟩
  rw [← not_or, reached]
  intro h
  obtain ⟨p, hp, outer, inner, hguards, -⟩ := h
  exact free p hp (by simp [hguards])

/-- `[?a:[?b:x]]/[?c:[?b:y]]?[?d:q=1]` -/
def crossed : Endpoint where
  path := [⟨["a".toList, "b".toList], .literal "x".toList⟩, ⟨["c".toList, "b".toList], .literal "y".toList⟩]
  query := [⟨"q".toList, ["d".toList], .literal "1".toList⟩]

/-- The leaf that does not take `a`, and comes to `b` by taking `c`. -/
def crossedSecond : Leaf where
  shape := ⟨[.literal "y".toList], Rule.table (.ofList ["b".toList, "c".toList]) (.ofList ["a".toList]) crossed.query⟩
  taken := .ofList ["b".toList, "c".toList]
  untaken := .ofList ["a".toList]

theorem decided_iff_reached_crossed : crossedSecond ∈ (build crossed).leaves ∧
    ("b".toList ∈ crossedSecond.taken ∨ "b".toList ∈ crossedSecond.untaken) ∧
    ¬("a".toList ∈ crossedSecond.taken ∧ "a".toList ∈ crossedSecond.untaken) ∧
    "d".toList ∉ crossedSecond.taken ∧ "d".toList ∉ crossedSecond.untaken := by
  have hl : crossedSecond ∈ (build crossed).leaves := by decide +kernel
  obtain ⟨reached, once, unreached⟩ := decided_iff_reached hl
  refine ⟨hl, (reached "b".toList).mpr ?_, once "a".toList, unreached "d".toList (by decide)⟩
  exact ⟨⟨["c".toList, "b".toList], .literal "y".toList⟩, by decide, ["c".toList], [], rfl, by decide⟩

end ResolveTree

end RouteTemplate
