import RouteTemplate.ResolveTree.Build
import RouteTemplate.Proofs.ResolveTree.Branches

/- How a resolve tree grows.

   `grow` reads the remaining parts with some keys taken and some not, and does one of five things: it ends
   in a leaf, it moves a bare part to the run, it looks inside a part whose key is taken, it skips a part
   whose key is not, or it forks at a key still undecided. `grow_nil` to `grow_fork` say what comes of each,
   the shortcut for parts without guards included, and `grow_induction` is the induction along them: what
   holds of a tree grown from parts is proved by looking at these five steps.

   `Grown` is what every branch of a grown tree has in common: its leaf has kept all earlier decisions, has
   no key both taken and not taken, carries as its path the atoms above and on the branch, and carries the
   rules of the query under its own decisions. -/
namespace RouteTemplate

/-- No key is in both sets. -/
def Apart (taken untaken : SortedSet Text) : Prop := ∀ key ∈ taken, key ∉ untaken

theorem apart_empty : Apart .empty .empty := fun _ h => absurd h (SortedSet.not_mem_empty _)

theorem Apart.insert_taken {taken untaken : SortedSet Text} {key : Text} (h : Apart taken untaken)
    (hk : key ∉ untaken) : Apart (taken.insert key) untaken := by
  intro k hm
  rcases SortedSet.mem_insert.mp hm with rfl | hm
  · exact hk
  · exact h k hm

theorem Apart.insert_untaken {taken untaken : SortedSet Text} {key : Text} (h : Apart taken untaken)
    (hk : key ∉ taken) : Apart taken (untaken.insert key) := by
  intro k hm hu
  rcases SortedSet.mem_insert.mp hu with rfl | hu
  · exact hk hm
  · exact h k hm hu

namespace ResolveTree

section
variable (query : List Entry) (above run : List Atom) (taken untaken : SortedSet Text)

/-! ## The five steps -/

theorem grow_nil : grow query above run taken untaken [] = tip query above run taken untaken := by
  rw [grow]
  simp

/-- A bare part goes to the run, also where the shortcut would end at once. -/
theorem grow_bare (atom : Atom) (rest : List Part) :
    grow query above run taken untaken (⟨[], atom⟩ :: rest) =
      grow query above (run ++ [atom]) taken untaken rest := by
  have head : (!(⟨[], atom⟩ : Part).isOptional) = true := rfl
  rw [grow]
  by_cases h : rest.all (!·.isOptional)
  · rw [if_pos (by rw [List.all_cons, head, h]; rfl), grow.eq_def query above (run ++ [atom]), if_pos h]
    simp
  · rw [if_neg (by rw [List.all_cons, head, Bool.true_and]; exact h)]

variable {taken untaken}
variable {key : Text} (guards : List Text) (atom : Atom) (rest : List Part)

theorem not_all_bare : ¬((⟨key :: guards, atom⟩ :: rest : List Part).all (!·.isOptional)) = true := by
  simp [Part.isOptional]

theorem grow_taken (h : key ∈ taken) : grow query above run taken untaken (⟨key :: guards, atom⟩ :: rest) =
    grow query above run taken untaken (⟨guards, atom⟩ :: rest) := by
  rw [grow, if_neg (not_all_bare guards atom rest)]
  simp only [if_pos h]

theorem grow_untaken (h : key ∉ taken) (hu : key ∈ untaken) :
    grow query above run taken untaken (⟨key :: guards, atom⟩ :: rest) =
      grow query above run taken untaken rest := by
  rw [grow, if_neg (not_all_bare guards atom rest)]
  simp only [if_neg h, if_pos hu]

/-- The tree below a key that is taken. -/
abbrev taking (key : Text) (query : List Entry) (above run : List Atom) (taken untaken : SortedSet Text)
    (guards : List Text) (atom : Atom) (rest : List Part) : ResolveTree :=
  grow query (above ++ run) [] (taken.insert key) untaken (⟨guards, atom⟩ :: rest)

/-- The tree below a key that is not taken. -/
abbrev passing (key : Text) (query : List Entry) (above run : List Atom) (taken untaken : SortedSet Text)
    (rest : List Part) : ResolveTree :=
  grow query (above ++ run) [] taken (untaken.insert key) rest

theorem grow_fork (h : key ∉ taken) (hu : key ∉ untaken) :
    grow query above run taken untaken (⟨key :: guards, atom⟩ :: rest) =
      under run (.fork ((taking key query above run taken untaken guards atom rest).options ++
        (passing key query above run taken untaken rest).options)) := by
  rw [grow, if_neg (not_all_bare guards atom rest)]
  simp only [if_neg h, if_neg hu]

end

/-- The induction along the five steps. -/
theorem grow_induction
    {motive : List Atom → List Atom → SortedSet Text → SortedSet Text → List Part → Prop}
    (nil : ∀ above run taken untaken, motive above run taken untaken [])
    (bare : ∀ above run taken untaken atom rest, motive above (run ++ [atom]) taken untaken rest →
      motive above run taken untaken (⟨[], atom⟩ :: rest))
    (taken : ∀ above run taken untaken key guards atom rest, key ∈ taken →
      motive above run taken untaken (⟨guards, atom⟩ :: rest) →
      motive above run taken untaken (⟨key :: guards, atom⟩ :: rest))
    (untaken : ∀ above run taken untaken key guards atom rest, key ∉ taken → key ∈ untaken →
      motive above run taken untaken rest → motive above run taken untaken (⟨key :: guards, atom⟩ :: rest))
    (fork : ∀ above run taken untaken key guards atom rest, key ∉ taken → key ∉ untaken →
      motive (above ++ run) [] (taken.insert key) untaken (⟨guards, atom⟩ :: rest) →
      motive (above ++ run) [] taken (untaken.insert key) rest →
      motive above run taken untaken (⟨key :: guards, atom⟩ :: rest)) :
    ∀ above run takenKeys untakenKeys parts, motive above run takenKeys untakenKeys parts := by
  -- Each step makes `size` smaller, looking inside a part by the guard that it takes off.
  have go : ∀ n parts, size parts = n → ∀ above run takenKeys untakenKeys,
      motive above run takenKeys untakenKeys parts := by
    intro n
    induction n using Nat.strongRecOn with
    | ind n ih =>
      intro parts hn above run takenKeys untakenKeys
      match parts, hn with
      | [], _ => exact nil ..
      | ⟨[], atom⟩ :: rest, hn =>
        exact bare _ _ _ _ _ _ (ih _ (by simp only [size] at hn; omega) rest rfl ..)
      | ⟨key :: guards, atom⟩ :: rest, hn =>
        have inside := ih _ (by simp only [size, List.length_cons] at hn ⊢; omega) (⟨guards, atom⟩ :: rest) rfl
        have after := ih _ (by simp only [size, List.length_cons] at hn; omega) rest rfl
        by_cases h : key ∈ takenKeys
        · exact taken _ _ _ _ _ _ _ _ h (inside ..)
        · by_cases hu : key ∈ untakenKeys
          · exact untaken _ _ _ _ _ _ _ _ h hu (after ..)
          · exact fork _ _ _ _ _ _ _ _ h hu (inside ..) (after ..)
  exact fun above run takenKeys untakenKeys parts => go _ parts rfl above run takenKeys untakenKeys

/-! ## Branches and leaves of a grown tree -/

section
variable (query : List Entry) (above run : List Atom) {taken untaken : SortedSet Text}

theorem branches_tip : (tip query above run taken untaken).branches =
    [⟨run, ⟨⟨above ++ run, Rule.table taken untaken query⟩, taken, untaken⟩⟩] := by
  rw [tip, branches_under]
  simp [branches, Branch.prepend]

theorem branches_grow_nil : (grow query above run taken untaken []).branches =
    [⟨run, ⟨⟨above ++ run, Rule.table taken untaken query⟩, taken, untaken⟩⟩] := by
  rw [grow_nil, branches_tip]

theorem branches_grow_fork {key : Text} (guards : List Text) (atom : Atom) (rest : List Part)
    (h : key ∉ taken) (hu : key ∉ untaken) :
    (grow query above run taken untaken (⟨key :: guards, atom⟩ :: rest)).branches =
      ((taking key query above run taken untaken guards atom rest).branches ++
        (passing key query above run taken untaken rest).branches).map (Branch.prepend run) := by
  rw [grow_fork _ _ _ _ _ _ h hu, branches_under, branches, branchesOf_append, branchesOf_options,
    branchesOf_options]

theorem leaves_grow_nil : (grow query above run taken untaken []).leaves =
    [⟨⟨above ++ run, Rule.table taken untaken query⟩, taken, untaken⟩] := by
  rw [← map_leaf_branches, branches_grow_nil]
  rfl

theorem leaves_grow_fork {key : Text} (guards : List Text) (atom : Atom) (rest : List Part)
    (h : key ∉ taken) (hu : key ∉ untaken) :
    (grow query above run taken untaken (⟨key :: guards, atom⟩ :: rest)).leaves =
      (taking key query above run taken untaken guards atom rest).leaves ++
        (passing key query above run taken untaken rest).leaves := by
  rw [← map_leaf_branches, branches_grow_fork _ _ _ _ _ _ h hu, List.map_map, List.map_append,
    ← map_leaf_branches, ← map_leaf_branches]
  rfl

end

/-! ## What every branch keeps -/

/-- What holds of a branch of the tree grown below `above` with the given keys decided. -/
structure Grown (query : List Entry) (above : List Atom) (taken untaken : SortedSet Text) (branch : Branch) :
    Prop where
  taken_subset : ∀ key ∈ taken, key ∈ branch.leaf.taken
  untaken_subset : ∀ key ∈ untaken, key ∈ branch.leaf.untaken
  apart : Apart branch.leaf.taken branch.leaf.untaken
  path : branch.leaf.shape.path = above ++ branch.atoms
  rules : branch.leaf.shape.query = Rule.table branch.leaf.taken branch.leaf.untaken query

/-- A branch grown with more keys decided, and with a run above it, is grown with the keys decided before. -/
theorem Grown.prepend {query : List Entry} {above run : List Atom} {taken taken' untaken untaken' : SortedSet Text}
    {branch : Branch} (h : Grown query (above ++ run) taken' untaken' branch)
    (ht : ∀ key ∈ taken, key ∈ taken') (hu : ∀ key ∈ untaken, key ∈ untaken') :
    Grown query above taken untaken (branch.prepend run) where
  taken_subset key hk := h.taken_subset key (ht key hk)
  untaken_subset key hk := h.untaken_subset key (hu key hk)
  apart := h.apart
  path := by simpa [Branch.prepend] using h.path
  rules := h.rules

theorem grown_of_mem_branches (query : List Entry) {above run : List Atom} {taken untaken : SortedSet Text}
    {parts : List Part} (hd : Apart taken untaken) :
    ∀ branch ∈ (grow query above run taken untaken parts).branches, Grown query above taken untaken branch := by
  induction above, run, taken, untaken, parts using grow_induction with
  | nil above run taken untaken =>
    intro branch hm
    rw [branches_grow_nil, List.mem_singleton] at hm
    subst hm
    exact ⟨fun _ h => h, fun _ h => h, hd, rfl, rfl⟩
  | bare above run taken untaken atom rest ih =>
    rw [grow_bare]
    exact ih hd
  | taken above run taken untaken key guards atom rest h ih =>
    rw [grow_taken _ _ _ _ _ _ h]
    exact ih hd
  | untaken above run taken untaken key guards atom rest h hu ih =>
    rw [grow_untaken _ _ _ _ _ _ h hu]
    exact ih hd
  | fork above run taken untaken key guards atom rest h hu yes no =>
    intro branch hm
    rw [branches_grow_fork _ _ _ _ _ _ h hu] at hm
    obtain ⟨below, hb, rfl⟩ := List.mem_map.mp hm
    rcases List.mem_append.mp hb with hb | hb
    · exact (yes (hd.insert_taken hu) below hb).prepend (fun k hk => SortedSet.mem_insert.mpr (.inr hk))
        fun _ hk => hk
    · exact (no (hd.insert_untaken h) below hb).prepend (fun _ hk => hk)
        fun k hk => SortedSet.mem_insert.mpr (.inr hk)

/-- The same of a leaf, without the branch that leads to it. -/
theorem grown_of_mem_leaves (query : List Entry) {above run : List Atom} {taken untaken : SortedSet Text}
    {parts : List Part} {l : Leaf} (hd : Apart taken untaken)
    (hl : l ∈ (grow query above run taken untaken parts).leaves) :
    ∃ atoms, Grown query above taken untaken ⟨atoms, l⟩ := by
  rw [← map_leaf_branches] at hl
  obtain ⟨branch, hm, rfl⟩ := List.mem_map.mp hl
  exact ⟨branch.atoms, grown_of_mem_branches query hd branch hm⟩

section
variable (query : List Entry) {above run : List Atom} {taken untaken : SortedSet Text} {parts : List Part} {l : Leaf}
  {key : Text} (hd : Apart taken untaken) (hl : l ∈ (grow query above run taken untaken parts).leaves)
include hd hl

theorem mem_taken_of_mem_leaves (hk : key ∈ taken) : key ∈ l.taken := by
  obtain ⟨_, grown⟩ := grown_of_mem_leaves query hd hl
  exact grown.taken_subset key hk

theorem mem_untaken_of_mem_leaves (hk : key ∈ untaken) : key ∈ l.untaken ∧ key ∉ l.taken := by
  obtain ⟨_, grown⟩ := grown_of_mem_leaves query hd hl
  have untaken_here := grown.untaken_subset key hk
  exact ⟨untaken_here, fun taken_here => grown.apart key taken_here untaken_here⟩

end

/-! ## The tree of an endpoint -/

variable {e : Endpoint}

theorem apart_of_mem_build {l : Leaf} (hl : l ∈ (build e).leaves) : Apart l.taken l.untaken := by
  obtain ⟨_, h⟩ := grown_of_mem_leaves e.query apart_empty hl
  exact h.apart

theorem rules_of_mem_build {l : Leaf} (hl : l ∈ (build e).leaves) :
    l.shape.query = Rule.table l.taken l.untaken e.query := by
  obtain ⟨_, h⟩ := grown_of_mem_leaves e.query apart_empty hl
  exact h.rules

/-- On the way to a leaf stand exactly the atoms of its path. -/
theorem path_of_mem_branches_build : ∀ branch ∈ (build e).branches, branch.leaf.shape.path = branch.atoms :=
  fun branch hm => (grown_of_mem_branches e.query apart_empty branch hm).path

end ResolveTree

end RouteTemplate
