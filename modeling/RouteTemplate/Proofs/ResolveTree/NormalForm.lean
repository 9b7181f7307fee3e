import RouteTemplate.Proofs.ResolveTree.Growth

/- The form of resolve trees.

   A tree is normal when every fork in it offers a choice and every run leads to one, or to a leaf (`Normal`). Growing
   keeps to this: atoms are gathered in one run until a key must be decided, and the trees below the two decisions
   give their options to the fork itself, so that no fork stands directly below another (`Normal.splice`). The runs on
   the way to a leaf hold what stands above it on its branch (`mem_branches_iff`). So a request is matched against each
   segment of a shape once, at the run that holds it, and every fork decides something (`normal_build`). -/
namespace RouteTemplate

namespace ResolveTree

/-- A fork has several children, none of them a fork; a run has atoms, and goes on with a fork or a leaf. -/
inductive Normal : ResolveTree → Prop
  | leaf (l : Leaf) : Normal (.leaf l)
  | run {atoms : List Atom} {next : ResolveTree} (nonempty : atoms ≠ [])
      (turns : (∃ options, next = .fork options) ∨ ∃ l, next = .leaf l) (below : Normal next) :
      Normal (.run atoms next)
  | fork {options : List ResolveTree} (several : 2 ≤ options.length)
      (spliced : ∀ t ∈ options, ∀ inner, t ≠ .fork inner) (below : ∀ t ∈ options, Normal t) : Normal (.fork options)

/-- The atoms of the runs on a way from the root to a leaf, run by run. -/
inductive Way : ResolveTree → List (List Atom) → Leaf → Prop
  | leaf (l : Leaf) : Way (.leaf l) [] l
  | run {atoms : List Atom} {next : ResolveTree} {runs : List (List Atom)} {l : Leaf} :
      Way next runs l → Way (.run atoms next) (atoms :: runs) l
  | fork {options : List ResolveTree} {t : ResolveTree} {runs : List (List Atom)} {l : Leaf} :
      t ∈ options → Way t runs l → Way (.fork options) runs l

/-! ## Growing keeps the form -/

namespace Normal

variable {t : ResolveTree}

/-- What a tree gives to a fork around it may stand there. -/
theorem of_mem_options (h : t.Normal) : ∀ u ∈ t.options, u.Normal ∧ ∀ inner, u ≠ .fork inner := by
  cases h with
  | fork _ spliced below => exact fun u hu => ⟨below u hu, spliced u hu⟩
  | leaf l => simpa [options] using Normal.leaf l
  | run nonempty turns below => simpa [options] using Normal.run nonempty turns below

theorem options_length_pos (h : t.Normal) : 0 < t.options.length := by
  cases h with
  | fork several => exact Nat.lt_of_lt_of_le Nat.zero_lt_two several
  | leaf | run => simp [options]

theorem splice {yes no : ResolveTree} (hyes : yes.Normal) (hno : no.Normal) :
    (ResolveTree.fork (yes.options ++ no.options)).Normal := by
  have each : ∀ u ∈ yes.options ++ no.options, u.Normal ∧ ∀ inner, u ≠ .fork inner := fun u hu =>
    (List.mem_append.mp hu).elim (hyes.of_mem_options u) (hno.of_mem_options u)
  refine .fork ?several (fun u hu => (each u hu).2) fun u hu => (each u hu).1
  have left := hyes.options_length_pos
  have right := hno.options_length_pos
  rw [List.length_append]
  omega

theorem under (h : t.Normal) (turns : (∃ options, t = .fork options) ∨ ∃ l, t = .leaf l) (atoms : List Atom) :
    (ResolveTree.under atoms t).Normal := by
  cases atoms with
  | nil => exact h
  | cons atom atoms => exact .run (List.cons_ne_nil atom atoms) turns h

end Normal

theorem normal_grow (query : List Entry) (above run : List Atom) (taken untaken : SortedSet Text) (parts : List Part) :
    (grow query above run taken untaken parts).Normal := by
  induction above, run, taken, untaken, parts using grow_induction with
  | nil above run taken untaken =>
    rw [grow_nil]
    exact (Normal.leaf _).under (.inr ⟨_, rfl⟩) run
  | bare above run taken untaken atom rest ih => rwa [grow_bare]
  | taken above run taken untaken key guards atom rest h ih => rwa [grow_taken _ _ _ _ _ _ h]
  | untaken above run taken untaken key guards atom rest h hu ih => rwa [grow_untaken _ _ _ _ _ _ h hu]
  | fork above run taken untaken key guards atom rest h hu yes no =>
    rw [grow_fork _ _ _ _ _ _ h hu]
    exact (Normal.splice yes no).under (.inl ⟨_, rfl⟩) run

/-! ## The way to a leaf -/

theorem mem_branchesOf {branch : Branch} {options : List ResolveTree} :
    branch ∈ branchesOf options ↔ ∃ t ∈ options, branch ∈ t.branches := by
  induction options with
  | nil => simp [branchesOf]
  | cons option rest ih => simp [branchesOf, ih]

theorem Way.mem_branches {t : ResolveTree} {runs : List (List Atom)} {l : Leaf} (h : Way t runs l) :
    ⟨runs.flatten, l⟩ ∈ t.branches := by
  induction h with
  | leaf l => exact List.mem_singleton_self _
  | run _ ih => exact List.mem_map_of_mem ih
  | fork hm _ ih => exact mem_branchesOf.mpr ⟨_, hm, ih⟩

mutual

/-- Each branch is a way, with the atoms of its runs one after the other. -/
theorem exists_way : ∀ (t : ResolveTree), ∀ branch ∈ t.branches,
    ∃ runs, Way t runs branch.leaf ∧ runs.flatten = branch.atoms
  | .fork options, branch, hm => by
    obtain ⟨t, ht, runs, way, atoms⟩ := exists_way_of_options options branch hm
    exact ⟨runs, .fork ht way, atoms⟩
  | .run atoms next, branch, hm => by
    obtain ⟨below, hbelow, rfl⟩ := List.mem_map.mp hm
    obtain ⟨runs, way, flat⟩ := exists_way next below hbelow
    exact ⟨atoms :: runs, .run way, congrArg (atoms ++ ·) flat⟩
  | .leaf l, branch, hm => by
    rw [List.mem_singleton.mp hm]
    exact ⟨[], .leaf l, rfl⟩

theorem exists_way_of_options : ∀ (options : List ResolveTree), ∀ branch ∈ branchesOf options,
    ∃ t ∈ options, ∃ runs, Way t runs branch.leaf ∧ runs.flatten = branch.atoms
  | option :: rest, branch, hm => by
    rcases List.mem_append.mp hm with hm | hm
    · exact ⟨option, List.mem_cons_self, exists_way option branch hm⟩
    · obtain ⟨t, ht, way⟩ := exists_way_of_options rest branch hm
      exact ⟨t, List.mem_cons_of_mem option ht, way⟩

end

theorem mem_branches_iff {t : ResolveTree} {branch : Branch} :
    branch ∈ t.branches ↔ ∃ runs, Way t runs branch.leaf ∧ runs.flatten = branch.atoms := by
  refine ⟨exists_way t branch, fun h => ?_⟩
  obtain ⟨runs, way, flat⟩ := h
  have hm := way.mem_branches
  rwa [flat] at hm

theorem mem_leaves_iff {t : ResolveTree} {l : Leaf} : l ∈ t.leaves ↔ ∃ runs, Way t runs l := by
  rw [← map_leaf_branches, List.mem_map]
  refine ⟨fun h => ?_, fun h => ?_⟩
  · obtain ⟨branch, hm, rfl⟩ := h
    obtain ⟨runs, way, -⟩ := mem_branches_iff.mp hm
    exact ⟨runs, way⟩
  · obtain ⟨runs, way⟩ := h
    exact ⟨_, way.mem_branches, rfl⟩

/-- **Resolve trees are in normal form.** In the tree of an endpoint every fork has at least two children and none of
    them is a fork, and every run has atoms and goes on with a fork or a leaf. A way leads to each leaf, and on every
    way to it the runs one after the other are the path of its shape. -/
theorem normal_build (e : Endpoint) : (build e).Normal ∧ (∀ l ∈ (build e).leaves, ∃ runs, Way (build e) runs l) ∧
    ∀ runs l, Way (build e) runs l → l ∈ (build e).leaves ∧ runs.flatten = l.shape.path := by
  refine ⟨normal_grow e.query [] [] .empty .empty e.path, fun l hl => mem_leaves_iff.mp hl, fun runs l way => ?_⟩
  exact ⟨mem_leaves_iff.mpr ⟨runs, way⟩, (path_of_mem_branches_build _ way.mem_branches).symm⟩

/-- `items/[?a:[?b:{x}]]/[?c:{y}]/end` -/
def branching : Endpoint where
  path := [⟨[], .literal "items".toList⟩, ⟨["a".toList, "b".toList], .param "x".toList⟩,
    ⟨["c".toList], .param "y".toList⟩, ⟨[], .literal "end".toList⟩]
  query := []

/-- The leaf below three forks that takes `a` and `b`, and not `c`. -/
def branchingThird : Leaf where
  shape := ⟨[.literal "items".toList, .param "x".toList, .literal "end".toList], .empty⟩
  taken := .ofList ["a".toList, "b".toList]
  untaken := .ofList ["c".toList]

theorem normal_build_branching : (build branching).Normal ∧ branchingThird ∈ (build branching).leaves ∧
    ∃ runs, Way (build branching) runs branchingThird ∧
      runs.flatten = [.literal "items".toList, .param "x".toList, .literal "end".toList] := by
  obtain ⟨normal, reached, path⟩ := normal_build branching
  have hl : branchingThird ∈ (build branching).leaves := by decide +kernel
  obtain ⟨runs, way⟩ := reached branchingThird hl
  exact ⟨normal, hl, runs, way, (path runs branchingThird way).2⟩

end ResolveTree

end RouteTemplate
