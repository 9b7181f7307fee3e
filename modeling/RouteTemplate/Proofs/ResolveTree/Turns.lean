import Mathlib.Data.List.Perm.Subperm
import RouteTemplate.Proofs.FirstAppearance
import RouteTemplate.Proofs.ResolveTree.FirstMatch

/- How long growing takes, and what its shortcut saves.

   Growing is done in calls. A call looks at the remaining parts in turns, one part or one guard in each
   (`Stage.turn`): the atoms that come bare are gathered, the guards already decided are taken off or end their part,
   and at an open key the call ends in two calls within it. Each turn leaves less of the parts, counted with their
   guards (`Stage.advances_of_mem_turn`), so there are no more turns in a row than this size (`Turns.size_le`).

   Where no part has a guard left, all that is left is gathered at once. `growth` follows the turns and looks for this
   shortcut where it is told to: when it enters a call, in each turn, or never. It always comes to the tree of `grow`
   (`tree_growth`). No turn opens a key, and the key at which a call ends is decided in both calls within it, so calls
   stand within calls no deeper than there are open keys (`depth_growth_le`). -/
namespace RouteTemplate

namespace ResolveTree

/-! ## Turns -/

/-- Where growing has come to: the atoms up to the last fork and those since, the keys decided, the parts left. -/
structure Stage where
  above : List Atom
  run : List Atom
  taken : SortedSet Text
  untaken : SortedSet Text
  parts : List Part
  deriving DecidableEq

/-- What comes of a look at the first part. -/
inductive Turn where
  /-- There is none. -/
  | finish
  /-- The call goes on. -/
  | again (next : Stage)
  /-- The call ends in two more, one that takes an open key and one that does not. -/
  | fork (yes no : Stage)

/-- The stages that a turn leads to. -/
def Turn.stages : Turn → List Stage
  | .finish => []
  | .again next => [next]
  | .fork yes no => [yes, no]

@[simp] theorem Turn.mem_stages_again {next t : Stage} : t ∈ (Turn.again next).stages ↔ t = next :=
  List.mem_singleton

@[simp] theorem Turn.mem_stages_fork {yes no t : Stage} : t ∈ (Turn.fork yes no).stages ↔ t = yes ∨ t = no := by
  simp [stages]

/-- One turn. A part whose outermost key is taken comes back in front without it. -/
def Stage.turn (s : Stage) : Turn :=
  match s.parts with
  | [] => .finish
  | ⟨[], atom⟩ :: rest => .again { s with run := s.run ++ [atom], parts := rest }
  | ⟨key :: guards, atom⟩ :: rest =>
    if key ∈ s.taken then .again { s with parts := ⟨guards, atom⟩ :: rest }
    else if key ∈ s.untaken then .again { s with parts := rest }
    else .fork ⟨s.above ++ s.run, [], s.taken.insert key, s.untaken, ⟨guards, atom⟩ :: rest⟩
      ⟨s.above ++ s.run, [], s.taken, s.untaken.insert key, rest⟩

/-- The keys that guard the parts left, as often as they do. -/
def Stage.keys (s : Stage) : List Text := s.parts.flatMap (·.guards)

/-- Those of them that are not decided, each at its first place. -/
def Stage.openKeys (s : Stage) : List Text := RouteTemplate.openKeys s.taken s.untaken s.keys

/-- What holds of all turns from one stage to another. -/
structure Stage.Advances (s next : Stage) : Prop where
  size : size next.parts < size s.parts
  keys : next.keys ⊆ s.keys
  taken : ∀ key ∈ s.taken, key ∈ next.taken
  untaken : ∀ key ∈ s.untaken, key ∈ next.untaken

namespace Stage

variable {s next : Stage}

theorem advances_of_mem_turn (h : next ∈ s.turn.stages) : s.Advances next := by
  revert h
  fun_cases turn s with
  | case1 => simp [Turn.stages]
  | case2 atom rest parts =>
    rw [Turn.mem_stages_again]
    rintro rfl
    exact ⟨by simp [size, parts], by simp [keys, parts], fun _ h => h, fun _ h => h⟩
  | case3 key guards atom rest parts =>
    rw [Turn.mem_stages_again]
    rintro rfl
    exact ⟨by simp [size, parts], by simp [keys, parts], fun _ h => h, fun _ h => h⟩
  | case4 key guards atom rest parts =>
    rw [Turn.mem_stages_again]
    rintro rfl
    exact ⟨by simp [size, parts], by simp [keys, parts], fun _ h => h, fun _ h => h⟩
  | case5 key guards atom rest parts =>
    rw [Turn.mem_stages_fork]
    rintro (rfl | rfl)
    · exact ⟨by simp [size, parts], by simp [keys, parts], fun _ h => SortedSet.mem_insert.mpr (.inr h), fun _ h => h⟩
    · exact ⟨by simp [size, parts], by simp [keys, parts], fun _ h => h,
        fun _ h => SortedSet.mem_insert.mpr (.inr h)⟩

/-- A call ends at a key that is open, and decided in both calls within it. -/
theorem exists_open_of_fork {yes no : Stage} (h : s.turn = .fork yes no) :
    ∃ key ∈ s.openKeys, key ∈ yes.taken ∧ key ∈ no.untaken := by
  revert h
  fun_cases turn s with
  | case1 | case2 | case3 | case4 => simp
  | case5 key guards atom rest parts not_taken not_untaken =>
    rintro ⟨⟩
    refine ⟨key, ?_, SortedSet.mem_insert_self, SortedSet.mem_insert_self⟩
    simp [openKeys, RouteTemplate.openKeys, keys, parts, not_taken, not_untaken]

theorem mem_openKeys {key : Text} : key ∈ s.openKeys ↔ key ∈ s.keys ∧ key ∉ s.taken ∧ key ∉ s.untaken := by
  simp [openKeys, RouteTemplate.openKeys]

theorem nodup_openKeys (s : Stage) : s.openKeys.Nodup := nodup_eraseDups _

theorem Advances.openKeys_subset (h : s.Advances next) : next.openKeys ⊆ s.openKeys := by
  intro key hk
  obtain ⟨mentioned, not_taken, not_untaken⟩ := mem_openKeys.mp hk
  exact mem_openKeys.mpr ⟨h.keys mentioned, mt (h.taken key) not_taken, mt (h.untaken key) not_untaken⟩

theorem Advances.length_openKeys_le (h : s.Advances next) : next.openKeys.length ≤ s.openKeys.length :=
  (List.subperm_of_subset next.nodup_openKeys h.openKeys_subset).length_le

theorem Advances.length_openKeys_lt (h : s.Advances next) {key : Text} (before : key ∈ s.openKeys)
    (after : key ∉ next.openKeys) : next.openKeys.length < s.openKeys.length := by
  have distinct : (key :: next.openKeys).Nodup := List.nodup_cons.mpr ⟨after, next.nodup_openKeys⟩
  have within : key :: next.openKeys ⊆ s.openKeys := List.cons_subset.mpr ⟨before, h.openKeys_subset⟩
  exact (List.subperm_of_subset distinct within).length_le

theorem length_openKeys_of_fork {yes no : Stage} (h : s.turn = .fork yes no) :
    yes.openKeys.length < s.openKeys.length ∧ no.openKeys.length < s.openKeys.length := by
  obtain ⟨key, open_before, taken, untaken⟩ := exists_open_of_fork h
  have to_yes : s.Advances yes := advances_of_mem_turn (by simp [h])
  have to_no : s.Advances no := advances_of_mem_turn (by simp [h])
  exact ⟨to_yes.length_openKeys_lt open_before fun hk => (mem_openKeys.mp hk).2.1 taken,
    to_no.length_openKeys_lt open_before fun hk => (mem_openKeys.mp hk).2.2 untaken⟩

end Stage

/-- Turns one after another, in one call or in calls within it. -/
inductive Turns : Stage → Nat → Stage → Prop
  | none (s : Stage) : Turns s 0 s
  | next {s next last : Stage} {n : Nat} : next ∈ s.turn.stages → Turns next n last → Turns s (n + 1) last

theorem Turns.size_le {s last : Stage} {n : Nat} (h : Turns s n last) : n + size last.parts ≤ size s.parts := by
  induction h with
  | none s => exact Nat.le_of_eq (Nat.zero_add _)
  | next hm _ ih =>
    have less := (Stage.advances_of_mem_turn hm).size
    omega

/-! ## Growing with the shortcut, and without -/

/-- Where a look at the parts is taken. -/
inductive Place where
  /-- A call is entered. -/
  | call
  /-- A call goes on. -/
  | loop
  deriving DecidableEq

/-- A tree, and how deep calls stood within calls when it was grown. -/
structure Growth where
  tree : ResolveTree
  depth : Nat

/-- The growth from a stage. The shortcut is looked for in the places that `shortcut` tells, and taken where no part
    has a guard left. Only a fork leads into calls, so the depth counts forks. -/
def growth (shortcut : Place → Bool) (query : List Entry) (place : Place) (s : Stage) : Growth :=
  if shortcut place && s.parts.all (!·.isOptional) then
    ⟨tip query s.above (s.run ++ s.parts.map (·.atom)) s.taken s.untaken, 0⟩
  else match h : s.turn with
    | .finish => ⟨tip query s.above s.run s.taken s.untaken, 0⟩
    | .again next => growth shortcut query .loop next
    | .fork yes no =>
      let fromYes := growth shortcut query .call yes
      let fromNo := growth shortcut query .call no
      ⟨under s.run (.fork (fromYes.tree.options ++ fromNo.tree.options)), max fromYes.depth fromNo.depth + 1⟩
termination_by size s.parts
decreasing_by all_goals exact (Stage.advances_of_mem_turn (by simp [h])).size

/-- The tree that grows from a stage. -/
abbrev Stage.grow (query : List Entry) (s : Stage) : ResolveTree :=
  ResolveTree.grow query s.above s.run s.taken s.untaken s.parts

theorem grow_of_bare {s : Stage} (query : List Entry) (h : s.parts.all (!·.isOptional) = true) :
    s.grow query = tip query s.above (s.run ++ s.parts.map (·.atom)) s.taken s.untaken := by
  rw [Stage.grow, ResolveTree.grow.eq_def, if_pos h]

theorem grow_eq_turn (query : List Entry) (s : Stage) : s.grow query = match s.turn with
    | .finish => tip query s.above s.run s.taken s.untaken
    | .again next => next.grow query
    | .fork yes no => under s.run (.fork ((yes.grow query).options ++ (no.grow query).options)) := by
  rw [Stage.grow]
  fun_cases Stage.turn s with
  | case1 parts => rw [parts, grow_nil]
  | case2 atom rest parts => rw [parts, grow_bare]
  | case3 key guards atom rest parts taken => rw [parts, grow_taken _ _ _ _ _ _ taken]
  | case4 key guards atom rest parts not_taken untaken => rw [parts, grow_untaken _ _ _ _ _ _ not_taken untaken]
  | case5 key guards atom rest parts not_taken not_untaken =>
    rw [parts, grow_fork _ _ _ _ _ _ not_taken not_untaken]

theorem tree_growth (shortcut : Place → Bool) (query : List Entry) (place : Place) (s : Stage) :
    (growth shortcut query place s).tree = s.grow query := by
  fun_induction growth shortcut query place s with
  | case1 place s h =>
    simp only [Bool.and_eq_true] at h
    exact (grow_of_bare query h.2).symm
  | case2 place s _ turn => rw [grow_eq_turn, turn]
  | case3 place s _ next turn ih => rw [ih, grow_eq_turn query s, turn]
  | case4 place s _ yes no turn fromYes fromNo ih_yes ih_no =>
    simp only [grow_eq_turn query s, turn, fromYes, fromNo, ih_yes, ih_no]

/-- Calls stand within calls no deeper than there are open keys. -/
theorem depth_growth_le (shortcut : Place → Bool) (query : List Entry) (place : Place) (s : Stage) :
    (growth shortcut query place s).depth ≤ s.openKeys.length := by
  fun_induction growth shortcut query place s with
  | case1 | case2 => exact Nat.zero_le _
  | case3 place s _ next turn ih =>
    have advances : s.Advances next := Stage.advances_of_mem_turn (by simp [turn])
    exact Nat.le_trans ih advances.length_openKeys_le
  | case4 place s _ yes no turn fromYes fromNo ih_yes ih_no =>
    obtain ⟨fewer_yes, fewer_no⟩ := Stage.length_openKeys_of_fork turn
    exact Nat.max_lt.mpr ⟨Nat.lt_of_le_of_lt ih_yes fewer_yes, Nat.lt_of_le_of_lt ih_no fewer_no⟩

/-- **The shortcut is only a shortcut, and growing ends.** From any stage the same tree grows wherever the shortcut is
    looked for, and also when it never is. Every turn leaves less of the parts, whether it goes on in the call or
    enters another, and whether or not it puts a part back; so there are no more turns in a row than the parts count
    with their guards. Calls stand within calls no deeper than the parts have keys that are not decided. -/
theorem growth_exact (query : List Entry) (s : Stage) :
    (∀ shortcut place, (growth shortcut query place s).tree =
      grow query s.above s.run s.taken s.untaken s.parts) ∧
    (∀ next ∈ s.turn.stages, size next.parts < size s.parts) ∧
    (∀ n last, Turns s n last → n + size last.parts ≤ size s.parts) ∧
    ∀ shortcut place, (growth shortcut query place s).depth ≤ s.openKeys.length := by
  refine ⟨fun shortcut place => ?tree, fun next hm => ?turn, fun n last turns => ?run, fun shortcut place => ?depth⟩
  case tree => exact tree_growth shortcut query place s
  case turn => exact (Stage.advances_of_mem_turn hm).size
  case run => exact turns.size_le
  case depth => exact depth_growth_le shortcut query place s

/-- `[?v:[?a:{x}]]/[?w:y]/[?b:[?a:z]]/end` below `items`, with `v` taken and `w` not. -/
def halfway : Stage where
  above := [.literal "items".toList]
  run := []
  taken := .ofList ["v".toList]
  untaken := .ofList ["w".toList]
  parts := [⟨["v".toList, "a".toList], .param "x".toList⟩, ⟨["w".toList], .literal "y".toList⟩,
    ⟨["b".toList, "a".toList], .literal "z".toList⟩, ⟨[], .literal "end".toList⟩]

/-- The first part of `halfway` comes back without `v`. -/
def halfwayNext : Stage :=
  { halfway with parts := ⟨["a".toList], .param "x".toList⟩ :: halfway.parts.tail }

/-- The call below the fork at `a` that does not take it, one turn later. -/
def halfwayWithout : Stage :=
  { halfway with untaken := halfway.untaken.insert "a".toList, parts := halfway.parts.tail }

theorem growth_exact_halfway :
    (growth (· = .call) [] .call halfway).tree = (growth (fun _ => false) [] .call halfway).tree ∧
    halfwayNext ∈ halfway.turn.stages ∧ size halfwayNext.parts < size halfway.parts ∧
    Turns halfway 2 halfwayWithout ∧ 2 + size halfwayWithout.parts ≤ size halfway.parts ∧
    (growth (· = .call) [] .call halfway).depth = 2 ∧ 2 ≤ halfway.openKeys.length := by
  obtain ⟨same, smaller, ends, shallow⟩ := growth_exact [] halfway
  have first : halfwayNext ∈ halfway.turn.stages := by decide
  have turns : Turns halfway 2 halfwayWithout := .next first (.next (by decide) (.none _))
  have depth : (growth (· = .call) [] .call halfway).depth = 2 := by decide +kernel
  exact ⟨(same _ _).trans (same _ _).symm, first, smaller _ first, turns, ends _ _ turns, depth, depth ▸ shallow _ _⟩

end ResolveTree

end RouteTemplate
