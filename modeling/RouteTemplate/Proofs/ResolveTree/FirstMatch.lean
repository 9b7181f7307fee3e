import RouteTemplate.Proofs.ResolveTree.Growth

/- Which leaf answers.

   A tree answers as the first of its leaves whose shape matches the request on its own, and it does not
   matter that the tree shares segments between shapes, copies bindings at each fork and binds the path
   before the query. The order of the leaves is that of decisions: reading the path from left to right, each
   part asks about its guards from the outside in until one is absent, and each key is asked about once
   (`Leaf.decisions`). Two leaves are decided alike up to the key at which they part, and the earlier one
   takes it (`Precedes`). So of the leaves that match, the one answers that takes the first key on which it
   and any other of them differ. -/
namespace RouteTemplate

/-- The guards that are asked about in turn, up to the first that is absent. -/
def askedGuards (present : Text → Bool) : List Text → List Text
  | [] => []
  | key :: guards => if present key then key :: askedGuards present guards else [key]

/-- The keys that a path asks about, as often as it does. -/
def askedKeys (present : Text → Bool) (parts : List Part) : List Text :=
  parts.flatMap fun p => askedGuards present p.guards

/-- Is the key among those the leaf takes? -/
def Leaf.takes (l : Leaf) (key : Text) : Bool := decide (key ∈ l.taken)

/-- The keys decided on the way to a leaf, in the order in which the path asks about them. -/
def Leaf.decisions (e : Endpoint) (l : Leaf) : List Text := (askedKeys l.takes e.path).eraseDups

/-- Up to some key the two leaves are decided alike, in the same order, and `l` takes that key while `m` does
    not. `decisions` gives the keys of a leaf in the order in which they are decided. -/
def Precedes (decisions : Leaf → List Text) (l m : Leaf) : Prop :=
  ∃ shared key rest rest',
    decisions l = shared ++ key :: rest ∧ decisions m = shared ++ key :: rest' ∧
    (∀ k ∈ shared, (k ∈ l.taken ∧ k ∈ m.taken) ∨ (k ∈ l.untaken ∧ k ∈ m.untaken)) ∧
    key ∈ l.taken ∧ key ∈ m.untaken

namespace Precedes

variable {decisions decisions' : Leaf → List Text} {l m : Leaf}

theorem congr (h : Precedes decisions l m) (hl : decisions' l = decisions l) (hm : decisions' m = decisions m) :
    Precedes decisions' l m := by
  obtain ⟨shared, key, rest, rest', el, em, alike, ht, hu⟩ := h
  exact ⟨shared, key, rest, rest', hl.trans el, hm.trans em, alike, ht, hu⟩

theorem cons {k : Text} (h : Precedes decisions l m) (hl : decisions' l = k :: decisions l)
    (hm : decisions' m = k :: decisions m)
    (hk : (k ∈ l.taken ∧ k ∈ m.taken) ∨ (k ∈ l.untaken ∧ k ∈ m.untaken)) : Precedes decisions' l m := by
  obtain ⟨shared, key, rest, rest', el, em, alike, ht, hu⟩ := h
  refine ⟨k :: shared, key, rest, rest', by rw [hl, el]; rfl, by rw [hm, em]; rfl, ?_, ht, hu⟩
  intro j hj
  rcases List.mem_cons.mp hj with rfl | hj
  · exact hk
  · exact alike j hj

/-- The first key on which two leaves differ is taken by one of them only. -/
theorem asymm (hl : Apart l.taken l.untaken) (hm : Apart m.taken m.untaken) (h : Precedes decisions l m) :
    ¬Precedes decisions m l := by
  obtain ⟨shared, key, rest, rest', el, em, alike, ht, hu⟩ := h
  intro h
  obtain ⟨shared', key', _, _, em', el', alike', ht', hu'⟩ := h
  -- A key at which the leaves part is not among those on which they are decided alike.
  have not_shared : key ∉ shared' := fun hk => by
    rcases alike' key hk with ⟨hkm, -⟩ | ⟨-, hkl⟩
    · exact hm key hkm hu
    · exact hl key ht hkl
  have not_shared' : key' ∉ shared := fun hk => by
    rcases alike key' hk with ⟨hkl, -⟩ | ⟨-, hkm⟩
    · exact hl key' hkl hu'
    · exact hm key' ht' hkm
  rcases List.append_eq_append_iff.mp (el.symm.trans el') with ⟨as, hs, hk⟩ | ⟨bs, hs, hk⟩
  · cases as with
    | nil =>
      rw [List.nil_append, List.cons.injEq] at hk
      exact hl key ht (hk.1 ▸ hu')
    | cons a as =>
      rw [List.cons_append, List.cons.injEq] at hk
      exact not_shared (by rw [hs, hk.1]; simp)
  · cases bs with
    | nil =>
      rw [List.nil_append, List.cons.injEq] at hk
      exact hl key ht (hk.1 ▸ hu')
    | cons b bs =>
      rw [List.cons_append, List.cons.injEq] at hk
      exact not_shared' (by rw [hs, hk.1]; simp)

end Precedes

/-! ## Decisions while a tree grows -/

section
variable {taken untaken : SortedSet Text} {key : Text}

/-- The keys still open, each at its first place. -/
def openKeys (taken untaken : SortedSet Text) (keys : List Text) : List Text :=
  (keys.filter fun k => decide (k ∉ taken ∧ k ∉ untaken)).eraseDups

theorem openKeys_empty (keys : List Text) : openKeys .empty .empty keys = keys.eraseDups := by
  have : keys.filter (fun k => decide (k ∉ (.empty : SortedSet Text) ∧ k ∉ (.empty : SortedSet Text))) = keys :=
    List.filter_eq_self.mpr fun k _ => by simp [SortedSet.not_mem_empty]
  rw [openKeys, this]

theorem openKeys_cons_decided (h : key ∈ taken ∨ key ∈ untaken) (keys : List Text) :
    openKeys taken untaken (key :: keys) = openKeys taken untaken keys := by
  have : ¬(key ∉ taken ∧ key ∉ untaken) := fun hn => h.elim hn.1 hn.2
  simp [openKeys, this]

/-- An open key comes first, and what follows is open when it is decided, one way or the other. -/
theorem openKeys_cons_open (h : key ∉ taken) (hu : key ∉ untaken) (keys : List Text) :
    openKeys taken untaken (key :: keys) = key :: openKeys (taken.insert key) untaken keys ∧
      openKeys taken untaken (key :: keys) = key :: openKeys taken (untaken.insert key) keys := by
  rw [openKeys, List.filter_cons_of_pos (by simp [h, hu]), List.eraseDups_cons, List.filter_filter]
  refine ⟨?_, ?_⟩
  · have : ∀ k, (!k == key && decide (k ∉ taken ∧ k ∉ untaken)) = decide (k ∉ taken.insert key ∧ k ∉ untaken) := by
      intro k
      rw [Bool.eq_iff_iff]
      simp [SortedSet.mem_insert, and_assoc]
    simp only [openKeys, this]
  · have : ∀ k, (!k == key && decide (k ∉ taken ∧ k ∉ untaken)) = decide (k ∉ taken ∧ k ∉ untaken.insert key) := by
      intro k
      rw [Bool.eq_iff_iff]
      simp [SortedSet.mem_insert, and_left_comm]
    simp only [openKeys, this]

end

namespace ResolveTree

/-- The decisions that lead to a leaf of the tree grown from the parts. -/
def openDecisions (taken untaken : SortedSet Text) (parts : List Part) (l : Leaf) : List Text :=
  openKeys taken untaken (askedKeys l.takes parts)

section
variable {taken untaken : SortedSet Text} {key : Text} {guards : List Text} {atom : Atom} {rest : List Part}
variable {l : Leaf}

theorem askedKeys_taken (h : key ∈ l.taken) :
    askedKeys l.takes (⟨key :: guards, atom⟩ :: rest) = key :: askedKeys l.takes (⟨guards, atom⟩ :: rest) := by
  simp [askedKeys, askedGuards, Leaf.takes, h]

theorem askedKeys_untaken (h : key ∉ l.taken) :
    askedKeys l.takes (⟨key :: guards, atom⟩ :: rest) = key :: askedKeys l.takes rest := by
  simp [askedKeys, askedGuards, Leaf.takes, h]

end

theorem pairwise_precedes_grow (query : List Entry) {above run : List Atom} {taken untaken : SortedSet Text}
    {parts : List Part} (hd : Apart taken untaken) :
    (grow query above run taken untaken parts).leaves.Pairwise (Precedes (openDecisions taken untaken parts)) := by
  induction above, run, taken, untaken, parts using grow_induction with
  | nil above run taken untaken =>
    rw [leaves_grow_nil]
    exact List.pairwise_singleton _ _
  | bare above run taken untaken atom rest ih =>
    rw [grow_bare]
    exact ih hd
  | taken above run taken untaken key guards atom rest h ih =>
    rw [grow_taken _ _ _ _ _ _ h]
    have same : ∀ l ∈ (grow query above run taken untaken (⟨guards, atom⟩ :: rest)).leaves,
        openDecisions taken untaken (⟨key :: guards, atom⟩ :: rest) l =
          openDecisions taken untaken (⟨guards, atom⟩ :: rest) l := by
      intro l hl
      rw [openDecisions, askedKeys_taken (mem_taken_of_mem_leaves query hd hl h), openKeys_cons_decided (.inl h)]
      rfl
    exact (ih hd).imp_of_mem fun hl hm hp => hp.congr (same _ hl) (same _ hm)
  | untaken above run taken untaken key guards atom rest h hu ih =>
    rw [grow_untaken _ _ _ _ _ _ h hu]
    have same : ∀ l ∈ (grow query above run taken untaken rest).leaves,
        openDecisions taken untaken (⟨key :: guards, atom⟩ :: rest) l = openDecisions taken untaken rest l := by
      intro l hl
      obtain ⟨-, hk⟩ := mem_untaken_of_mem_leaves query hd hl hu
      rw [openDecisions, askedKeys_untaken hk, openKeys_cons_decided (.inr hu)]
      rfl
    exact (ih hd).imp_of_mem fun hl hm hp => hp.congr (same _ hl) (same _ hm)
  | fork above run taken untaken key guards atom rest h hu yes no =>
    rw [leaves_grow_fork _ _ _ _ _ _ h hu]
    -- Either way the key is decided first.
    have left : ∀ l ∈ (taking key query above run taken untaken guards atom rest).leaves, key ∈ l.taken ∧
        openDecisions taken untaken (⟨key :: guards, atom⟩ :: rest) l =
          key :: openDecisions (taken.insert key) untaken (⟨guards, atom⟩ :: rest) l := by
      intro l hl
      have hk : key ∈ l.taken := mem_taken_of_mem_leaves query (hd.insert_taken hu) hl SortedSet.mem_insert_self
      rw [openDecisions, askedKeys_taken hk]
      exact ⟨hk, (openKeys_cons_open h hu _).1⟩
    have right : ∀ l ∈ (passing key query above run taken untaken rest).leaves, key ∈ l.untaken ∧
        openDecisions taken untaken (⟨key :: guards, atom⟩ :: rest) l =
          key :: openDecisions taken (untaken.insert key) rest l := by
      intro l hl
      obtain ⟨hk, not_taken⟩ :=
        mem_untaken_of_mem_leaves query (hd.insert_untaken h) hl SortedSet.mem_insert_self
      rw [openDecisions, askedKeys_untaken not_taken]
      exact ⟨hk, (openKeys_cons_open h hu _).2⟩
    refine List.pairwise_append.mpr ⟨?_, ?_, ?_⟩
    · exact (yes (hd.insert_taken hu)).imp_of_mem fun hl hm hp =>
        hp.cons (left _ hl).2 (left _ hm).2 (.inl ⟨(left _ hl).1, (left _ hm).1⟩)
    · exact (no (hd.insert_untaken h)).imp_of_mem fun hl hm hp =>
        hp.cons (right _ hl).2 (right _ hm).2 (.inr ⟨(right _ hl).1, (right _ hm).1⟩)
    · intro l hl m hm
      exact ⟨[], key, _, _, (left l hl).2, (right m hm).2, by simp, (left l hl).1, (right m hm).1⟩

theorem pairwise_precedes_build (e : Endpoint) : (build e).leaves.Pairwise (Precedes (Leaf.decisions e)) := by
  apply (pairwise_precedes_grow e.query apart_empty).imp
  intro l m hp
  exact hp.congr (openKeys_empty _).symm (openKeys_empty _).symm

/-! ## The first match -/

theorem resolve_build_eq_findSome? (e : Endpoint) (r : Request) :
    (build e).resolve r = (build e).leaves.findSome? fun l => l.shape.resolve r :=
  resolve_eq_findSome? path_of_mem_branches_build r

theorem resolve_build_ne_none {e : Endpoint} {r : Request} {b : Bindings} {l : Leaf} (hl : l ∈ (build e).leaves)
    (hb : l.shape.resolve r = some b) : (build e).resolve r ≠ none := by
  rw [resolve_build_eq_findSome?]
  intro hnone
  rw [List.findSome?_eq_none_iff.mp hnone l hl] at hb
  cases hb

theorem resolve_build_of_first {e : Endpoint} {r : Request} {b : Bindings} {l : Leaf} {before after : List Leaf}
    (split : (build e).leaves = before ++ l :: after) (hb : l.shape.resolve r = some b)
    (fail : ∀ m ∈ before, m.shape.resolve r = none) : (build e).resolve r = some b := by
  rw [resolve_build_eq_findSome?]
  exact List.findSome?_eq_some_iff.mpr ⟨before, l, after, split, hb, fail⟩

theorem resolve_build_eq_some_iff {e : Endpoint} {r : Request} {b : Bindings} :
    (build e).resolve r = some b ↔ ∃ l ∈ (build e).leaves, l.shape.resolve r = some b ∧
      ∀ m ∈ (build e).leaves, m.shape.resolve r ≠ none → m = l ∨ Precedes (Leaf.decisions e) l m := by
  rw [resolve_build_eq_findSome?]
  refine ⟨?_, ?_⟩
  · intro h
    obtain ⟨before, l, after, split, hb, fail⟩ := List.findSome?_eq_some_iff.mp h
    refine ⟨l, by simp [split], hb, fun m hm hmatch => ?_⟩
    rw [split] at hm
    rcases List.mem_append.mp hm with hm | hm
    · exact absurd (fail m hm) hmatch
    · rcases List.mem_cons.mp hm with rfl | hm
      · exact .inl rfl
      · have ordered := pairwise_precedes_build e
        rw [split] at ordered
        exact .inr ((List.pairwise_cons.mp (List.pairwise_append.mp ordered).2.1).1 m hm)
  · intro h
    obtain ⟨l, hl, hb, first⟩ := h
    obtain ⟨before, after, split⟩ := List.append_of_mem hl
    refine List.findSome?_eq_some_iff.mpr ⟨before, l, after, split, hb, fun m hm => ?_⟩
    have hmem : m ∈ (build e).leaves := by simp [split, hm]
    have ordered := pairwise_precedes_build e
    rw [split] at ordered
    have earlier : Precedes (Leaf.decisions e) m l :=
      (List.pairwise_append.mp ordered).2.2 m hm l List.mem_cons_self
    have later : ¬Precedes (Leaf.decisions e) l m :=
      earlier.asymm (apart_of_mem_build hmem) (apart_of_mem_build hl)
    cases hr : m.shape.resolve r with
    | none => rfl
    | some _ =>
      rcases first m hmem (by simp [hr]) with rfl | hp
      · exact absurd earlier later
      · exact absurd hp later

/-- **The tree answers as its leaves do, in the order of their decisions.** Its answer is that of the first
    leaf whose shape matches alone, and there is none exactly when no shape matches. Of two leaves the earlier
    takes the key at which they part, so a leaf answers exactly when it matches and precedes all others that
    match. -/
theorem resolve_build_first_leaf (e : Endpoint) (r : Request) :
    (build e).resolve r = ((build e).leaves.findSome? fun l => l.shape.resolve r) ∧
    ((build e).resolve r = none ↔ ∀ l ∈ (build e).leaves, l.shape.resolve r = none) ∧
    (build e).leaves.Pairwise (Precedes (Leaf.decisions e)) ∧
    ∀ b, (build e).resolve r = some b ↔ ∃ l ∈ (build e).leaves, l.shape.resolve r = some b ∧
      ∀ m ∈ (build e).leaves, m.shape.resolve r ≠ none → m = l ∨ Precedes (Leaf.decisions e) l m := by
  refine ⟨resolve_build_eq_findSome? e r, ?_, pairwise_precedes_build e, fun b => resolve_build_eq_some_iff⟩
  rw [resolve_build_eq_findSome?]
  exact List.findSome?_eq_none_iff

end ResolveTree

end RouteTemplate
