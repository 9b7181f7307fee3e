import RouteTemplate.FieldOrder

/- Sets kept in ascending order.

   A `SortedSet` is a list whose members ascend strictly, so a set has one representation: two sets
   with the same members are equal (`SortedSet.ext_mem`), and listing a set gives its members in
   order. `insert` adds a member (`mem_insert`), `ofList` collects a list (`mem_ofList`). -/
namespace RouteTemplate

/-- The members of a set, strictly ascending. -/
structure SortedSet (α : Type) [Ord α] where
  toList : List α
  ascending : toList.Pairwise fun a b => compare a b = .lt

namespace SortedSet

variable {α : Type} [Ord α]

/-- A list with `a` put in its place; a member that compares equal stays as it is. -/
def place (a : α) : List α → List α
  | [] => [a]
  | b :: rest =>
    match compare a b with
    | .lt => a :: b :: rest
    | .eq => b :: rest
    | .gt => b :: place a rest

theorem mem_place {a x : α} {l : List α} (h : x ∈ place a l) : x = a ∨ x ∈ l := by
  induction l with
  | nil => simpa [place] using h
  | cons b rest ih =>
    unfold place at h
    split at h
    · simpa using h
    · exact .inr h
    · rcases List.mem_cons.1 h with rfl | h
      · simp
      · rcases ih h with rfl | h
        · simp
        · simp [h]

theorem mem_place_of_mem {a x : α} {l : List α} (h : x ∈ l) : x ∈ place a l := by
  induction l with
  | nil => simp at h
  | cons b rest ih =>
    unfold place
    split
    · simp [h]
    · exact h
    · rcases List.mem_cons.1 h with rfl | h
      · simp
      · simp [ih h]

theorem mem_place_self [Std.LawfulEqOrd α] (a : α) (l : List α) : a ∈ place a l := by
  induction l with
  | nil => simp [place]
  | cons b rest ih =>
    unfold place
    split
    · simp
    · next h => simp [Std.LawfulEqOrd.compare_eq_iff_eq.1 h]
    · simp [ih]

theorem ascending_place [Std.TransOrd α] (a : α) {l : List α}
    (h : l.Pairwise fun a b => compare a b = .lt) :
    (place a l).Pairwise fun a b => compare a b = .lt := by
  induction l with
  | nil => simp [place]
  | cons b rest ih =>
    have hb := List.pairwise_cons.1 h
    unfold place
    split
    · next hab =>
      refine List.pairwise_cons.2 ⟨fun c hc => ?_, h⟩
      rcases List.mem_cons.1 hc with rfl | hc
      · exact hab
      · exact Std.TransCmp.lt_trans hab (hb.1 c hc)
    · exact h
    · next hab =>
      refine List.pairwise_cons.2 ⟨fun c hc => ?_, ih hb.2⟩
      rcases mem_place hc with rfl | hc
      · exact Std.OrientedCmp.lt_of_gt hab
      · exact hb.1 c hc

def empty : SortedSet α := ⟨[], .nil⟩

instance : Inhabited (SortedSet α) := ⟨empty⟩

/-- The set with one more member. -/
def insert [Std.TransOrd α] (s : SortedSet α) (a : α) : SortedSet α :=
  ⟨place a s.toList, ascending_place a s.ascending⟩

/-- The members of a list. -/
def ofList [Std.TransOrd α] (l : List α) : SortedSet α := l.foldl insert empty

instance : Membership α (SortedSet α) := ⟨fun s a => a ∈ s.toList⟩

instance [DecidableEq α] (a : α) (s : SortedSet α) : Decidable (a ∈ s) :=
  inferInstanceAs (Decidable (a ∈ s.toList))

theorem mem_toList {a : α} {s : SortedSet α} : a ∈ s.toList ↔ a ∈ s := .rfl

theorem not_mem_empty (a : α) : a ∉ (empty : SortedSet α) := by simp [← mem_toList, empty]

theorem mem_insert [Std.TransOrd α] [Std.LawfulEqOrd α] {a x : α} {s : SortedSet α} :
    x ∈ s.insert a ↔ x = a ∨ x ∈ s := by
  constructor
  · exact mem_place
  · rintro (rfl | h)
    · exact mem_place_self x s.toList
    · exact mem_place_of_mem h

theorem mem_insert_self [Std.TransOrd α] [Std.LawfulEqOrd α] {a : α} {s : SortedSet α} : a ∈ s.insert a :=
  mem_insert.mpr (.inl rfl)

theorem mem_foldl_insert [Std.TransOrd α] [Std.LawfulEqOrd α] {x : α} (l : List α) (s : SortedSet α) :
    x ∈ l.foldl insert s ↔ x ∈ l ∨ x ∈ s := by
  induction l generalizing s with
  | nil => simp
  | cons a rest ih =>
    rw [List.foldl_cons, ih, mem_insert, List.mem_cons]
    grind

theorem mem_ofList [Std.TransOrd α] [Std.LawfulEqOrd α] {x : α} {l : List α} :
    x ∈ ofList l ↔ x ∈ l := by
  simp [ofList, mem_foldl_insert, not_mem_empty]

theorem eq_of_toList {s t : SortedSet α} (h : s.toList = t.toList) : s = t := by
  cases s; cases t; simp_all

/-- Strictly ascending lists with the same members are equal. -/
theorem eq_of_ascending [Std.TransOrd α] : ∀ {l m : List α},
    l.Pairwise (fun a b => compare a b = .lt) → m.Pairwise (fun a b => compare a b = .lt) →
    (∀ x, x ∈ l ↔ x ∈ m) → l = m
  | [], [], _, _, _ => rfl
  | [], b :: m, _, _, h => by simpa using h b
  | a :: l, [], _, _, h => by simpa using h a
  | a :: l, b :: m, hl, hm, h => by
    have hl' := List.pairwise_cons.1 hl
    have hm' := List.pairwise_cons.1 hm
    have irrefl : ∀ x : α, compare x x ≠ .lt := fun x hx => by
      rw [Std.ReflOrd.compare_self] at hx; cases hx
    have hab : a = b := by
      rcases List.mem_cons.1 ((h a).1 (by simp)) with hab | ha
      · exact hab
      · rcases List.mem_cons.1 ((h b).2 (by simp)) with hba | hb
        · exact hba.symm
        · exact absurd (Std.TransCmp.lt_trans (hm'.1 a ha) (hl'.1 b hb)) (irrefl b)
    subst hab
    congr 1
    refine eq_of_ascending hl'.2 hm'.2 fun x => ?_
    constructor
    · intro hx
      rcases List.mem_cons.1 ((h x).1 (by simp [hx])) with rfl | hx'
      · exact absurd (hl'.1 x hx) (irrefl x)
      · exact hx'
    · intro hx
      rcases List.mem_cons.1 ((h x).2 (by simp [hx])) with rfl | hx'
      · exact absurd (hm'.1 x hx) (irrefl x)
      · exact hx'

/-- A set is determined by its members. -/
theorem ext_mem [Std.TransOrd α] {s t : SortedSet α} (h : ∀ x, x ∈ s ↔ x ∈ t) : s = t :=
  eq_of_toList (eq_of_ascending s.ascending t.ascending h)

instance [DecidableEq α] : DecidableEq (SortedSet α) := fun s t =>
  decidable_of_iff (s.toList = t.toList) ⟨eq_of_toList, fun h => h ▸ rfl⟩

/-- Sets compare as the lists of their members. -/
instance : Ord (SortedSet α) := ⟨compareOn toList⟩

theorem compare_def (s t : SortedSet α) : compare s t = compare s.toList t.toList := rfl

instance [Std.TransOrd α] : Std.TransOrd (SortedSet α) := transOrd_of_fields toList compare_def

instance [Std.LawfulEqOrd α] : Std.LawfulEqOrd (SortedSet α) :=
  lawfulEqOrd_of_fields toList compare_def fun _ _ => eq_of_toList

end SortedSet

end RouteTemplate
