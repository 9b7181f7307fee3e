import RouteTemplate.Text
import RouteTemplate.SortedSet

/- Tables from names to values, in the order of their names.

   A `Dict` is a list of entries whose names ascend strictly, so a table has one representation: two
   tables that answer every look-up alike are equal (`Dict.ext_get?`). `insert` gives a name its value,
   replacing an earlier one (`get?_insert`), and `ofList` enters a list in turn, so that of two entries
   with one name the later counts. -/
namespace RouteTemplate

/-- Named values, strictly ascending by name. -/
structure Dict (β : Type) where
  entries : List (Text × β)
  ascending : entries.Pairwise fun a b => compare a.1 b.1 = .lt

namespace Dict

variable {β : Type}

/-- Entries with `name` given the value `b`, in its place. -/
def place (name : Text) (b : β) : List (Text × β) → List (Text × β)
  | [] => [(name, b)]
  | (other, c) :: rest =>
    match compare name other with
    | .lt => (name, b) :: (other, c) :: rest
    | .eq => (name, b) :: rest
    | .gt => (other, c) :: place name b rest

/-- The value of the first entry with the name. -/
def find? (name : Text) : List (Text × β) → Option β
  | [] => none
  | (other, c) :: rest => if other = name then some c else find? name rest

theorem fst_mem_place {name : Text} {b : β} {e : Text × β} {l : List (Text × β)}
    (h : e ∈ place name b l) : e.1 = name ∨ e ∈ l := by
  induction l with
  | nil => simp [place] at h; simp [h]
  | cons d rest ih =>
    unfold place at h
    split at h
    · rcases List.mem_cons.1 h with rfl | h
      · simp
      · exact .inr h
    · rcases List.mem_cons.1 h with rfl | h
      · simp
      · simp [h]
    · rcases List.mem_cons.1 h with rfl | h
      · simp
      · rcases ih h with h | h
        · exact .inl h
        · simp [h]

theorem ascending_place (name : Text) (b : β) {l : List (Text × β)}
    (h : l.Pairwise fun a b => compare a.1 b.1 = .lt) :
    (place name b l).Pairwise fun a b => compare a.1 b.1 = .lt := by
  induction l with
  | nil => simp [place]
  | cons d rest ih =>
    have hd := List.pairwise_cons.1 h
    unfold place
    split
    · next hlt =>
      refine List.pairwise_cons.2 ⟨fun e he => ?_, h⟩
      rcases List.mem_cons.1 he with rfl | he
      · exact hlt
      · exact Std.TransCmp.lt_trans hlt (hd.1 e he)
    · next heq =>
      refine List.pairwise_cons.2 ⟨fun e he => ?_, hd.2⟩
      rw [Std.LawfulEqOrd.compare_eq_iff_eq.1 heq]
      exact hd.1 e he
    · next hgt =>
      refine List.pairwise_cons.2 ⟨fun e he => ?_, ih hd.2⟩
      rcases fst_mem_place he with he | he
      · rw [he]; exact Std.OrientedCmp.lt_of_gt hgt
      · exact hd.1 e he

theorem find?_place (name other : Text) (b : β) (l : List (Text × β)) :
    find? other (place name b l) = if name = other then some b else find? other l := by
  induction l with
  | nil => simp [place, find?]
  | cons d rest ih =>
    obtain ⟨n, c⟩ := d
    unfold place
    split
    · simp [find?]
    · next heq =>
      have := Std.LawfulEqOrd.compare_eq_iff_eq.1 heq
      subst this
      by_cases h : name = other <;> simp [find?, h]
    · next hgt =>
      have hne : name ≠ n := fun h => by simp [h, Std.ReflOrd.compare_self] at hgt
      simp only [find?, ih]
      by_cases h : n = other
      · subst h; simp [hne]
      · simp [h]

def empty : Dict β := ⟨[], .nil⟩

instance : Inhabited (Dict β) := ⟨empty⟩

/-- The table with `name` given the value `b`. -/
def insert (d : Dict β) (name : Text) (b : β) : Dict β :=
  ⟨place name b d.entries, ascending_place name b d.ascending⟩

/-- The value of a name. -/
def get? (d : Dict β) (name : Text) : Option β := find? name d.entries

/-- The entries of a list, the later of two with one name counting. -/
def ofList (l : List (Text × β)) : Dict β := l.foldl (fun d e => d.insert e.1 e.2) empty

/-- The names that have a value, in order. -/
def names (d : Dict β) : List Text := d.entries.map (·.1)

/-- Does the name have a value? -/
def contains (d : Dict β) (name : Text) : Bool := (d.get? name).isSome

theorem contains_iff {d : Dict β} {name : Text} : d.contains name = true ↔ ∃ b, d.get? name = some b :=
  Option.isSome_iff_exists

@[simp] theorem get?_empty (name : Text) : (empty : Dict β).get? name = none := rfl

theorem get?_insert (d : Dict β) (name other : Text) (b : β) :
    (d.insert name b).get? other = if name = other then some b else d.get? other :=
  find?_place name other b d.entries

theorem find?_eq_some_iff {name : Text} {b : β} : ∀ {l : List (Text × β)},
    l.Pairwise (fun a b => compare a.1 b.1 = .lt) → (find? name l = some b ↔ (name, b) ∈ l)
  | [], _ => by simp [find?]
  | (n, c) :: rest, h => by
    have h' := List.pairwise_cons.1 h
    simp only [find?, List.mem_cons, Prod.mk.injEq]
    split
    · next hn =>
      subst hn
      constructor
      · intro hc; cases hc; simp
      · rintro (⟨-, rfl⟩ | hm)
        · rfl
        · have := h'.1 _ hm
          simp [Std.ReflOrd.compare_self] at this
    · next hn =>
      rw [find?_eq_some_iff h'.2]
      constructor
      · exact .inr
      · rintro (⟨rfl, -⟩ | hm)
        · exact absurd rfl hn
        · exact hm

/-- A look-up finds exactly the entries. -/
theorem get?_eq_some_iff {d : Dict β} {name : Text} {b : β} :
    d.get? name = some b ↔ (name, b) ∈ d.entries := find?_eq_some_iff d.ascending

theorem eq_of_entries {d e : Dict β} (h : d.entries = e.entries) : d = e := by
  cases d; cases e; simp_all

theorem eq_of_find? : ∀ {l m : List (Text × β)},
    l.Pairwise (fun a b => compare a.1 b.1 = .lt) → m.Pairwise (fun a b => compare a.1 b.1 = .lt) →
    (∀ name, find? name l = find? name m) → l = m
  | [], [], _, _, _ => rfl
  | [], (n, c) :: m, _, _, h => by have := h n; simp [find?] at this
  | (n, c) :: l, [], _, _, h => by have := h n; simp [find?] at this
  | (n, c) :: l, (k, e) :: m, hl, hm, h => by
    have hl' := List.pairwise_cons.1 hl
    have hm' := List.pairwise_cons.1 hm
    have memEq : ∀ name b, (name, b) ∈ (n, c) :: l ↔ (name, b) ∈ (k, e) :: m := fun name b => by
      rw [← find?_eq_some_iff hl, ← find?_eq_some_iff hm, h]
    have hhead : (n, c) = (k, e) := by
      rcases List.mem_cons.1 ((memEq n c).1 (by simp)) with hnk | hn
      · exact hnk
      · rcases List.mem_cons.1 ((memEq k e).2 (by simp)) with hkn | hk
        · exact hkn.symm
        · have := Std.TransCmp.lt_trans (hm'.1 _ hn) (hl'.1 _ hk)
          simp [Std.ReflOrd.compare_self] at this
    cases hhead
    congr 1
    refine eq_of_find? hl'.2 hm'.2 fun name => ?_
    by_cases hn : n = name
    · subst hn
      have none_of : ∀ {r : List (Text × β)}, r.Pairwise (fun a b => compare a.1 b.1 = .lt) →
          (∀ x ∈ r, compare n x.1 = .lt) → find? n r = none := fun {r} hr hall => by
        cases hf : find? n r with
        | none => rfl
        | some b =>
          have := hall _ ((find?_eq_some_iff hr).1 hf)
          simp [Std.ReflOrd.compare_self] at this
      rw [none_of hl'.2 hl'.1, none_of hm'.2 hm'.1]
    · simpa [find?, hn] using h name

/-- A table is determined by its look-ups. -/
theorem ext_get? {d e : Dict β} (h : ∀ name, d.get? name = e.get? name) : d = e :=
  eq_of_entries (eq_of_find? d.ascending e.ascending h)

instance [DecidableEq β] : DecidableEq (Dict β) := fun d e =>
  decidable_of_iff (d.entries = e.entries) ⟨eq_of_entries, fun h => h ▸ rfl⟩

/-! Tables compare as the lists of their entries, an entry by its name and then its value. -/

/-- The comparison of entries. -/
def compareEntries [Ord β] : Text × β → Text × β → Ordering :=
  compareLex (compareOn Prod.fst) (compareOn Prod.snd)

instance [Ord β] : Ord (Dict β) := ⟨fun d e => d.entries.compareLex compareEntries e.entries⟩

theorem compare_def [Ord β] (d e : Dict β) :
    compare d e = List.compareLex compareEntries d.entries e.entries := rfl

section
attribute [local instance] lexOrd

instance [Ord β] [Std.LawfulEqOrd β] : Std.LawfulEqCmp (compareEntries (β := β)) :=
  inferInstanceAs (Std.LawfulEqOrd (Text × β))

instance [Ord β] [Std.TransOrd β] : Std.TransOrd (Dict β) := transOrd_of_fields entries compare_def

instance [Ord β] [Std.LawfulEqOrd β] : Std.LawfulEqOrd (Dict β) :=
  lawfulEqOrd_of_fields entries compare_def fun _ _ => eq_of_entries

end

end Dict

end RouteTemplate
