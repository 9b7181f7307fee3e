import Mathlib.Data.List.Induction
import Mathlib.Data.List.Nodup
import RouteTemplate.Dict

/- Tables collected from lists.

   A list of entries is collected by entering them in turn, so the value of a name is that of its last entry
   (`get?_ofList_eq_some_iff`). Where no name has two values in the list, and in particular where things of
   different names are collected, every entry is found again (`get?_ofList_of_functional`,
   `get?_ofList_filterMap`), and the order of the list is lost (`ofList_filterMap_of_perm`). -/
namespace RouteTemplate

namespace Dict

variable {β : Type} {name : Text} {b : β}

theorem get?_foldl_insert (l : List (Text × β)) : ∀ d : Dict β,
    (l.foldl (fun d e => d.insert e.1 e.2) d).get? name = some b ↔
      (∃ before after, l = before ++ (name, b) :: after ∧ ∀ e ∈ after, e.1 ≠ name) ∨
      ((∀ e ∈ l, e.1 ≠ name) ∧ d.get? name = some b) := by
  induction l with
  | nil => simp
  | cons e l ih =>
    intro d
    -- The first entry counts only when no later one has its name.
    rw [List.foldl_cons, ih, get?_insert]
    refine ⟨?_, ?_⟩
    · intro h
      rcases h with ⟨before, after, rfl, last⟩ | ⟨none_after, hd⟩
      · exact .inl ⟨e :: before, after, rfl, last⟩
      · by_cases he : e.1 = name
        · rw [if_pos he] at hd
          exact .inl ⟨[], l, by rw [← he, ← Option.some.inj hd]; rfl, none_after⟩
        · rw [if_neg he] at hd
          refine .inr ⟨fun x hx => ?_, hd⟩
          rcases List.mem_cons.mp hx with rfl | hx
          · exact he
          · exact none_after x hx
    · intro h
      rcases h with ⟨before, after, split, last⟩ | ⟨none_in, hd⟩
      · cases before with
        | nil =>
          obtain ⟨rfl, rfl⟩ := List.cons.inj split
          exact .inr ⟨last, if_pos rfl⟩
        | cons x before =>
          obtain ⟨rfl, rfl⟩ := List.cons.inj split
          exact .inl ⟨before, after, rfl, last⟩
      · exact .inr ⟨fun x hx => none_in x (List.mem_cons_of_mem _ hx), by
          rw [if_neg (none_in e List.mem_cons_self), hd]⟩

theorem nodup_names (d : Dict β) : d.names.Nodup := by
  rw [names, List.Nodup, List.pairwise_map]
  refine d.ascending.imp fun hlt heq => ?_
  rw [heq, Std.ReflOrd.compare_self] at hlt
  cases hlt

theorem place_perm {l : List (Text × β)} (new : ∀ e ∈ l, e.1 ≠ name) : (place name b l).Perm ((name, b) :: l) := by
  induction l with
  | nil => exact .refl _
  | cons e rest ih =>
    obtain ⟨other, others⟩ := List.forall_mem_cons.mp new
    unfold place
    split
    · exact .refl _
    · next heq => exact absurd (Std.LawfulEqOrd.eq_of_compare heq).symm other
    · exact ((ih others).cons e).trans (.swap (name, b) e rest)

theorem entries_insert_perm {d : Dict β} (new : d.get? name = none) :
    (d.insert name b).entries.Perm ((name, b) :: d.entries) := by
  refine place_perm fun e he heq => ?_
  have found : d.get? name = some e.2 := get?_eq_some_iff.mpr (by rw [← heq]; exact he)
  rw [new] at found
  cases found

/-- A name has the value of its last entry. -/
theorem get?_ofList_eq_some_iff {l : List (Text × β)} : (ofList l).get? name = some b ↔
    ∃ before after, l = before ++ (name, b) :: after ∧ ∀ e ∈ after, e.1 ≠ name := by
  rw [ofList, get?_foldl_insert]
  simp

theorem mem_of_get?_ofList {l : List (Text × β)} (h : (ofList l).get? name = some b) : (name, b) ∈ l := by
  obtain ⟨before, after, rfl, -⟩ := get?_ofList_eq_some_iff.mp h
  simp

theorem exists_get?_ofList {l : List (Text × β)} (h : (name, b) ∈ l) : ∃ c, (ofList l).get? name = some c := by
  cases hc : (ofList l).get? name with
  | some c => exact ⟨c, rfl⟩
  | none =>
    induction l using List.reverseRecOn with
    | nil => cases h
    | append_singleton l e ih =>
      rw [ofList, List.foldl_append, List.foldl_cons, List.foldl_nil, get?_insert] at hc
      split at hc
      · cases hc
      · next he =>
        rcases List.mem_append.mp h with h | h
        · exact ih h hc
        · exact absurd (by rw [← List.mem_singleton.mp h]) he

/-- Where no name has two values, every entry is found. -/
theorem get?_ofList_of_functional {l : List (Text × β)}
    (h : ∀ name b c, (name, b) ∈ l → (name, c) ∈ l → b = c) : (ofList l).get? name = some b ↔ (name, b) ∈ l := by
  refine ⟨mem_of_get?_ofList, fun hm => ?_⟩
  obtain ⟨c, hc⟩ := exists_get?_ofList hm
  rw [hc, h name b c hm (mem_of_get?_ofList hc)]

theorem get?_ofList_of_nodup {l : List (Text × β)} (hd : (l.map (·.1)).Nodup) :
    (ofList l).get? name = some b ↔ (name, b) ∈ l := by
  refine get?_ofList_of_functional fun n c c' hc hc' => ?_
  exact congrArg Prod.snd (List.inj_on_of_nodup_map hd hc hc' rfl)

theorem ofList_entries (d : Dict β) : ofList d.entries = d := by
  refine ext_get? fun name => Option.ext fun b => ?_
  rw [get?_ofList_of_nodup d.nodup_names, get?_eq_some_iff]

theorem get?_ofList_filterMap {α : Type} {l : List α} {key : α → Text} (hd : (l.map key).Nodup)
    (f : α → Option β) :
    (ofList (l.filterMap fun a => (f a).map (key a, ·))).get? name = some b ↔ ∃ a ∈ l, key a = name ∧ f a = some b := by
  have mem : ∀ n c, (n, c) ∈ l.filterMap (fun a => (f a).map (key a, ·)) ↔ ∃ a ∈ l, key a = n ∧ f a = some c := by
    intro n c
    simp only [List.mem_filterMap, Option.map_eq_some_iff, Prod.mk.injEq]
    refine ⟨?_, ?_⟩
    · intro h
      obtain ⟨a, ha, v, hv, rfl, rfl⟩ := h
      exact ⟨a, ha, rfl, hv⟩
    · intro h
      obtain ⟨a, ha, rfl, hv⟩ := h
      exact ⟨a, ha, c, hv, rfl, rfl⟩
  rw [get?_ofList_of_functional, mem]
  intro n c c' hc hc'
  obtain ⟨a, ha, hn, hf⟩ := (mem n c).mp hc
  obtain ⟨a', ha', hn', hf'⟩ := (mem n c').mp hc'
  have same : a = a' := List.inj_on_of_nodup_map hd ha ha' (hn.trans hn'.symm)
  subst same
  exact Option.some.inj (hf.symm.trans hf')

theorem ofList_filterMap_of_perm {α : Type} {l l' : List α} {key : α → Text} (hd : (l.map key).Nodup) (h : l.Perm l')
    (f : α → Option β) :
    ofList (l.filterMap fun a => (f a).map (key a, ·)) = ofList (l'.filterMap fun a => (f a).map (key a, ·)) := by
  have hd' : (l'.map key).Nodup := (h.map key).nodup_iff.mp hd
  refine ext_get? fun name => Option.ext fun b => ?_
  rw [get?_ofList_filterMap hd, get?_ofList_filterMap hd']
  exact exists_congr fun a => and_congr_left fun _ => h.mem_iff

end Dict

end RouteTemplate
