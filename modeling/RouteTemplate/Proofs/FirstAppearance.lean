import Mathlib.Data.List.Induction
import Mathlib.Data.List.Nodup

/- Lists without their repetitions.

   `List.eraseDups` keeps each member at its first appearance. What is appended counts where it did not appear before
   (`eraseDups_append_of_nodup`), and leaving members out comes to the same before and after (`eraseDups_filter`). -/
namespace RouteTemplate

variable {α : Type} [BEq α] [LawfulBEq α]

theorem eraseDups_of_nodup {l : List α} (h : l.Nodup) : l.eraseDups = l := by
  induction l with
  | nil => rfl
  | cons a l ih =>
    obtain ⟨new, h⟩ := List.nodup_cons.mp h
    have others : l.filter (fun b => !b == a) = l :=
      List.filter_eq_self.mpr fun b hb => by simpa using fun (heq : b = a) => new (heq ▸ hb)
    rw [List.eraseDups_cons, others, ih h]

/-- Of a list without repetitions those count that did not occur before. -/
theorem eraseDups_append_of_nodup (known : List α) {l : List α} (h : l.Nodup) :
    (known ++ l).eraseDups = known.eraseDups ++ l.filter (· ∉ known) := by
  have removed : l.removeAll known = l.filter (· ∉ known) := by
    rw [List.removeAll]
    exact List.filter_congr fun a _ => by simp
  rw [List.eraseDups_append, removed, eraseDups_of_nodup (h.filter _)]

theorem eraseDups_concat (known : List α) (a : α) :
    (known ++ [a]).eraseDups = if a ∈ known then known.eraseDups else known.eraseDups ++ [a] := by
  rw [eraseDups_append_of_nodup known (List.nodup_singleton a)]
  by_cases h : a ∈ known <;> simp [h]

theorem nodup_eraseDups (l : List α) : l.eraseDups.Nodup := by
  induction l using List.reverseRecOn with
  | nil => exact .nil
  | append_singleton l a ih =>
    rw [eraseDups_concat]
    split
    · exact ih
    · next new =>
      rw [← List.concat_eq_append, List.nodup_concat]
      exact ⟨fun hm => new (List.mem_eraseDups.mp hm), ih⟩

theorem eraseDups_filter (p : α → Bool) (l : List α) : (l.filter p).eraseDups = l.eraseDups.filter p := by
  induction l using List.reverseRecOn with
  | nil => rfl
  | append_singleton l a ih =>
    rw [List.filter_append, eraseDups_concat]
    cases hp : p a with
    | false =>
      rw [List.filter_cons_of_neg (by simp [hp]), List.filter_nil, List.append_nil, ih]
      split <;> simp [hp]
    | true =>
      rw [List.filter_cons_of_pos hp, List.filter_nil, eraseDups_concat, ih]
      by_cases h : a ∈ l <;> simp [h, hp]

end RouteTemplate
