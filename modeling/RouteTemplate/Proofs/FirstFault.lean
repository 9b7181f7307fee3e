import Mathlib.Data.List.Induction
import Mathlib.Data.List.Nodup

/- Runs that end at the first fault.

   A list is worked off from the left; each item changes a state or ends the run. What speaks against an item may
   depend on the items before it, and not only on itself: a name may be taken. Where the state after some items tells
   what speaks against the next (`Follows`), a run over a list fails with the fault of the first item that has one
   (`Follows.foldlM_eq_error_iff`), and succeeds when there is none (`Follows.exists_foldlM_eq_ok_iff`). Where an item
   is at fault on its own or for a key that an earlier one has, there is none exactly when every item is good and no
   two have one key (`faultless_iff_eachOnce`). -/
namespace RouteTemplate

variable {α β ε : Type} {faults : List α → α → ε → Prop} {l : List α} {a : α} {e : ε}

/-! ## Faults -/

/-- Nothing speaks against an item after the items before it. -/
def Faultless (faults : List α → α → ε → Prop) (l : List α) : Prop :=
  ∀ before a after, l = before ++ a :: after → ∀ e, ¬ faults before a e

/-- The fault of the first item that has one, after the items before it. -/
def FirstFault (faults : List α → α → ε → Prop) (l : List α) (e : ε) : Prop :=
  ∃ before a after, l = before ++ a :: after ∧ Faultless faults before ∧ faults before a e

theorem faultless_nil : Faultless faults [] := by
  intro before a after h
  simp at h

theorem FirstFault.not_faultless (h : FirstFault faults l e) : ¬ Faultless faults l := by
  intro none_at
  obtain ⟨before, a, after, split, -, fault⟩ := h
  exact none_at before a after split e fault

theorem concat_eq_append_cons_iff {before after : List α} {b : α} : l ++ [a] = before ++ b :: after ↔
    (l = before ∧ a = b ∧ after = []) ∨ ∃ rest, after = rest ++ [a] ∧ l = before ++ b :: rest := by
  refine ⟨fun h => ?_, fun h => ?_⟩
  · induction after using List.reverseRecOn with
    | nil =>
      obtain ⟨rfl, heq⟩ := List.append_inj' h rfl
      exact .inl ⟨rfl, List.singleton_inj.mp heq, rfl⟩
    | append_singleton rest c _ =>
      rw [← List.cons_append, ← List.append_assoc] at h
      obtain ⟨rfl, heq⟩ := List.append_inj' h rfl
      exact .inr ⟨rest, by rw [List.singleton_inj.mp heq], rfl⟩
  · rcases h with ⟨rfl, rfl, rfl⟩ | ⟨rest, rfl, rfl⟩
    · rfl
    · simp

theorem faultless_concat : Faultless faults (l ++ [a]) ↔ Faultless faults l ∧ ∀ e, ¬ faults l a e := by
  refine ⟨fun h => ⟨?_, h l a [] rfl⟩, fun h => ?_⟩
  · intro before b after split
    exact h before b (after ++ [a]) (by rw [split]; simp)
  · intro before b after split
    rcases concat_eq_append_cons_iff.mp split with ⟨rfl, rfl, -⟩ | ⟨rest, -, earlier⟩
    · exact h.2
    · exact h.1 before b rest earlier

theorem firstFault_concat :
    FirstFault faults (l ++ [a]) e ↔ FirstFault faults l e ∨ (Faultless faults l ∧ faults l a e) := by
  refine ⟨fun h => ?_, fun h => ?_⟩
  · obtain ⟨before, b, after, split, passed, fault⟩ := h
    rcases concat_eq_append_cons_iff.mp split with ⟨rfl, rfl, -⟩ | ⟨rest, -, earlier⟩
    · exact .inr ⟨passed, fault⟩
    · exact .inl ⟨before, b, rest, earlier, passed, fault⟩
  · rcases h with ⟨before, b, after, rfl, passed, fault⟩ | ⟨passed, fault⟩
    · exact ⟨before, b, after ++ [a], by simp, passed, fault⟩
    · exact ⟨l, a, [], rfl, passed, fault⟩

/-! ## Items with keys -/

/-- Every item is good on its own, and no two have one key. -/
structure EachOnce {κ : Type} (good : α → Prop) (key : α → κ) (l : List α) : Prop where
  good : ∀ a ∈ l, good a
  keys : (l.map key).Nodup

section
variable {κ : Type} {good : α → Prop} {key : α → κ}

theorem EachOnce.perm {l' : List α} (h : EachOnce good key l) (perm : l.Perm l') : EachOnce good key l' :=
  ⟨fun a ha => h.good a (perm.mem_iff.mpr ha), (perm.map key).nodup_iff.mp h.keys⟩

theorem eachOnce_concat :
    EachOnce good key (l ++ [a]) ↔ EachOnce good key l ∧ good a ∧ key a ∉ l.map key := by
  have keys : ((l ++ [a]).map key).Nodup ↔ key a ∉ l.map key ∧ (l.map key).Nodup := by
    rw [List.map_append, List.map_singleton, ← List.concat_eq_append, List.nodup_concat]
  refine ⟨fun h => ?_, fun ⟨before, here, new⟩ => ⟨fun b hb => ?_, keys.mpr ⟨new, before.keys⟩⟩⟩
  · obtain ⟨new, distinct⟩ := keys.mp h.keys
    exact ⟨⟨fun b hb => h.good b (List.mem_append_left _ hb), distinct⟩,
      h.good a (List.mem_append_right _ (List.mem_singleton_self a)), new⟩
  · rcases List.mem_append.mp hb with hb | hb
    · exact before.good b hb
    · rw [List.mem_singleton.mp hb]
      exact here

theorem faultless_iff_eachOnce
    (h : ∀ done a, EachOnce good key done → ((∀ e, ¬ faults done a e) ↔ good a ∧ key a ∉ done.map key)) :
    Faultless faults l ↔ EachOnce good key l := by
  induction l using List.reverseRecOn with
  | nil => exact iff_of_true faultless_nil ⟨by simp, .nil⟩
  | append_singleton l a ih =>
    rw [faultless_concat, ih, eachOnce_concat]
    exact and_congr_right (h l a)

end

/-! ## Runs -/

/-- What holds of the state after some items decides the next step: it fails for what speaks against the item, and
    otherwise the same holds after one item more. -/
structure Follows (step : β → α → Except ε β) (faults : List α → α → ε → Prop) (holds : List α → β → Prop) : Prop where
  error_iff {done : List α} {b : β} {a : α} {e : ε} : holds done b → (step b a = .error e ↔ faults done a e)
  next {done : List α} {b b' : β} {a : α} : holds done b → step b a = .ok b' → holds (done ++ [a]) b'

namespace Follows

variable {step : β → α → Except ε β} {holds : List α → β → Prop} {start b : β}

/-- A run has worked off all items, and found none at fault, or it stands at the first fault. -/
theorem run_cases (h : Follows step faults holds) (hstart : holds [] start) (l : List α) :
    (∃ b, l.foldlM step start = .ok b ∧ Faultless faults l ∧ holds l b) ∨
      ∃ e, l.foldlM step start = .error e ∧ ∀ e', FirstFault faults l e' ↔ e = e' := by
  induction l using List.reverseRecOn with
  | nil => exact .inl ⟨start, rfl, faultless_nil, hstart⟩
  | append_singleton l a ih =>
    rcases ih with ⟨b, run, passed, held⟩ | ⟨e, run, first⟩
    · have last : (l ++ [a]).foldlM step start = step b a := by
        rw [List.foldlM_append, run]
        exact bind_pure (step b a)
      cases result : step b a with
      | ok b' =>
        have pass : ∀ e, ¬ faults l a e := by
          intro e fault
          rw [(h.error_iff held).mpr fault] at result
          cases result
        exact .inl ⟨b', last.trans result, faultless_concat.mpr ⟨passed, pass⟩, h.next held result⟩
      | error e =>
        refine .inr ⟨e, last.trans result, fun e' => ?_⟩
        have here : faults l a e' ↔ e = e' := by rw [← h.error_iff held, result, Except.error.injEq]
        rw [firstFault_concat, here]
        -- No item before it was at fault.
        exact ⟨fun hf => hf.elim (fun earlier => absurd passed earlier.not_faultless) (·.2),
          fun heq => .inr ⟨passed, heq⟩⟩
    · refine .inr ⟨e, by rw [List.foldlM_append, run]; rfl, fun e' => ?_⟩
      rw [firstFault_concat, first]
      exact or_iff_left fun later => ((first e).mpr rfl).not_faultless later.1

/-- A run fails with the fault of the first item that has one. -/
theorem foldlM_eq_error_iff (h : Follows step faults holds) (hstart : holds [] start) :
    l.foldlM step start = .error e ↔ FirstFault faults l e := by
  rcases h.run_cases hstart l with ⟨b, run, passed, -⟩ | ⟨e', run, first⟩
  · rw [run]
    exact iff_of_false (by simp) fun fault => fault.not_faultless passed
  · rw [run, first, Except.error.injEq]

theorem exists_foldlM_eq_ok_iff (h : Follows step faults holds) (hstart : holds [] start) :
    (∃ b, l.foldlM step start = .ok b) ↔ Faultless faults l := by
  rcases h.run_cases hstart l with ⟨b, run, passed, -⟩ | ⟨e, run, first⟩
  · exact iff_of_true ⟨b, run⟩ passed
  · rw [run]
    exact iff_of_false (by simp) ((first e).mpr rfl).not_faultless

theorem holds_of_foldlM (h : Follows step faults holds) (hstart : holds [] start)
    (run : l.foldlM step start = .ok b) : holds l b := by
  rcases h.run_cases hstart l with ⟨b', run', -, held⟩ | ⟨e, run', -⟩
  · rw [run] at run'
    cases run'
    exact held
  · rw [run] at run'
    cases run'

end Follows

end RouteTemplate
