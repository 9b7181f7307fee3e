import Mathlib.Data.List.Infix

/- Where a list stands in another.

   A list that is free of an element stands on one side of it (`infix_of_not_mem`); one that holds it in a single
   place may also stand across (`infix_append_cons_cases`). Two cuts at an element are the same, or one of them lies
   in a side of the other (`append_cons_cases`). -/
namespace RouteTemplate

variable {α : Type} {c : α}

/-! ## Beside an element -/

theorem prefix_of_not_mem : ∀ {w a b : List α}, c ∉ w → w <+: a ++ c :: b → w <+: a
  | [], _, _, _, _ => List.nil_prefix
  | d :: w, [], b, hc, h => by
    obtain ⟨rfl, -⟩ := List.cons_prefix_cons.mp h
    exact absurd List.mem_cons_self hc
  | d :: w, e :: a, b, hc, h => by
    rw [List.cons_append, List.cons_prefix_cons] at h
    exact List.cons_prefix_cons.mpr ⟨h.1, prefix_of_not_mem (fun hm => hc (List.mem_cons_of_mem _ hm)) h.2⟩

theorem infix_of_not_mem {w : List α} (hc : c ∉ w) : ∀ {a b : List α}, w <:+: a ++ c :: b → w <:+: a ∨ w <:+: b
  | [], b, h => by
    rcases List.infix_cons_iff.mp h with h | h
    · exact .inl (prefix_of_not_mem (a := []) hc h).isInfix
    · exact .inr h
  | d :: a, b, h => by
    rcases List.infix_cons_iff.mp h with h | h
    · exact .inl (prefix_of_not_mem (a := d :: a) hc h).isInfix
    · exact (infix_of_not_mem hc h).imp_left List.infix_cons

theorem infix_of_head_not_mem {w b : List α} : ∀ {a : List α}, c ∉ a → c :: w <:+: a ++ b → c :: w <:+: b
  | [], _, h => h
  | d :: a, hc, h => by
    rw [List.mem_cons, not_or] at hc
    rcases List.infix_cons_iff.mp h with h | h
    · exact absurd (List.cons_prefix_cons.mp h).1 hc.1
    · exact infix_of_head_not_mem hc.2 h

/-! ## Two cuts -/

/-- Two cuts of one text at a character are the same, or a side of the one holds the other. -/
theorem append_cons_cases {a b a' b' : List α} (h : a ++ c :: b = a' ++ c :: b') :
    (a = a' ∧ b = b') ∨ (∃ m, a = a' ++ c :: m ∧ b' = m ++ c :: b) ∨ ∃ m, a' = a ++ c :: m ∧ b = m ++ c :: b' := by
  rcases List.append_eq_append_iff.mp h with ⟨as, rfl, heq⟩ | ⟨bs, rfl, heq⟩
  · cases as with
    | nil => exact .inl ⟨by simp, (List.cons.inj heq).2⟩
    | cons d as =>
      obtain ⟨rfl, hb⟩ := List.cons.inj heq
      exact .inr (.inr ⟨as, rfl, hb⟩)
  · cases bs with
    | nil => exact .inl ⟨by simp, (List.cons.inj heq).2.symm⟩
    | cons d bs =>
      obtain ⟨rfl, hb⟩ := List.cons.inj heq
      exact .inr (.inl ⟨bs, rfl, hb⟩)

/-- At the first place of the character there is one cut. -/
theorem append_cons_inj {a b a' b' : List α} (ha : c ∉ a) (ha' : c ∉ a') (h : a ++ c :: b = a' ++ c :: b') :
    a = a' ∧ b = b' := by
  rcases append_cons_cases h with heq | ⟨m, rfl, -⟩ | ⟨m, rfl, -⟩
  · exact heq
  · simp at ha
  · simp at ha'

theorem exists_of_append_cons_eq_append {a b x d : List α} (hd : c ∉ d) (h : a ++ c :: b = x ++ d) :
    ∃ rest, x = a ++ c :: rest ∧ b = rest ++ d := by
  rcases List.append_eq_append_iff.mp h with ⟨as, hx, heq⟩ | ⟨bs, -, heq⟩
  · cases as with
    | nil =>
      rw [List.nil_append] at heq
      rw [← heq] at hd
      simp at hd
    | cons e rest =>
      obtain ⟨rfl, hb⟩ := List.cons.inj heq
      exact ⟨rest, hx, hb⟩
  · rw [heq] at hd
    simp at hd

theorem exists_of_cons_eq_append_cons {d : α} {t x y : List α} (hne : d ≠ c) (h : d :: t = x ++ c :: y) :
    ∃ rest, x = d :: rest ∧ t = rest ++ c :: y := by
  rcases List.cons_eq_append_iff.mp h with ⟨-, heq⟩ | heq
  · exact absurd (List.cons.inj heq).1.symm hne
  · exact heq

theorem prefix_append_cons_cases {u v a b : List α} (hu : c ∉ u) (hv : c ∉ v) (h : u ++ c :: v <+: a ++ c :: b) :
    u ++ c :: v <+: a ∨ u = a ∧ v <+: b := by
  obtain ⟨t, ht⟩ := h
  rw [List.append_assoc, List.cons_append] at ht
  rcases append_cons_cases ht with ⟨rfl, hb⟩ | ⟨m, rfl, -⟩ | ⟨m, rfl, hm⟩
  · exact .inr ⟨rfl, t, hb⟩
  · simp at hu
  · have hvm : v <+: m := prefix_of_not_mem hv ⟨t, hm⟩
    exact .inl ((List.prefix_append_right_inj u).mpr (List.cons_prefix_cons.mpr ⟨rfl, hvm⟩))

theorem infix_append_cons_cases {u v b : List α} (hu : c ∉ u) (hv : c ∉ v) : ∀ {a : List α},
    u ++ c :: v <:+: a ++ c :: b → u ++ c :: v <:+: a ∨ u ++ c :: v <:+: b ∨ u <:+ a ∧ v <+: b
  | [], h => by
    rcases List.infix_cons_iff.mp h with h | h
    · rcases prefix_append_cons_cases (a := []) hu hv h with h | ⟨rfl, hb⟩
      · exact .inl h.isInfix
      · exact .inr (.inr ⟨List.suffix_rfl, hb⟩)
    · exact .inr (.inl h)
  | d :: a, h => by
    rcases List.infix_cons_iff.mp h with h | h
    · rcases prefix_append_cons_cases (a := d :: a) hu hv h with h | ⟨rfl, hb⟩
      · exact .inl h.isInfix
      · exact .inr (.inr ⟨List.suffix_rfl, hb⟩)
    · rcases infix_append_cons_cases hu hv h with h | h | ⟨h, hb⟩
      · exact .inl (List.infix_cons h)
      · exact .inr (.inl h)
      · exact .inr (.inr ⟨h.trans (List.suffix_cons d a), hb⟩)

end RouteTemplate
