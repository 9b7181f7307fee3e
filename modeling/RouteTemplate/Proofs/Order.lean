import Mathlib.Order.Defs.Unbundled
import RouteTemplate.Shape

/- The order of listings.

   Leaves are listed by their paths, then by their queries, then by the keys they take and then by those they do not
   take; lists stand in the order of their first members that differ, and a list stands before one that it begins. The
   relations say so of each kind of thing, down to texts, whose characters count by code point (`Leaf.Before`). A
   comparison decides such a relation from its parts (`compareLex_eq_lt_iff`, `compareLex_list_eq_lt_iff`), and so the
   comparison of leaves decides theirs (`Leaf.compare_eq_lt_iff`). What a comparison decides that is transitive, and
   equal on equal things only, is a strict total order (`strictTotalOrder_of_compare`). -/
namespace RouteTemplate

/-! ## The relations -/

/-- By code point at the first character that differs, or where a text ends and the other goes on. -/
def Text.Before : Text → Text → Prop := List.Lex fun c d => c.toNat < d.toNat

/-- Literals before parameters, and those of one kind by their text. -/
inductive Atom.Before : Atom → Atom → Prop
  | kind {text name : Text} : Atom.Before (.literal text) (.param name)
  | literal {text text' : Text} : text.Before text' → Atom.Before (.literal text) (.literal text')
  | param {name name' : Text} : name.Before name' → Atom.Before (.param name) (.param name')

/-- By the atom, and then what is required before what is optional. -/
inductive Rule.Before (a b : Rule) : Prop
  | atom : a.atom.Before b.atom → Before a b
  | optional : a.atom = b.atom → a.optional = false → b.optional = true → Before a b

/-- By the name, and then by what is asked of it. -/
inductive Rule.NamedBefore (a b : Text × Rule) : Prop
  | name : a.1.Before b.1 → NamedBefore a b
  | rule : a.1 = b.1 → a.2.Before b.2 → NamedBefore a b

/-- By the path, and then by the query in the order of its names. -/
inductive Shape.Before (a b : Shape) : Prop
  | path : List.Lex Atom.Before a.path b.path → Before a b
  | query : a.path = b.path → List.Lex Rule.NamedBefore a.query.entries b.query.entries → Before a b

/-- By the shape, then by the keys taken, and then by the keys not taken. -/
inductive Leaf.Before (a b : Leaf) : Prop
  | shape : a.shape.Before b.shape → Before a b
  | taken : a.shape = b.shape → List.Lex Text.Before a.taken.toList b.taken.toList → Before a b
  | untaken : a.shape = b.shape → a.taken = b.taken →
      List.Lex Text.Before a.untaken.toList b.untaken.toList → Before a b

/-! ## What comparisons decide -/

section
variable {α : Type}

/-- Of two comparisons one after the other, the second counts where the first finds no difference. -/
theorem compareLex_eq_lt_iff {first second : α → α → Ordering} {a b : α} : compareLex first second a b = .lt ↔
    first a b = .lt ∨ first a b = .eq ∧ second a b = .lt :=
  Ordering.then_eq_lt

/-- Lists are compared at their first members that differ. -/
theorem compareLex_list_eq_lt_iff {cmp : α → α → Ordering} [Std.LawfulEqCmp cmp] {before : α → α → Prop}
    (h : ∀ a b, cmp a b = .lt ↔ before a b) : ∀ l m : List α, l.compareLex cmp m = .lt ↔ List.Lex before l m
  | [], [] => iff_of_false (by simp [List.compareLex_nil_nil]) nofun
  | [], b :: m => iff_of_true List.compareLex_nil_cons .nil
  | a :: l, [] => iff_of_false (by simp [List.compareLex_cons_nil]) nofun
  | a :: l, b :: m => by
    rw [List.compareLex_cons_cons, Ordering.then_eq_lt, h, Std.LawfulEqCmp.compare_eq_iff_eq,
      compareLex_list_eq_lt_iff h l m]
    constructor
    · intro less
      rcases less with first | ⟨rfl, rest⟩
      · exact .rel first
      · exact .cons rest
    · intro less
      cases less with
      | rel first => exact .inl first
      | cons rest => exact .inr ⟨rfl, rest⟩

theorem compare_list_eq_lt_iff [Ord α] [Std.LawfulEqOrd α] {before : α → α → Prop}
    (h : ∀ a b : α, compare a b = .lt ↔ before a b) (l m : List α) : compare l m = .lt ↔ List.Lex before l m := by
  rw [List.compare_eq_compareLex]
  exact compareLex_list_eq_lt_iff h l m

theorem strictTotalOrder_of_compare [Ord α] [Std.TransOrd α] [Std.LawfulEqOrd α] {before : α → α → Prop}
    (h : ∀ a b : α, compare a b = .lt ↔ before a b) : IsStrictTotalOrder α before where
  irrefl a less := by
    rw [← h, Std.ReflOrd.compare_self] at less
    cases less
  trans a b c less less' := by
    rw [← h] at less less' ⊢
    exact Std.TransCmp.lt_trans less less'
  trichotomous a b nless nless' := by
    rw [← h] at nless nless'
    cases hc : compare a b with
    | lt => exact absurd hc nless
    | eq => exact Std.LawfulEqOrd.eq_of_compare hc
    | gt => exact absurd (Std.OrientedCmp.lt_of_gt hc) nless'

end

/-! ## The comparison of leaves -/

theorem Text.compare_eq_lt_iff (a b : Text) : compare a b = .lt ↔ a.Before b := by
  refine compare_list_eq_lt_iff (fun c d => ?_) a b
  show compareOfLessAndEq c d = .lt ↔ _
  rw [compareOfLessAndEq_eq_lt]
  rfl

theorem Atom.compare_eq_lt_iff (a b : Atom) : compare a b = .lt ↔ a.Before b := by
  rw [compare_def, compareLex_eq_lt_iff]
  simp only [compareOn, Text.compare_eq_lt_iff]
  constructor
  · intro less
    cases a with
    | literal text =>
      cases b with
      | literal text' => exact .literal (less.resolve_left nofun).2
      | param name => exact .kind
    | param name =>
      cases b with
      | literal text => exact absurd less (by simp [isParam])
      | param name' => exact .param (less.resolve_left nofun).2
  · intro less
    cases less with
    | kind => exact .inl rfl
    | literal less | param less => exact .inr ⟨rfl, less⟩

theorem Rule.compare_eq_lt_iff (a b : Rule) : compare a b = .lt ↔ a.Before b := by
  have flags : ∀ p q : Bool, compare p q = .lt ↔ p = false ∧ q = true := by decide
  rw [compare_def, compareLex_eq_lt_iff]
  simp only [compareOn, Atom.compare_eq_lt_iff, flags, Std.LawfulEqOrd.compare_eq_iff_eq]
  constructor
  · intro less
    rcases less with atom | ⟨atom, required, optional⟩
    · exact .atom atom
    · exact .optional atom required optional
  · intro less
    cases less with
    | atom atom => exact .inl atom
    | optional atom required optional => exact .inr ⟨atom, required, optional⟩

theorem Rule.compareEntries_eq_lt_iff (a b : Text × Rule) : Dict.compareEntries a b = .lt ↔ NamedBefore a b := by
  unfold Dict.compareEntries
  rw [compareLex_eq_lt_iff]
  simp only [compareOn, Text.compare_eq_lt_iff, Rule.compare_eq_lt_iff, Std.LawfulEqOrd.compare_eq_iff_eq]
  constructor
  · intro less
    rcases less with name | ⟨name, rule⟩
    · exact .name name
    · exact .rule name rule
  · intro less
    cases less with
    | name name => exact .inl name
    | rule name rule => exact .inr ⟨name, rule⟩

theorem Shape.compare_eq_lt_iff (a b : Shape) : compare a b = .lt ↔ a.Before b := by
  have path : compare a.path b.path = .lt ↔ List.Lex Atom.Before a.path b.path :=
    compare_list_eq_lt_iff Atom.compare_eq_lt_iff a.path b.path
  have query : compare a.query b.query = .lt ↔ List.Lex Rule.NamedBefore a.query.entries b.query.entries := by
    rw [Dict.compare_def]
    exact compareLex_list_eq_lt_iff Rule.compareEntries_eq_lt_iff a.query.entries b.query.entries
  rw [compare_def, compareLex_eq_lt_iff]
  simp only [compareOn, path, query, Std.LawfulEqOrd.compare_eq_iff_eq]
  constructor
  · intro less
    rcases less with path | ⟨path, query⟩
    · exact .path path
    · exact .query path query
  · intro less
    cases less with
    | path path => exact .inl path
    | query path query => exact .inr ⟨path, query⟩

theorem SortedSet.compare_texts_eq_lt_iff (s t : SortedSet Text) :
    compare s t = .lt ↔ List.Lex Text.Before s.toList t.toList := by
  rw [compare_def]
  exact compare_list_eq_lt_iff Text.compare_eq_lt_iff s.toList t.toList

theorem Leaf.compare_eq_lt_iff (a b : Leaf) : compare a b = .lt ↔ a.Before b := by
  rw [compare_def, compareLex_eq_lt_iff, compareLex_eq_lt_iff]
  simp only [compareOn, Shape.compare_eq_lt_iff, SortedSet.compare_texts_eq_lt_iff,
    Std.LawfulEqOrd.compare_eq_iff_eq]
  constructor
  · intro less
    rcases less with shape | ⟨shape, taken | ⟨taken, untaken⟩⟩
    · exact .shape shape
    · exact .taken shape taken
    · exact .untaken shape taken untaken
  · intro less
    cases less with
    | shape shape => exact .inl shape
    | taken shape taken => exact .inr ⟨shape, .inl taken⟩
    | untaken shape taken untaken => exact .inr ⟨shape, .inr ⟨taken, untaken⟩⟩

end RouteTemplate
