import Mathlib.Data.List.Count
import RouteTemplate.Template

/- The grammar of templates.

   A region is a run of separators, items with runs of separators between them, and a run of separators again;
   without items the runs are one. An item is plain, or it is a block `[?key:body]` around a region of the same
   kind. The key of a block ends at its first colon, and the brackets of key and body match. What a region
   derives is its plain items in order, each guarded by the keys of the blocks around it (`IsRegion`).

   What follows an item is a separator or the end, so a region can be taken apart, and put together again, one
   item at a time (`IsRegion.cons_item`). -/
namespace RouteTemplate

namespace Template

/-! ## Brackets -/

/-- The brackets of the text match once `depth` more are opened before it. -/
def BalancedFrom (depth : Nat) (t : Text) : Prop :=
  (∀ start, start <+: t → start.count ']' ≤ depth + start.count '[') ∧ t.count ']' = depth + t.count '['

/-- No beginning of the text closes more brackets than it opens, and all that are opened are closed. -/
def Balanced (t : Text) : Prop :=
  (∀ start, start <+: t → start.count ']' ≤ start.count '[') ∧ t.count ']' = t.count '['

theorem balancedFrom_zero {t : Text} : BalancedFrom 0 t ↔ Balanced t := by
  simp [BalancedFrom, Balanced]

theorem balancedFrom_nil {depth : Nat} : BalancedFrom depth [] ↔ depth = 0 := by
  simp [BalancedFrom, eq_comm]

/-! ## Atoms -/

/-- A name that can stand in braces. -/
def IsParameterName (name : Text) : Prop := name ≠ [] ∧ ∀ c ∈ name, c ∉ closedToNames

/-- What a path chunk or a query value stands for. -/
inductive IsAtom : Text → Atom → Prop
  | braced {name : Text} : IsParameterName name → IsAtom ('{' :: name ++ ['}']) (.param name)
  | reserved {word : Text} : word ∈ reservedWords → IsAtom word (.param word)
  | literal {text : Text} : (∀ name, text = '{' :: name ++ ['}'] → ¬IsParameterName name) →
      text ∉ reservedWords → IsAtom text (.literal text)

/-- A plain item of a path: a chunk without brackets and slashes. -/
inductive IsSegmentItem : Text → Part → Prop
  | mk {chunk : Text} {atom : Atom} : chunk ≠ [] → '/' ∉ chunk → '[' ∉ chunk → ']' ∉ chunk →
      IsAtom chunk atom → IsSegmentItem chunk ⟨[], atom⟩

/-- A plain item of a query: a name and a value. -/
inductive IsEntryItem : Text → Entry → Prop
  | mk {name value : Text} {atom : Atom} : name ≠ [] → '=' ∉ name → '&' ∉ name →
      '&' ∉ value → '[' ∉ value → ']' ∉ value → IsAtom value atom →
      IsEntryItem (name ++ '=' :: value) ⟨name, [], atom⟩

/-! ## Regions -/

section
variable {α : Type} (sep : Char) (Plain : Text → α → Prop) (guard : Text → α → α)

mutual

/-- A plain item, or a block around a region. -/
inductive IsItem : Text → List α → Prop
  | plain {text : Text} {a : α} : Plain text a → ¬['[', '?'] <+: text → IsItem text [a]
  | block (key body : Text) {inner : List α} : key ≠ [] → ':' ∉ key → Balanced (key ++ ':' :: body) →
      IsRegion body inner → IsItem (['[', '?'] ++ key ++ ':' :: body ++ [']']) (inner.map (guard key))

/-- One or more items, with one or more separators between them. -/
inductive AreItems : Text → List α → Prop
  | one {text : Text} {items : List α} : IsItem text items → AreItems text items
  | cons {text rest : Text} {items more : List α} (n : Nat) : IsItem text items → AreItems rest more →
      AreItems (text ++ List.replicate (n + 1) sep ++ rest) (items ++ more)

/-- Separators, items between separators, and separators. -/
inductive IsRegion : Text → List α → Prop
  | empty (m n : Nat) : IsRegion (List.replicate m sep ++ List.replicate n sep) []
  | items {text : Text} {items : List α} (m n : Nat) : AreItems text items →
      IsRegion (List.replicate m sep ++ text ++ List.replicate n sep) items

end

end

/-- The paths that can be written, and their parts. -/
abbrev IsPath : Text → List Part → Prop := IsRegion '/' IsSegmentItem Part.guard

/-- The queries that can be written, and their entries. -/
abbrev IsQuery : Text → List Entry → Prop := IsRegion '&' IsEntryItem Entry.guard

/-! ## Putting an item before a region -/

section
variable {α : Type} {sep : Char} {Plain : Text → α → Prop} {guard : Text → α → α}

/-- The separator is no part of what opens a block, and stands in no plain item; plain items are not empty. -/
structure Separates (sep : Char) (Plain : Text → α → Prop) : Prop where
  ne_bracket : sep ≠ '['
  ne_mark : sep ≠ '?'
  nonempty : ∀ {text a}, Plain text a → text ≠ []
  not_mem : ∀ {text a}, Plain text a → sep ∉ text

theorem separates_segmentItem : Separates '/' IsSegmentItem where
  ne_bracket := by decide
  ne_mark := by decide
  nonempty := fun ⟨h, _, _, _, _⟩ => h
  not_mem := fun ⟨_, h, _, _, _⟩ => h

theorem separates_entryItem : Separates '&' IsEntryItem where
  ne_bracket := by decide
  ne_mark := by decide
  nonempty := fun ⟨_, _, _, _, _, _, _⟩ => by simp
  not_mem := fun ⟨_, _, hname, hvalue, _, _, _⟩ => by simp [hname, hvalue]

theorem IsItem.exists_cons (hs : Separates sep Plain) {text : Text} {items : List α}
    (h : IsItem sep Plain guard text items) : ∃ c rest, text = c :: rest ∧ c ≠ sep := by
  cases h with
  | plain hplain _ =>
    obtain ⟨c, rest, rfl⟩ := List.exists_cons_of_ne_nil (hs.nonempty hplain)
    exact ⟨c, rest, rfl, fun heq => hs.not_mem hplain (by simp [heq])⟩
  | block key body _ _ _ _ => exact ⟨'[', _, rfl, hs.ne_bracket.symm⟩

theorem AreItems.exists_cons (hs : Separates sep Plain) {text : Text} {items : List α}
    (h : AreItems sep Plain guard text items) : ∃ c rest, text = c :: rest ∧ c ≠ sep := by
  cases h with
  | one hi => exact hi.exists_cons hs
  | cons n hi _ =>
    obtain ⟨c, rest, rfl, hc⟩ := hi.exists_cons hs
    exact ⟨c, _, rfl, hc⟩

theorem IsRegion.cons_sep {text : Text} {items : List α} (h : IsRegion sep Plain guard text items) :
    IsRegion sep Plain guard (sep :: text) items := by
  cases h with
  | empty m n => exact .empty (m + 1) n
  | items m n h => exact .items (m + 1) n h

/-- An item may stand before a region that starts with a separator or is empty. -/
theorem IsRegion.cons_item (hs : Separates sep Plain) {text rest : Text} {items more : List α}
    (hi : IsItem sep Plain guard text items) (hr : IsRegion sep Plain guard rest more)
    (ends : endsItem sep rest = true) : IsRegion sep Plain guard (text ++ rest) (items ++ more) := by
  cases hr with
  | empty m n => simpa using IsRegion.items 0 (m + n) (AreItems.one hi)
  | items m n h =>
    cases m with
    | zero =>
      obtain ⟨c, tail, rfl, hc⟩ := h.exists_cons hs
      exact absurd (eq_of_beq ends) hc
    | succ m => simpa using IsRegion.items 0 n (AreItems.cons m hi h)

end

end Template

end RouteTemplate
