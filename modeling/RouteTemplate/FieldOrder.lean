/- Orders that compare by fields.

   Things are compared by one field after another, that is, by the tuple of these fields in lexicographic order
   (`lexOrd`). Where the order of a type is such a comparison, it is transitive as the orders of the fields are
   (`transOrd_of_fields`), and equal are just the things it finds equal when the fields determine the thing
   (`lawfulEqOrd_of_fields`). -/
namespace RouteTemplate

variable {α β : Type} [Ord α] [Ord β] (fields : α → β)

theorem transOrd_of_fields [Std.TransOrd β] (same : ∀ a b : α, compare a b = compareOn fields a b) :
    Std.TransOrd α := by
  have heq : (compare : α → α → Ordering) = compareOn fields := funext fun a => funext (same a)
  rw [Std.TransOrd, heq]
  infer_instance

theorem lawfulEqOrd_of_fields [Std.LawfulEqOrd β] (same : ∀ a b : α, compare a b = compareOn fields a b)
    (injective : ∀ a b, fields a = fields b → a = b) : Std.LawfulEqOrd α where
  compare_self {a} := (same a a).trans Std.ReflOrd.compare_self
  eq_of_compare {a b} h := injective a b (Std.LawfulEqOrd.eq_of_compare ((same a b).symm.trans h))

end RouteTemplate
