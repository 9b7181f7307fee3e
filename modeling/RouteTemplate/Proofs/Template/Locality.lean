import RouteTemplate.Proofs.Template.Expansion

/- Where expansion ends, and how far it sees.

   Expansion leaves no shorthand, so a second expansion, for either region, finds nothing to replace. A character that
   stands in no shorthand keeps apart what is on its two sides: no shorthand is read across it, so each side is expanded
   as if it stood alone (`Shorthand.replace_append_cons`). -/
namespace RouteTemplate

namespace Shorthand

variable {opener : Text} {long : Text → Text} {c : Char}

theorem read?_append_eq_none (apart : ∀ name, IsName name → c ∉ short opener name) {a b : Text}
    (h : read? opener a = none) : read? opener (a ++ c :: b) = none := by
  refine Option.eq_none_iff_forall_ne_some.mpr fun ⟨name, rest⟩ hread => ?_
  obtain ⟨hname, heq⟩ := read?_eq_some_iff.mp hread
  obtain ⟨after, hafter⟩ : short opener name <+: a := prefix_of_not_mem (apart name hname) ⟨rest, heq.symm⟩
  rw [read?_eq_some_iff.mpr ⟨hname, hafter.symm⟩] at h
  cases h

theorem read?_nil : read? opener [] = none := by
  refine Option.eq_none_iff_forall_ne_some.mpr fun ⟨name, rest⟩ hread => ?_
  obtain ⟨-, heq⟩ := read?_eq_some_iff.mp hread
  exact short_ne_nil opener name (List.append_eq_nil_iff.mp heq.symm).1

theorem replace_append_cons (hopener : opener ≠ []) (apart : ∀ name, IsName name → c ∉ short opener name)
    (a b : Text) : replace opener long (a ++ c :: b) = replace opener long a ++ c :: replace opener long b := by
  fun_induction replace opener long a with
  | case1 => exact replace_of_none (read?_append_eq_none apart read?_nil)
  | case2 d rest name after hread ih =>
    obtain ⟨hname, heq⟩ := read?_eq_some_iff.mp hread
    rw [heq, List.append_assoc, replace_short hopener hname, ih, List.append_assoc]
  | case3 d rest hread ih =>
    have across : read? opener (d :: rest ++ c :: b) = none := read?_append_eq_none apart hread
    rw [List.cons_append] at across ⊢
    rw [replace_of_none across, ih, List.cons_append]

theorem not_mem_short_of_not_mem (hmark : c ∉ ['{', '}', '?', '$']) (hword : Text.isWord c = false) {name : Text}
    (hname : IsName name) : c ∉ short ['{', '{'] name ∧ c ∉ short ['{', '{', '?'] name := by
  simp only [List.mem_cons, List.not_mem_nil, or_false, not_or] at hmark
  obtain ⟨hopen, hclose, hoptional, hdollar⟩ := hmark
  have outside : c ∉ name := by
    intro hm
    have hchar := hname.2 c hm
    simp [isNameChar, hword, hdollar] at hchar
  simp [short, hopen, hclose, hoptional, outside]

theorem expand_append_cons (region : Region) (hmark : c ∉ ['{', '}', '?', '$']) (hword : Text.isWord c = false)
    (x y : Text) : expand region (x ++ c :: y) = expand region x ++ c :: expand region y := by
  have apart : ∀ name, IsName name → c ∉ short ['{', '{'] name ∧ c ∉ short ['{', '{', '?'] name := fun _ =>
    not_mem_short_of_not_mem hmark hword
  rw [expand, replace_append_cons (by simp) fun name hname => (apart name hname).2,
    replace_append_cons (by simp) fun name hname => (apart name hname).1, expand, expand]

/-- **Expansion is complete, settles at once, and is local.** What was expanded, as a path or as a query, holds no
    shorthand, plain or optional, and is expanded to itself in either region. A character that is no brace, no `?`, no
    `$` and no word character keeps its place, and the texts on its two sides are expanded each by itself. -/
theorem expand_settles (region : Region) :
    (∀ t name, name ≠ [] → (∀ c ∈ name, Text.isWord c = true ∨ c = '$') →
      ¬['{', '{'] ++ name ++ ['}', '}'] <:+: expand region t ∧
        ¬['{', '{', '?'] ++ name ++ ['}', '}'] <:+: expand region t) ∧
    (∀ t other, expand other (expand region t) = expand region t) ∧
    ∀ c, c ∉ ['{', '}', '?', '$'] → Text.isWord c = false → ∀ x y,
      expand region (x ++ c :: y) = expand region x ++ c :: expand region y := by
  refine ⟨fun t name hne hchars => ?_, fun t other => ?_, fun c hmark hword => expand_append_cons region hmark hword⟩
  · have hname : IsName name := ⟨hne, fun c hc => by simpa [isNameChar] using hchars c hc⟩
    have free := noShorthand_expand region t
    exact ⟨free.plain name hname, free.optional name hname⟩
  · exact expand_of_noShorthand other (noShorthand_expand region t)

/-- Shorthand inside braces and inside other shorthand, with a bracket between the texts. -/
theorem expand_settles_nested :
    (¬"\x7b\x7ba\x7d\x7d".toList <:+: expand .path "\x7b\x7b\x7ba\x7d\x7d\x7d".toList ∧
      expand .path "\x7b\x7b\x7ba\x7d\x7d\x7d".toList = "\x7ba/\x7ba\x7d\x7d".toList) ∧
    expand .query (expand .path "\x7b\x7b?\x7b\x7ba\x7d\x7d\x7d\x7d".toList) =
      "\x7b\x7b?a/\x7ba\x7d\x7d\x7d".toList ∧
    expand .query "\x7b\x7b?$b\x7d\x7d[\x7b\x7bx\x7b\x7ba\x7d\x7d\x7d\x7d".toList =
      "[?$b:$b=\x7b$b\x7d][\x7b\x7bxa=\x7ba\x7d\x7d\x7d".toList := by
  obtain ⟨complete, settled, -⟩ := expand_settles .path
  obtain ⟨-, -, sides⟩ := expand_settles .query
  have braced : expand .path "\x7b\x7b\x7ba\x7d\x7d\x7d".toList = "\x7ba/\x7ba\x7d\x7d".toList := by decide +kernel
  refine ⟨⟨(complete _ ['a'] (by decide) (List.forall_mem_singleton.mpr (by decide))).1, braced⟩, ?_, ?_⟩
  · rw [settled]
    decide +kernel
  · refine (sides '[' (by decide) (by decide) "\x7b\x7b?$b\x7d\x7d".toList _).trans ?_
    decide +kernel

end Shorthand

end RouteTemplate
