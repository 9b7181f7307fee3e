import RouteTemplate.Proofs.Placing
import RouteTemplate.Proofs.Registry.Coherence
import RouteTemplate.Proofs.RoundTrip
import RouteTemplate.Proofs.Template.Derived

/- What the endpoint of a declared method may hold.

   A template's segments are cut at slashes and its query names at `&` and `=`, and placing the method's name and the
   prefix cuts them at slashes too. So in the endpoint of a declared method every literal segment is a piece between
   slashes, and query names are whole and differ (`Endpoint.Cut`). What is left to ask for, when targets are to be read
   back, is that no literal holds a mark that a template may hold but a target cannot (`Endpoint.Unmarked`). -/
namespace RouteTemplate

/-- The literal segments are pieces between slashes; query names are cut at `&` and `=`, and differ. -/
structure Endpoint.Cut (e : Endpoint) : Prop where
  segments : ∀ text, .literal text ∈ e.path.map (·.atom) → text ≠ [] ∧ '/' ∉ text
  names : ∀ entry ∈ e.query, '=' ∉ entry.name ∧ '&' ∉ entry.name
  distinct : (e.query.map (·.name)).Nodup

/-- No literal segment holds `?` or `#`, no query name `#`, and no literal query value `&` or `#`. -/
structure Endpoint.Unmarked (e : Endpoint) : Prop where
  segments : ∀ text, .literal text ∈ e.path.map (·.atom) → '?' ∉ text ∧ '#' ∉ text
  names : ∀ entry ∈ e.query, '#' ∉ entry.name
  values : ∀ text, .literal text ∈ e.query.map (·.part.atom) → '&' ∉ text ∧ '#' ∉ text

namespace Endpoint

variable {e : Endpoint} {template : Text}

theorem Cut.legible (h : e.Cut) (marks : e.Unmarked) : e.Legible where
  segments text ht := ⟨(h.segments text ht).1, (h.segments text ht).2, (marks.segments text ht).1,
    (marks.segments text ht).2⟩
  names entry hentry := ⟨(h.names entry hentry).1, (h.names entry hentry).2, marks.names entry hentry⟩
  distinct := h.distinct
  values text ht := ⟨(marks.values text ht).1, (marks.values text ht).2⟩

theorem cut_of_parse (h : Endpoint.parse template = .ok e) : e.Cut where
  segments text ht := by
    obtain ⟨part, hpart, hatom⟩ := List.mem_map.mp ht
    obtain ⟨nonempty, slash, -, -, -⟩ := ((grammatical_of_parse h).path part hpart).plain
    rw [hatom] at nonempty slash
    exact ⟨nonempty, slash⟩
  names entry hentry := by
    have plain := ((grammatical_of_parse h).query entry hentry).plain
    generalize hname : entry.name = name at plain
    generalize entry.text = text at plain
    cases plain with
    | mk _ equals ampersand => exact ⟨equals, ampersand⟩
  distinct := (grammatical_of_parse h).names

/-! ## Placing the method's name and the prefix -/

variable {method root : Text}

/-- A literal segment was there before, or is a piece of what was placed. -/
theorem literal_of_mem_substitute {p q : Part} {text : Text} (hq : q ∈ p.substitute method root)
    (hatom : q.atom = .literal text) : p.atom = .literal text ∨ ∃ value, text ∈ Text.pieces '/' value := by
  unfold Part.substitute at hq
  split at hq
  · next value _ =>
    obtain ⟨piece, hpiece, rfl⟩ := List.mem_map.mp hq
    cases hatom
    exact .inr ⟨value, hpiece⟩
  · rw [List.mem_singleton.mp hq] at hatom
    exact .inl hatom

theorem Cut.substitute (h : e.Cut) (method root : Text) : (e.substitute method root).Cut where
  segments text ht := by
    obtain ⟨q, hq, hatom⟩ := List.mem_map.mp ht
    obtain ⟨p, hp, hqp⟩ := List.mem_flatMap.mp hq
    rcases literal_of_mem_substitute hqp hatom with hliteral | ⟨value, hpiece⟩
    · exact h.segments text (List.mem_map.mpr ⟨p, hp, hliteral⟩)
    · obtain ⟨nonempty, slash, -⟩ := Text.of_mem_pieces hpiece
      exact ⟨nonempty, slash⟩
  names entry hentry := by
    obtain ⟨whole, hwhole, rfl⟩ := List.mem_map.mp hentry
    rw [name_substitute]
    exact h.names whole hwhole
  distinct := by
    rw [names_substitute]
    exact h.distinct

end Endpoint

theorem Method.cut_of_declare {root : Text} {d : Declaration} {m : Method} (h : declare root d = .ok m) :
    m.endpoint.Cut := by
  obtain ⟨read, hread, rfl, -⟩ := declare_eq_ok_iff.mp h
  exact (Endpoint.cut_of_parse hread).substitute d.name root

end RouteTemplate
