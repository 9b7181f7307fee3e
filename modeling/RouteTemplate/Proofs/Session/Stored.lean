import RouteTemplate.Proofs.Asking
import RouteTemplate.Proofs.Registry.Legible
import RouteTemplate.Proofs.Session.Runs

/- What registration settles for the methods of a session.

   A template is read, the method's name and the prefix are placed in it, and what is left to be filled is checked
   against the declaration. Each step keeps what the ones before it gave: parts are placed under the guards of the
   parameter that they take the place of (`Endpoint.exists_of_mem_parts_substitute`), and a parameter that is left is
   one that was read. So the endpoint of every method that a run stores is settled (`Session.settled_of_run`).

   This is why a call needs no check of its own. Filling asks only for parameters of the endpoint, and all of them
   are known to the method (`Session.fill_of_run`). -/
namespace RouteTemplate

/-- The names that a declaration makes known: its arguments and the two receivers. -/
def Declaration.Declares (d : Declaration) (name : Text) : Prop :=
  name ∈ d.arguments ∨ name = Placeholder.instanceReceiver.text ∨ name = Placeholder.extensionReceiver.text

theorem Method.mem_known_iff {d : Declaration} {name : Text} : name ∈ known d ↔ d.Declares name := by
  simp [known, SortedSet.mem_ofList, Declaration.Declares]

/-- What is settled when a declaration is registered: the endpoint is cut, nothing is left to be placed in it, its
    parameters are declared, and the names of its entries and its keys can stand in a template. -/
structure Endpoint.Settled (d : Declaration) (e : Endpoint) : Prop extends Endpoint.Cut e where
  placed : ∀ p ∈ e.parts,
    p.atom ≠ .param Placeholder.methodName.text ∧ p.atom ≠ .param Placeholder.routingPrefix.text
  declared : ∀ p ∈ e.parts, ∀ name, p.atom = .param name → d.Declares name
  named : ∀ entry ∈ e.query, entry.name ≠ []
  keyed : ∀ p ∈ e.parts, ∀ key ∈ p.guards, key ≠ [] ∧ ':' ∉ key

/-! ## What was read -/

namespace Endpoint

variable {e : Endpoint} {template : Text}

theorem keyed_of_parse (h : Endpoint.parse template = .ok e) :
    ∀ p ∈ e.parts, ∀ key ∈ p.guards, key ≠ [] ∧ ':' ∉ key := by
  have grammatical := grammatical_of_parse h
  intro p hp key hkey
  rcases List.mem_append.mp hp with hp | hp
  · exact ⟨(grammatical.path p hp).key_nonempty key hkey, (grammatical.path p hp).key_colon key hkey⟩
  · obtain ⟨entry, hentry, rfl⟩ := List.mem_map.mp hp
    exact ⟨(grammatical.query entry hentry).key_nonempty key hkey, (grammatical.query entry hentry).key_colon key hkey⟩

theorem named_of_parse (h : Endpoint.parse template = .ok e) : ∀ entry ∈ e.query, entry.name ≠ [] := by
  intro entry hentry
  have plain := ((grammatical_of_parse h).query entry hentry).plain
  generalize hname : entry.name = name at plain
  generalize entry.text = text at plain
  cases plain with
  | mk nonempty => exact nonempty

end Endpoint

theorem Method.settled_of_declare {root : Text} {d : Declaration} {m : Method} (h : declare root d = .ok m) :
    m.endpoint.Settled d := by
  have cut := cut_of_declare h
  obtain ⟨read, hread, rfl, known⟩ := declare_eq_ok_iff.mp h
  refine { cut with
    placed := fun q hq => ?_, declared := fun q hq name hname => ?_,
    named := fun entry hentry => ?_, keyed := fun q hq => ?_ }
  · obtain ⟨p, -, -, left⟩ := Endpoint.exists_of_mem_parts_substitute hq
    exact ⟨fun hname => (placed?_eq_none_iff.mp (left _ hname).2).1 rfl,
      fun hname => (placed?_eq_none_iff.mp (left _ hname).2).2 rfl⟩
  · exact mem_known_iff.mp (known name (Endpoint.mem_parameters.mpr (List.mem_map.mpr ⟨q, hq, hname⟩)))
  · obtain ⟨whole, hwhole, rfl⟩ := List.mem_map.mp hentry
    rw [Endpoint.name_substitute]
    exact Endpoint.named_of_parse hread whole hwhole
  · obtain ⟨p, hp, guards, -⟩ := Endpoint.exists_of_mem_parts_substitute hq
    rw [guards]
    exact Endpoint.keyed_of_parse hread p hp

/-! ## Filling without a check -/

namespace Method

variable {root : Text} {d : Declaration} {m : Method} {σ : Type}

/-- The check of a call was passed at registration. -/
theorem fill_eq_fillChecked (h : declare root d = .ok m) (present : Text → Bool) (look : Lookup σ) (s : σ) :
    m.fill present look s = m.endpoint.fillChecked m.name (· ∈ m.arguments) present look s := by
  obtain ⟨read, -, rfl, known⟩ := declare_eq_ok_iff.mp h
  have passed := (Endpoint.checkParameters_eq_ok_iff d.name).mpr fun name hm => decide_eq_true (known name hm)
  rw [Endpoint.fillChecked, passed, fill]

theorem missing_of_fill (m : Method) {present : Text → Bool} {look : Lookup σ} {s : σ} {fault : EndpointError}
    (h : (m.fill present look s).1 = .error fault) : ∃ name, fault = .missingArgument name ∧
      (∃ p ∈ m.endpoint.parts, p.kept present = true ∧ p.atom = .param name) ∧
      ∃ before, look name before = (none, (m.fill present look s).2) := by
  have outcome := m.endpoint.fillMemoized_outcome present look s
  unfold fill at h ⊢
  generalize m.endpoint.fillMemoized present look s = result at outcome h ⊢
  cases outcome with
  | answered => cases h
  | missing name before after hm _ hlook =>
    cases h
    obtain ⟨p, hp, hatom⟩ := List.mem_map.mp hm
    obtain ⟨hparts, hkept⟩ := List.mem_filter.mp hp
    exact ⟨name, rfl, ⟨p, hparts, hkept, hatom⟩, before, hlook⟩

end Method

namespace Session

variable (root : Text) (ops : List Operation) {m : Method}

/-- **What registration guarantees.** After any run every stored method was registered with a declaration for which
    its endpoint is settled: no part is the method's name or the prefix still to be placed, every parameter is a
    declared argument or a receiver, every literal segment is a piece between slashes, query names are not empty,
    differ, and hold neither `=` nor `&`, and every key of an optional part is not empty and holds no `:`. -/
theorem settled_of_run (hm : m ∈ ((start root).performAll ops).2.registry.methods) :
    ∃ d, (d, m) ∈ registrations ops ((start root).performAll ops).1 ∧ m.endpoint.Settled d := by
  obtain ⟨d, hcall⟩ := mem_methods_of_run.mp hm
  exact ⟨d, hcall, Method.settled_of_declare (declare_of_registered hcall)⟩

/-- A method called as the prefix is, with its name, the prefix and a receiver in optional parts. -/
def mirror : Declaration :=
  ⟨"$prefix".toList, some "$prefix/[?a:[?b:\x7b$name\x7d/\x7bx\x7d]]?[?c:q=$name]&r=$instanceReceiver".toList,
    ["x".toList]⟩

def mirrorMethod : Method where
  name := mirror.name
  arguments := SortedSet.ofList ["x".toList, "$instanceReceiver".toList, "$extensionReceiver".toList]
  endpoint := {
    path := [⟨[], .literal "$name".toList⟩, ⟨[], .literal "v1".toList⟩,
      ⟨["a".toList, "b".toList], .literal "$prefix".toList⟩, ⟨["a".toList, "b".toList], .param "x".toList⟩]
    query := [⟨"q".toList, ⟨["c".toList], .literal "$prefix".toList⟩⟩,
      ⟨"r".toList, ⟨[], .param "$instanceReceiver".toList⟩⟩] }

def mirrorRun : List Operation := [.register mirror, .register mirror, .list]

theorem settled_of_run_mirror :
    mirrorMethod ∈ ((start "/$name//v1/".toList).performAll mirrorRun).2.registry.methods ∧
    mirrorMethod.endpoint.Settled mirror := by
  have stored : mirrorMethod ∈ ((start "/$name//v1/".toList).performAll mirrorRun).2.registry.methods := by
    decide +kernel
  obtain ⟨d, hcall, settled⟩ := settled_of_run "/$name//v1/".toList mirrorRun stored
  have made : registrations mirrorRun ((start "/$name//v1/".toList).performAll mirrorRun).1 =
      [(mirror, mirrorMethod)] := by
    decide +kernel
  rw [made] at hcall
  cases List.mem_singleton.mp hcall
  exact ⟨stored, settled⟩

/-- **A call needs no check.** After any run a stored method fills as the checked filling does with its name and its
    arguments, to the same result and with the same questions to any lookup. It fails only for want of an argument:
    this is a declared argument or a receiver, a part that is kept for the present keys names it, and the last question
    asked was for it and had no answer. So it succeeds when the lookup answers for all of these. -/
theorem fill_of_run (hm : m ∈ ((start root).performAll ops).2.registry.methods) :
    ∃ d, (d, m) ∈ registrations ops ((start root).performAll ops).1 ∧
      ∀ {σ : Type} (look : Lookup σ) (present : Text → Bool) (s : σ),
        m.fill present look s = m.endpoint.fillChecked m.name (· ∈ m.arguments) present look s ∧
        (∀ fault, (m.fill present look s).1 = .error fault → ∃ name, fault = .missingArgument name ∧ d.Declares name ∧
          (∃ p ∈ m.endpoint.parts, p.kept present = true ∧ p.atom = .param name) ∧
          ∃ before, look name before = (none, (m.fill present look s).2)) ∧
        ((∀ name, d.Declares name → ∀ s, (look name s).1 ≠ none) →
          ∃ target, (m.fill present look s).1 = .ok target) := by
  obtain ⟨d, hcall⟩ := mem_methods_of_run.mp hm
  have declared := declare_of_registered hcall
  have settled := Method.settled_of_declare declared
  refine ⟨d, hcall, fun look present s => ⟨Method.fill_eq_fillChecked declared present look s, fun fault hfault => ?_,
    fun answers => ?_⟩⟩
  · obtain ⟨name, rfl, ⟨p, hp, hkept, hatom⟩, asked⟩ := m.missing_of_fill hfault
    exact ⟨name, rfl, settled.declared p hp name hatom, ⟨p, hp, hkept, hatom⟩, asked⟩
  · rcases hfill : (m.fill present look s).1 with fault | target
    · obtain ⟨name, -, ⟨p, hp, -, hatom⟩, before, asked⟩ := m.missing_of_fill hfill
      exact absurd (congrArg (·.1) asked) (answers name (settled.declared p hp name hatom) before)
    · exact ⟨target, rfl⟩

theorem fill_of_run_mirror :
    mirrorMethod ∈ ((start "/$name//v1/".toList).performAll mirrorRun).2.registry.methods ∧
    ∃ target, (mirrorMethod.fill (· == "a".toList) (Lookup.recording some) []).1 = .ok target := by
  have stored : mirrorMethod ∈ ((start "/$name//v1/".toList).performAll mirrorRun).2.registry.methods := by
    decide +kernel
  obtain ⟨d, -, fills⟩ := fill_of_run "/$name//v1/".toList mirrorRun stored
  obtain ⟨-, -, succeeds⟩ := fills (Lookup.recording some) (· == "a".toList) []
  exact ⟨stored, succeeds fun _ _ _ => Option.some_ne_none _⟩

end Session

end RouteTemplate
