import RouteTemplate.Proofs.Registry.Coherence
import RouteTemplate.Proofs.ResolveTree.Below

/- Methods whose templates begin with the routing prefix.

   An endpoint is rooted when the routing prefix is its first path part, without guards, and stands nowhere else in
   it. To place the prefix there is to put its segments in front of the endpoint for the empty prefix
   (`Endpoint.Rooted.substitute`). So a declaration with such a template gives, under any prefix, what it gives under
   the empty one, below the segments of the prefix (`Declaration.Rooted.declare`), and a registry of such
   declarations is the registry under the empty prefix with all its methods below them
   (`Declaration.Rooted.register`). -/
namespace RouteTemplate

/-- The routing prefix is the first path part, without guards, and stands nowhere else. -/
def Endpoint.Rooted (e : Endpoint) : Prop :=
  ∃ rest, e.path = ⟨[], .param Placeholder.routingPrefix.text⟩ :: rest ∧
    (∀ p ∈ rest, p.atom ≠ .param Placeholder.routingPrefix.text) ∧
    ∀ entry ∈ e.query, entry.part.atom ≠ .param Placeholder.routingPrefix.text

/-- A template that is declared, if it can be read, is rooted. -/
def Declaration.Rooted (d : Declaration) : Prop :=
  ∀ template read, d.template = some template → Endpoint.parse template = .ok read → read.Rooted

/-! ## Placing the prefix -/

section
variable {method root root' : Text}

theorem placed?_congr {a : Atom} (h : a ≠ .param Placeholder.routingPrefix.text) :
    a.parameter?.bind (placed? method root) = a.parameter?.bind (placed? method root') := by
  cases a with
  | literal text => rfl
  | param name =>
    have hname : name ≠ Placeholder.routingPrefix.text := fun heq => h (by rw [heq])
    simp only [Atom.parameter?, Option.bind_some, placed?, if_neg hname]

theorem Part.substitute_congr {p : Part} (h : p.atom ≠ .param Placeholder.routingPrefix.text) :
    p.substitute method root = p.substitute method root' := by
  rw [substitute, placed?_congr h, substitute]

theorem Entry.substitute_congr {e : Entry} (h : e.part.atom ≠ .param Placeholder.routingPrefix.text) :
    e.substitute method root = e.substitute method root' := by
  rw [substitute, placed?_congr h, substitute]

theorem Part.substitute_prefix (method root : Text) :
    (⟨[], .param Placeholder.routingPrefix.text⟩ : Part).substitute method root =
      (Text.pieces '/' root).map (⟨[], .literal ·⟩) := by
  have other : Placeholder.routingPrefix.text ≠ Placeholder.methodName.text := by decide
  simp [substitute, Atom.parameter?, placed?, other]

/-- Under a prefix stands what stands under the empty one, below the segments of the prefix. -/
theorem Endpoint.Rooted.substitute {e : Endpoint} (h : e.Rooted) (method root : Text) :
    e.substitute method root = (e.substitute method []).below (Text.pieces '/' root) := by
  obtain ⟨rest, hpath, path, query⟩ := h
  have none : Text.pieces '/' [] = [] := rfl
  have tail : rest.flatMap (·.substitute method root) = rest.flatMap (·.substitute method []) :=
    List.flatMap_congr fun p hp => Part.substitute_congr (path p hp)
  have entries : e.query.map (·.substitute method root) = e.query.map (·.substitute method []) :=
    List.map_congr_left fun entry hentry => Entry.substitute_congr (query entry hentry)
  simp only [Endpoint.substitute, Endpoint.below, hpath, List.flatMap_cons, Part.substitute_prefix, none, tail,
    entries, List.map_nil, List.nil_append]

end

/-! ## Declaring -/

theorem Endpoint.parameters_below (segments : List Text) (e : Endpoint) :
    (e.below segments).parameters = e.parameters := by
  have literals : (segments.map fun text => (⟨[], .literal text⟩ : Part)).filterMap (·.atom.parameter?) = [] := by
    rw [List.filterMap_map]
    exact List.filterMap_eq_nil_iff.mpr fun _ _ => rfl
  simp only [parameters, parts, below, List.append_assoc, List.filterMap_append, literals, List.nil_append]

theorem Endpoint.checkParameters_below (segments : List Text) (e : Endpoint) (method : Text) (known : Text → Bool) :
    (e.below segments).checkParameters method known = e.checkParameters method known := by
  rw [checkParameters, parameters_below, checkParameters]

/-- The method with literal segments in front of its endpoint. -/
def Method.below (segments : List Text) (m : Method) : Method := { m with endpoint := m.endpoint.below segments }

theorem Method.resolve_below (segments : List Text) (m : Method) (r : Request) :
    (m.below segments).resolve r =
      (after? segments r.segments).bind fun rest => m.resolve { r with segments := rest } :=
  ResolveTree.resolve_build_below segments m.endpoint r

theorem parse_defaultTemplate : Endpoint.parse defaultTemplate =
    .ok ⟨[⟨[], .param Placeholder.routingPrefix.text⟩, ⟨[], .param Placeholder.methodName.text⟩], []⟩ := by
  decide +kernel

theorem rooted_defaultTemplate {read : Endpoint} (h : Endpoint.parse defaultTemplate = .ok read) : read.Rooted := by
  rw [parse_defaultTemplate] at h
  cases h
  exact ⟨_, rfl, by decide, by simp⟩

section
variable {d : Declaration} (h : d.Rooted) (root : Text)
include h

theorem Declaration.Rooted.read {read : Endpoint}
    (hread : Endpoint.parse (d.template.getD defaultTemplate) = .ok read) : read.Rooted := by
  cases htemplate : d.template with
  | none => exact rooted_defaultTemplate (by rwa [htemplate] at hread)
  | some template => exact h template read htemplate (by rwa [htemplate] at hread)

/-- A rooted declaration comes out alike under every prefix. -/
theorem Declaration.Rooted.declare :
    Method.declare root d = (Method.declare [] d).map (Method.below (Text.pieces '/' root)) := by
  rw [Method.declare_eq, Method.declare_eq]
  cases hread : Endpoint.parse (d.template.getD defaultTemplate) with
  | error fault => rfl
  | ok read =>
    simp only [(h.read hread).substitute d.name root, Endpoint.checkParameters_below]
    cases (read.substitute d.name []).checkParameters d.name (· ∈ Method.known d) <;> rfl

/-- The registry under a prefix with all methods of another below its segments. -/
def Registry.below (root : Text) (r : Registry) : Registry :=
  { r with root, methods := r.methods.map (Method.below (Text.pieces '/' root)) }

theorem Declaration.Rooted.register {r : Registry} (hr : r.root = []) : (r.below root).register d =
    ((r.register d).1.map (Method.below (Text.pieces '/' root)), (r.register d).2.below root) := by
  have declared : Method.declare (r.below root).root d =
      (Method.declare r.root d).map (Method.below (Text.pieces '/' root)) := by
    rw [hr]
    exact h.declare root
  have places : (r.below root).places = r.places := rfl
  rw [Registry.register, places, declared]
  rcases Registry.register_cases r d with ⟨taken, heq⟩ | ⟨free, ⟨fault, hfault, heq⟩ | ⟨m, hm, heq⟩⟩
  · rw [heq, if_pos taken]
    rfl
  · rw [heq, hfault, if_neg (by simp [free])]
    rfl
  · rw [heq, hm, if_neg (by simp [free]), ← Method.name_of_declare hm]
    simp [Except.map, Registry.push, Registry.below]

end

end RouteTemplate
