import Mathlib.Data.List.Find
import RouteTemplate.Proofs.Dict
import RouteTemplate.Proofs.Session.Routing

/- What routing reads of a query.

   A shape looks up the names of its own rules and no others (`Shape.resolve_congr`), and every rule of a leaf comes
   from an entry of the endpoint (`ResolveTree.names_of_rules`). So requests with the same segments that agree on the
   names of an endpoint's entries are matched alike by each of its leaves, whichever of them the leaf asks for, and by
   the method (`Method.resolve_congr`). Requests that agree on the names of all methods are routed alike
   (`Session.route_of_agree`): what else a query holds does not matter. -/
namespace RouteTemplate

/-- The same segments, and the same value, if any, for each of the names. -/
structure Request.Agree (names : Text → Prop) (r r' : Request) : Prop where
  segments : r.segments = r'.segments
  query : ∀ name, names name → r.query.get? name = r'.query.get? name

/-- The name of an entry of the endpoint's query. -/
def Endpoint.Names (e : Endpoint) (name : Text) : Prop := ∃ entry ∈ e.query, entry.name = name

/-- The name of an entry in the endpoint of some method. -/
def Registry.Names (registry : Registry) (name : Text) : Prop := ∃ m ∈ registry.methods, m.endpoint.Names name

namespace Request.Agree

variable {names names' : Text → Prop} {r r' : Request}

theorem mono (h : Agree names r r') (hsub : ∀ name, names' name → names name) : Agree names' r r' :=
  ⟨h.segments, fun name hname => h.query name (hsub name hname)⟩

/-- A value under another name, entered or replaced, leaves the requests in agreement. -/
theorem insert (h : Agree names r r') {name : Text} (hname : ¬names name) (value : Text) :
    Agree names { r with query := r.query.insert name value } r' where
  segments := h.segments
  query other hother := by
    have hne : name ≠ other := fun heq => hname (heq ▸ hother)
    rw [Dict.get?_insert, if_neg hne, h.query other hother]

end Request.Agree

variable {r r' : Request}

theorem Shape.resolve_congr {s : Shape} (h : Request.Agree (fun name => s.query.contains name = true) r r') :
    s.resolve r = s.resolve r' := by
  have each : ∀ name rule, s.query.get? name = some rule → r.query.get? name = r'.query.get? name := by
    intro name rule hrule
    exact h.query name (Dict.contains_iff.mpr ⟨rule, hrule⟩)
  have found : s.foundInQuery r.query = s.foundInQuery r'.query :=
    List.filterMap_congr fun e he => by rw [Rule.found?, Rule.found?, each e.1 e.2 (Dict.get?_eq_some_iff.mpr he)]
  have answered : s.answeredBy r.query = s.answeredBy r'.query := by
    rw [Bool.eq_iff_iff, answeredBy_iff, answeredBy_iff]
    refine forall_congr' fun name => forall_congr' fun rule => forall_congr' fun hrule => ?_
    rw [each name rule hrule]
  rw [resolve_eq_bindAll, resolve_eq_bindAll, fits, fits, foundIn, foundIn, h.segments, found, answered]

namespace ResolveTree

variable {e : Endpoint} {l : Leaf}

theorem names_of_rules (hl : l ∈ (build e).leaves) {name : Text} (h : l.shape.query.contains name = true) :
    e.Names name := by
  obtain ⟨rule, hrule⟩ := Dict.contains_iff.mp h
  rw [rules_of_mem_build hl] at hrule
  obtain ⟨entry, hentry, hpart⟩ := List.mem_filterMap.mp (Dict.mem_of_get?_ofList hrule)
  obtain ⟨_, -, heq⟩ := Option.map_eq_some_iff.mp hpart
  exact ⟨entry, hentry, congrArg Prod.fst heq⟩

theorem resolve_leaf_congr (hl : l ∈ (build e).leaves) (h : Request.Agree e.Names r r') :
    l.shape.resolve r = l.shape.resolve r' :=
  Shape.resolve_congr (h.mono fun _ => names_of_rules hl)

end ResolveTree

theorem Method.resolve_congr {m : Method} (h : Request.Agree m.endpoint.Names r r') : m.resolve r = m.resolve r' := by
  rw [resolve, resolve, ResolveTree.resolve_build_eq_findSome?, ResolveTree.resolve_build_eq_findSome?]
  exact findSome?_congr fun l hl => ResolveTree.resolve_leaf_congr hl h

namespace Session

theorem firstAmong_congr {methods : List Method} (h : ∀ m ∈ methods, m.resolve r = m.resolve r') :
    firstAmong r methods = firstAmong r' methods :=
  findSome?_congr fun m hm => by rw [h m hm]

/-- **What no method names does not matter.** After any run, take two requests with the same segments whose queries
    agree, in presence and in value, on every name that the endpoint of some method has in its query. They go to the same
    method with the same arguments, or nowhere both, and in every method the same leaf is the first to match them. To
    enter or replace a value under any other name changes nothing of the answer. -/
theorem route_of_agree (root : Text) (ops : List Operation)
    (h : Request.Agree ((start root).performAll ops).2.registry.Names r r') :
    let s := ((start root).performAll ops).2
    (s.route r).1 = (s.route r').1 ∧
    (∀ m ∈ s.registry.methods, (s.resolve m r).1 = (s.resolve m r').1 ∧
      (ResolveTree.build m.endpoint).leaves.find? (fun l => (l.shape.resolve r).isSome) =
        (ResolveTree.build m.endpoint).leaves.find? fun l => (l.shape.resolve r').isSome) ∧
    ∀ name value, ¬s.registry.Names name →
      (s.route { r with query := r.query.insert name value }).1 = (s.route r').1 := by
  intro s
  have kept : s.Kept := (kept_start root).performAll ops
  have routes : ∀ {q q' : Request}, Request.Agree s.registry.Names q q' → (s.route q).1 = (s.route q').1 := by
    intro q q' agree
    rw [kept.route_eq_firstAmong, kept.route_eq_firstAmong]
    exact firstAmong_congr fun m hm => Method.resolve_congr (agree.mono fun _ hname => ⟨m, hm, hname⟩)
  refine ⟨routes h, fun m hm => ?_, fun name value hname => routes (h.insert hname value)⟩
  have agree : Request.Agree m.endpoint.Names r r' := h.mono fun _ hname => ⟨m, hm, hname⟩
  refine ⟨?_, List.find?_congr fun l hl => by rw [ResolveTree.resolve_leaf_congr hl agree]⟩
  rw [(kept.resolve hm r).1, (kept.resolve hm r').1, Method.resolve_congr agree]

/-- A search whose pages are counted on demand. -/
def searchRun : List Operation :=
  [.register ⟨"search".toList, some "items?q=\x7bq\x7d&[?paged:page=\x7bpage\x7d]".toList, ["q".toList, "page".toList]⟩]

def searchMethod : Method where
  name := "search".toList
  arguments := SortedSet.ofList ["q".toList, "page".toList, "$instanceReceiver".toList, "$extensionReceiver".toList]
  endpoint := {
    path := [⟨[], .literal "items".toList⟩]
    query := [⟨"q".toList, ⟨[], .param "q".toList⟩⟩, ⟨"page".toList, ⟨["paged".toList], .param "page".toList⟩⟩] }

/-- A search for `x`. -/
def search : Request := ⟨["items".toList], .ofList [("q".toList, "x".toList)]⟩

/-- The same search with a mark of where it came from. -/
def trackedSearch : Request := ⟨["items".toList], .ofList [("from".toList, "mail".toList), ("q".toList, "x".toList)]⟩

theorem route_of_agree_search :
    Request.Agree ((start []).performAll searchRun).2.registry.Names trackedSearch search ∧
    (((start []).performAll searchRun).2.route trackedSearch).1.map
      (fun found => (found.method.name, found.arguments)) =
        some ("search".toList, Dict.empty.insert "q".toList "x".toList) := by
  have methods : ((start []).performAll searchRun).2.registry.methods = [searchMethod] := by decide +kernel
  have agree : Request.Agree ((start []).performAll searchRun).2.registry.Names trackedSearch search := by
    refine ⟨rfl, fun name hname => ?_⟩
    obtain ⟨m, hm, entry, hentry, rfl⟩ := hname
    rw [methods, List.mem_singleton] at hm
    subst hm
    revert entry
    decide
  refine ⟨agree, ?_⟩
  rw [(route_of_agree [] searchRun agree).1]
  decide +kernel

end Session

end RouteTemplate
