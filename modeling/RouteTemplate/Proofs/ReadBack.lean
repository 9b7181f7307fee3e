import RouteTemplate.Proofs.RoundTrip

/- What filling writes is read back.

   A lookup may answer otherwise each time it is asked, so the texts of a filled target are those of one run: each kept
   atom is rendered when its turn comes, path before query, with the state left by the one before (`Lookup.Renders`).
   Filling succeeds exactly when there are such texts, and writes them (`Endpoint.fill_eq_ok_iff_renders`). When none of
   them holds a mark that would cut it in its place, the target is parsed as these texts again, whatever else they look
   like: a segment that ends in a colon, a value with slashes, a path without segments (`Endpoint.parse_of_fill`). -/
namespace RouteTemplate

variable {σ : Type}

/-- The texts that atoms are rendered to one after the other, from the first state to the last: a literal to its own
    text, a parameter to the value that the lookup has for it when asked. -/
inductive Lookup.Renders (look : Lookup σ) : List Atom → σ → List Text → σ → Prop
  | nil (s : σ) : Renders look [] s [] s
  | literal {text : Text} {rest : List Atom} {s s' : σ} {texts : List Text} :
      Renders look rest s texts s' → Renders look (.literal text :: rest) s (text :: texts) s'
  | param {name value : Text} {rest : List Atom} {s next s' : σ} {texts : List Text} :
      look name s = (some value, next) → Renders look rest next texts s' →
        Renders look (.param name :: rest) s (value :: texts) s'

namespace Lookup

variable {look : Lookup σ} {atoms : List Atom} {texts : List Text} {s s' : σ}

theorem Renders.render (h : look.Renders atoms s texts s') : look.render atoms s = (.ok texts, s') := by
  induction h with
  | nil s => rfl
  | literal _ ih => simp only [Lookup.render, ih]
  | param hlook _ ih => simp only [Lookup.render, hlook, ih]

theorem renders_of_render (h : look.render atoms s = (.ok texts, s')) : look.Renders atoms s texts s' := by
  induction atoms generalizing s texts with
  | nil =>
    cases h
    exact .nil _
  | cons atom rest ih =>
    cases atom with
    | literal text =>
      rw [Lookup.render] at h
      rcases hrest : look.render rest s with ⟨_ | more, last⟩
      · rw [hrest] at h
        cases h
      · rw [hrest] at h
        cases h
        exact .literal (ih hrest)
    | param name =>
      rw [Lookup.render] at h
      rcases hlook : look name s with ⟨_ | value, next⟩
      · rw [hlook] at h
        cases h
      · simp only [hlook] at h
        rcases hrest : look.render rest next with ⟨_ | more, last⟩
        · rw [hrest] at h
          cases h
        · rw [hrest] at h
          cases h
          exact .param hlook (ih hrest)

theorem render_eq_iff_renders : look.render atoms s = (.ok texts, s') ↔ look.Renders atoms s texts s' :=
  ⟨renders_of_render, Renders.render⟩

theorem Renders.length_eq (h : look.Renders atoms s texts s') : atoms.length = texts.length := by
  induction h with
  | nil s => rfl
  | literal _ ih => rw [List.length_cons, List.length_cons, ih]
  | param _ _ ih => rw [List.length_cons, List.length_cons, ih]

end Lookup

namespace Endpoint

variable {look : Lookup σ} {e : Endpoint} {present : Text → Bool} {target : Text} {s after : σ}

/-- Filling succeeds exactly when the kept atoms can be rendered, path before query, and writes their texts. -/
theorem fill_eq_ok_iff_renders : e.fill present look s = (.ok target, after) ↔ ∃ segments values between,
    look.Renders ((e.keep present).path.map (·.atom)) s segments between ∧
    look.Renders ((e.keep present).query.map (·.part.atom)) between values after ∧
    Request.written segments (((e.keep present).query.map (·.name)).zip values) = target := by
  simp only [← Lookup.render_eq_iff_renders]
  rcases hpath : look.render ((e.keep present).path.map (·.atom)) s with ⟨_ | segments, between⟩
  · simp [fill_of_path_error hpath, hpath]
  · rw [fill_of_path_ok hpath]
    rcases hquery : look.render ((e.keep present).query.map (·.part.atom)) between with ⟨_ | values, last⟩
    · simp [hpath, hquery, Except.map]
    · simp [hpath, hquery, Except.map, and_comm]

theorem nodup_names_keep (hd : (e.query.map (·.name)).Nodup) (present : Text → Bool) :
    ((e.keep present).query.map (·.name)).Nodup := by
  have names : (e.keep present).query.map (·.name) = (e.query.filter (·.part.kept present)).map (·.name) := by
    rw [keep, List.map_map]
    rfl
  rw [names]
  exact hd.sublist (List.filter_sublist.map _)

/-- **What filling writes is read back.** When filling succeeds, the kept atoms were rendered to texts by the lookup,
    path before query. If the texts of the path are segments without marks, the names kept are free of `=`, `&` and `#`,
    and the texts of the query are free of `&` and `#`, then the target is not taken for an absolute one, and it is
    parsed as the segments in their order and the table in which each name kept has its text. -/
theorem parse_of_fill (hd : (e.query.map (·.name)).Nodup) (fills : e.fill present look s = (.ok target, after)) :
    ∃ segments values between,
      look.Renders ((e.keep present).path.map (·.atom)) s segments between ∧
      look.Renders ((e.keep present).query.map (·.part.atom)) between values after ∧
      ((∀ segment ∈ segments, IsSegment segment) → (∀ entry ∈ (e.keep present).query, IsQueryName entry.name) →
        (∀ value ∈ values, IsQueryValue value) →
          Request.splitScheme? target = none ∧ ∃ r, Request.parse target = .ok r ∧ r.segments = segments ∧
            ∀ name value, r.query.get? name = some value ↔
              (name, value) ∈ ((e.keep present).query.map (·.name)).zip values) := by
  obtain ⟨segments, values, between, path, query, rfl⟩ := fill_eq_ok_iff_renders.mp fills
  refine ⟨segments, values, between, path, query, fun segmented named valued => ?_⟩
  have entries : ∀ x ∈ ((e.keep present).query.map (·.name)).zip values, IsQueryName x.1 ∧ IsQueryValue x.2 := by
    intro x hx
    obtain ⟨hname, hvalue⟩ := List.of_mem_zip hx
    obtain ⟨entry, hentry, heq⟩ := List.mem_map.mp hname
    exact ⟨heq ▸ named entry hentry, valued x.2 hvalue⟩
  have lengths : ((e.keep present).query.map (·.name)).length ≤ values.length := by
    rw [← query.length_eq, List.length_map, List.length_map]
  refine ⟨Request.splitScheme?_written segmented _, _, Request.parseJudged_written _ segmented entries, rfl,
    fun name value => Dict.get?_ofList_of_nodup ?_⟩
  rw [List.map_fst_zip lengths]
  exact nodup_names_keep hd present

/-- Answers each question with the next of the texts at hand. -/
def supply : Lookup (List Text)
  | _, [] => (none, [])
  | _, text :: rest => (some text, rest)

/-- `{at}/{at}?to={to}&[?noted:note=yes]&mark=` -/
def redirect : Endpoint where
  path := [⟨[], .param "at".toList⟩, ⟨[], .param "at".toList⟩]
  query := [⟨"to".toList, [], .param "to".toList⟩, ⟨"note".toList, ["noted".toList], .literal "yes".toList⟩,
    ⟨"mark".toList, [], .literal []⟩]

theorem parse_of_fill_redirect : (redirect.query.map (·.name)).Nodup ∧
    redirect.fill (fun _ => false) supply ["a:".toList, "b".toList, "http://c/d?e=f".toList] =
      (.ok "a:/b?to=http://c/d?e=f&mark=".toList, []) ∧
    Request.splitScheme? "a:/b?to=http://c/d?e=f&mark=".toList = none ∧
    ∃ r, Request.parse "a:/b?to=http://c/d?e=f&mark=".toList = .ok r ∧ r.segments = ["a:".toList, "b".toList] ∧
      r.query.get? "to".toList = some "http://c/d?e=f".toList ∧ r.query.get? "mark".toList = some [] := by
  have hd : (redirect.query.map (·.name)).Nodup := by decide
  have fills : redirect.fill (fun _ => false) supply ["a:".toList, "b".toList, "http://c/d?e=f".toList] =
      (.ok "a:/b?to=http://c/d?e=f&mark=".toList, []) := by rfl
  obtain ⟨segments, values, between, path, query, reads⟩ := parse_of_fill hd fills
  -- The texts of this run are the ones at hand, in their order.
  have pathTexts : supply.render [.param "at".toList, .param "at".toList]
      ["a:".toList, "b".toList, "http://c/d?e=f".toList] =
        (.ok ["a:".toList, "b".toList], ["http://c/d?e=f".toList]) := rfl
  have queryTexts : supply.render [.param "to".toList, .literal []] ["http://c/d?e=f".toList] =
      (.ok ["http://c/d?e=f".toList, []], []) := rfl
  cases path.render.symm.trans pathTexts
  cases query.render.symm.trans queryTexts
  obtain ⟨relative, r, parsed, segments, read⟩ := reads (by decide) (by decide) (by decide)
  exact ⟨hd, fills, relative, r, parsed, segments, (read _ _).mpr (by decide), (read _ _).mpr (by decide)⟩

end Endpoint

end RouteTemplate
