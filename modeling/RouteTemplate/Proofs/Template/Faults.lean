import RouteTemplate.Proofs.Template.Reading

/- What a template can be refused for.

   Reading goes from item to item, and the answer is the first fault met, that of a block or that of a plain item
   (`readRegion_error`). So a template is refused for its blocks, its entries or a repeated name, and for nothing
   that only a registration or a call could be at fault for (`Endpoint.ofTemplate_of_parse`). -/
namespace RouteTemplate

/-- The faults that a template has of itself, whatever it is declared for. -/
def EndpointError.OfTemplate : EndpointError → Prop
  | .unbalancedOptional _ | .malformedOptional _ | .malformedQueryEntry _ | .duplicateQueryParameter _ => True
  | .unknownParameter .. | .missingArgument _ | .duplicateMethod _ => False

variable {template : Text} {fault : EndpointError}

theorem ofTemplate_of_readBlock {sep : Char} {opened : Text} (h : readBlock template sep opened = .error fault) :
    fault.OfTemplate := by
  unfold readBlock at h
  split at h
  · cases h
    trivial
  · split at h
    · cases h
      trivial
    · split at h
      · cases h
        trivial
      · cases h

theorem ofTemplate_of_readAtom {chunk : Text} (h : readAtom template chunk = .error fault) : fault.OfTemplate := by
  unfold readAtom at h
  split at h
  · cases h
    trivial
  · split at h
    · cases h
      trivial
    · cases h

theorem except_map_eq_error_iff {ε α β : Type} {f : α → β} {x : Except ε α} {fault : ε} :
    x.map f = .error fault ↔ x = .error fault := by
  cases x <;> simp [Except.map]

theorem ofTemplate_of_readSegment {chunk : Text} (h : readSegment template chunk = .error fault) :
    fault.OfTemplate :=
  ofTemplate_of_readAtom (except_map_eq_error_iff.mp h)

theorem ofTemplate_of_readEntry {text : Text} (h : readEntry template text = .error fault) : fault.OfTemplate := by
  unfold readEntry at h
  split at h
  · cases h
    trivial
  · split at h
    · cases h
      trivial
    · exact ofTemplate_of_readAtom (except_map_eq_error_iff.mp h)

/-- A region is at fault where one of its blocks or plain items is. -/
theorem readRegion_error {α : Type} {sep : Char} {plain : Text → Except EndpointError α} {guard : Text → α → α}
    (hplain : ∀ {text fault}, plain text = .error fault → fault.OfTemplate) {text : Text}
    (h : readRegion template sep plain guard text = .error fault) : fault.OfTemplate := by
  fun_induction readRegion template sep plain guard text generalizing fault with
  | case1 => cases h
  | case2 opened e hblock =>
    cases h
    exact ofTemplate_of_readBlock hblock
  | case3 opened b hblock _ e hbody body =>
    cases h
    exact body hbody
  | case4 opened b hblock _ inner hbody e hafter body after =>
    cases h
    exact after hafter
  | case5 => cases h
  | case6 rest _ ih => exact ih h
  | case7 c rest _ _ e hfault =>
    cases h
    exact hplain hfault
  | case8 c rest _ _ a _ _ e hmore after =>
    cases h
    exact after hmore
  | case9 => cases h

theorem Endpoint.ofTemplate_of_parse (h : Endpoint.parse template = .error fault) : fault.OfTemplate := by
  unfold Endpoint.parse at h
  simp only at h
  split at h
  · next hpath =>
    cases h
    exact readRegion_error ofTemplate_of_readSegment hpath
  · split at h
    · next hquery =>
      cases h
      exact readRegion_error ofTemplate_of_readEntry hquery
    · split at h
      · cases h
        trivial
      · cases h

end RouteTemplate
