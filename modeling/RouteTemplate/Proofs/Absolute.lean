import RouteTemplate.Target
import RouteTemplate.Proofs.Cutting

/- Absolute targets and relative ones.

   A target is absolute when a scheme stands before `://`. No scheme holds a colon, so this `://` is the first one
   (`Request.splitScheme?_eq_some_iff`), whatever marks of the kind follow it. The authority goes on to the first `/`,
   `?` or `#`, so what is left of the target when both are cut off is all that follows the authority. It begins with
   one of these marks, or is empty, and is therefore no absolute target itself. So the judgement on the target as a
   whole is all that scheme and authority are for: when it passes, the rest describes the same request, or has the
   same fault, as it does alone; and a target without a scheme is not judged (`Request.parse_absolute`). -/
namespace RouteTemplate

/-! ## The first mark -/

namespace Text

theorem splitAtMark_append {c : Char} {mark : Text} (b : Text) : ∀ {a : Text}, c ∉ a →
    splitAtMark (c :: mark) (a ++ (c :: mark ++ b)) = some (a, b)
  | [], _ => by
    have here : after? (c :: mark) (c :: mark ++ b) = some b := after?_append (c :: mark) b
    rw [List.cons_append] at here ⊢
    rw [List.nil_append, splitAtMark, here]
  | d :: a, h => by
    rw [List.mem_cons, not_or] at h
    have later : after? (c :: mark) (d :: (a ++ (c :: mark ++ b))) = none := by
      rw [after?, if_neg h.1]
    rw [List.cons_append, splitAtMark, later, splitAtMark_append b h.2]
    rfl

end Text

open Text

/-! ## Schemes and authorities -/

/-- A letter, and after it letters, digits, `+`, `-` and `.`. -/
inductive IsScheme : Text → Prop
  | mk {letter : Char} {rest : Text} : letter.isAlpha = true →
      (∀ c ∈ rest, c.isAlphanum = true ∨ c = '+' ∨ c = '-' ∨ c = '.') → IsScheme (letter :: rest)

/-- A text that holds no mark that ends an authority. It may be empty. -/
structure IsAuthority (t : Text) : Prop where
  slash : '/' ∉ t
  mark : '?' ∉ t
  hash : '#' ∉ t

/-- What can follow an authority: nothing, or a text that begins with a mark that ends one. -/
inductive FollowsAuthority : Text → Prop
  | nil : FollowsAuthority []
  | cons {c : Char} {rest : Text} : c = '/' ∨ c = '?' ∨ c = '#' → FollowsAuthority (c :: rest)

instance (t : Text) : Decidable (IsAuthority t) :=
  decidable_of_iff ('/' ∉ t ∧ '?' ∉ t ∧ '#' ∉ t) ⟨fun ⟨a, b, c⟩ => ⟨a, b, c⟩, fun ⟨a, b, c⟩ => ⟨a, b, c⟩⟩

namespace Request

variable {t scheme authority rest : Text}

theorem isScheme_iff : isScheme t = true ↔ IsScheme t := by
  cases t with
  | nil =>
    refine iff_of_false Bool.false_ne_true fun h => ?_
    cases h
  | cons letter rest =>
    simp only [isScheme, Bool.and_eq_true, List.all_eq_true, Bool.or_eq_true, beq_iff_eq, or_assoc]
    refine ⟨fun h => .mk h.1 h.2, fun h => ?_⟩
    obtain ⟨first, others⟩ := h
    exact ⟨first, others⟩

theorem colon_not_mem_of_isScheme (h : IsScheme scheme) : ':' ∉ scheme :=
  not_mem_of_isScheme (by decide) (by decide) (isScheme_iff.mpr h)

theorem splitScheme?_eq_some_iff :
    splitScheme? t = some (scheme, rest) ↔ IsScheme scheme ∧ t = scheme ++ [':', '/', '/'] ++ rest := by
  refine ⟨fun h => ?_, fun ⟨valid, whole⟩ => ?_⟩
  · unfold splitScheme? at h
    split at h
    · next first after found =>
      split at h
      · next valid =>
        cases h
        exact ⟨isScheme_iff.mp valid, eq_of_splitAtMark found⟩
      · cases h
    · cases h
  · have found : splitAtMark [':', '/', '/'] t = some (scheme, rest) := by
      rw [whole, List.append_assoc]
      exact splitAtMark_append rest (colon_not_mem_of_isScheme valid)
    simp only [splitScheme?, found, isScheme_iff.mpr valid, if_true]

/-- No scheme stands before the first `://` when none stands before any. -/
theorem splitScheme?_eq_none (h : ∀ scheme rest, t = scheme ++ [':', '/', '/'] ++ rest → ¬IsScheme scheme) :
    splitScheme? t = none := by
  rw [Option.eq_none_iff_forall_ne_some]
  rintro ⟨scheme, rest⟩ found
  obtain ⟨valid, whole⟩ := splitScheme?_eq_some_iff.mp found
  exact h scheme rest whole valid

theorem splitScheme?_of_followsAuthority (h : FollowsAuthority rest) : splitScheme? rest = none := by
  refine splitScheme?_eq_none fun scheme more whole valid => ?_
  obtain ⟨first, -⟩ := valid
  cases h with
  | nil => cases whole
  | cons ends =>
    -- The mark would be the letter that a scheme begins with.
    obtain ⟨rfl, -⟩ := List.cons.inj whole
    rcases ends with rfl | rfl | rfl <;> exact absurd first (by decide)

theorem breakAt_authority (ha : IsAuthority authority) (hr : FollowsAuthority rest) :
    breakAt endsAuthority (authority ++ rest) = (authority, rest) := by
  have inside : ∀ c ∈ authority, (!endsAuthority c) = true := by
    intro c hc
    simp only [endsAuthority, Bool.not_eq_true', Bool.or_eq_false_iff, beq_eq_false_iff_ne, ne_eq]
    refine ⟨⟨?_, ?_⟩, ?_⟩ <;> rintro rfl
    · exact ha.slash hc
    · exact ha.mark hc
    · exact ha.hash hc
  rw [breakAt, List.takeWhile_append_of_pos inside, List.dropWhile_append_of_pos inside]
  cases hr with
  | nil => rw [List.takeWhile_nil, List.dropWhile_nil, List.append_nil]
  | @cons c rest ends =>
    have ends : (!endsAuthority c) = false := by rcases ends with rfl | rfl | rfl <;> rfl
    simp [ends]

theorem parseJudged_of_relative (fault? : Text → Option AuthorityFault) (h : splitScheme? t = none) :
    parseJudged fault? t = parseRelative t := by
  rw [parseJudged, h]

/-- **Absolute targets are read as the relative ones that they end in.** Let a target consist of a scheme, `://`, an
    authority and a rest that is empty or begins with `/`, `?` or `#`. When it is found at fault as a whole, this is the
    error, and it carries the whole target; otherwise the target is parsed as its rest is, request or error alike. A
    target with no scheme before its first `://`, or with no `://` at all, is not judged, and all of it is taken apart. -/
theorem parse_absolute (fault? : Text → Option AuthorityFault) :
    (∀ scheme authority rest, IsScheme scheme → IsAuthority authority → FollowsAuthority rest →
      ∀ target, target = scheme ++ [':', '/', '/'] ++ authority ++ rest →
        (∀ fault, fault? target = some fault → parseJudged fault? target = .error (.invalidTarget target fault)) ∧
        (fault? target = none → parseJudged fault? target = parseJudged fault? rest)) ∧
    ∀ target, (∀ before after, target = before ++ [':', '/', '/'] ++ after → ¬[':', '/', '/'] <:+: before →
        ¬IsScheme before) → parseJudged fault? target = parseRelative target := by
  refine ⟨fun scheme authority rest hs ha hr target whole => ?_, fun target plain => ?_⟩
  · have cut : splitScheme? target = some (scheme, authority ++ rest) :=
      splitScheme?_eq_some_iff.mpr ⟨hs, by rw [whole, List.append_assoc]⟩
    refine ⟨fun fault rejected => ?_, fun accepted => ?_⟩
    · simp only [parseJudged, cut, rejected]
    · rw [parseJudged_of_relative fault? (splitScheme?_of_followsAuthority hr)]
      simp only [parseJudged, cut, accepted, breakAt_authority ha hr]
  · refine parseJudged_of_relative fault? (splitScheme?_eq_none fun scheme rest whole valid => ?_)
    have first : ¬[':', '/', '/'] <:+: scheme := fun h =>
      colon_not_mem_of_isScheme valid (h.subset List.mem_cons_self)
    exact plain scheme rest whole first valid

/-- An authority that ends at a query, with an absolute target in it; one that is at fault; and a path that looks like an
    absolute target behind its first segment. -/
theorem parse_absolute_forwarded :
    (IsScheme "https".toList ∧ IsAuthority "me@h:80".toList ∧ FollowsAuthority "?to=http://y/#z".toList ∧
      Target.fault? "https://me@h:80?to=http://y/#z".toList = none ∧
      parse "https://me@h:80?to=http://y/#z".toList = parse "?to=http://y/#z".toList) ∧
    (Target.fault? "http://[::1/a".toList = some .invalidIpv6 ∧
      parse "http://[::1/a".toList = .error (.invalidTarget "http://[::1/a".toList .invalidIpv6)) ∧
    parse "a/http://b".toList = parseRelative "a/http://b".toList := by
  obtain ⟨absolute, relative⟩ := parse_absolute Target.fault?
  have https : IsScheme "https".toList := isScheme_iff.mp (by decide)
  have http : IsScheme "http".toList := isScheme_iff.mp (by decide)
  have host : IsAuthority "me@h:80".toList := by decide
  have bracket : IsAuthority "[::1".toList := by decide
  have query : FollowsAuthority "?to=http://y/#z".toList := .cons (by decide)
  have path : FollowsAuthority "/a".toList := .cons (by decide)
  have accepted : Target.fault? "https://me@h:80?to=http://y/#z".toList = none := by decide +kernel
  have rejected : Target.fault? "http://[::1/a".toList = some .invalidIpv6 := by decide +kernel
  refine ⟨⟨https, host, query, accepted, ?_⟩, ⟨rejected, ?_⟩, ?_⟩
  · exact (absolute _ _ _ https host query _ (by decide)).2 accepted
  · exact (absolute _ _ _ http bracket path _ (by decide)).1 _ rejected
  · refine relative _ fun before after whole _ valid => ?_
    have found := splitScheme?_eq_some_iff.mpr ⟨valid, whole⟩
    have none : splitScheme? "a/http://b".toList = none := by decide
    rw [none] at found
    cases found

end Request

end RouteTemplate
