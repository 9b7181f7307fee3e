import RouteTemplate.Proofs.Dict
import RouteTemplate.Shape

/- Binding, whatever the order.

   A match puts each atom beside the text found in its place. `Bindings.bindAll` goes through such a list
   and fails at the first literal that differs or the first name bound to two values. What it gives is the
   table of all pairs taken together (`bindAll_eq_some_iff`), and there is one exactly when no name has two
   values in the list and what was bound before (`exists_bindAll_iff`). So the order of the list does not
   matter (`bindAll_perm`), and binding the path before the query is binding the query before the path. Of
   names bound to values one by one, as the parameters of both are, `bindEach_exact` says all of this.

   A shape is matched by binding everything it finds in the request (`Shape.resolve_eq_bindAll`). -/
namespace RouteTemplate

namespace Bindings

/-- The bindings after every atom has been matched against the text beside it. -/
def bindAll (b : Bindings) (found : List (Atom × Text)) : Option Bindings := found.foldlM Atom.bind b

/-- Every literal stands beside itself. -/
def LiteralsAgree (found : List (Atom × Text)) : Prop :=
  ∀ text value, (.literal text, value) ∈ found → text = value

/-- `b'` binds what `b` binds and what the parameters of the list stand beside, and nothing else. -/
def Joins (b : Bindings) (found : List (Atom × Text)) (b' : Bindings) : Prop :=
  ∀ name value, b'.get? name = some value ↔ b.get? name = some value ∨ (.param name, value) ∈ found

theorem bindAll_nil (b : Bindings) : b.bindAll [] = some b := rfl

theorem bindAll_append (b : Bindings) (l m : List (Atom × Text)) :
    b.bindAll (l ++ m) = (b.bindAll l).bind fun b' => b'.bindAll m := by
  simp [bindAll, List.foldlM_append, Option.bind_eq_bind]

theorem bindAll_literal (b : Bindings) (text value : Text) (l : List (Atom × Text)) :
    b.bindAll ((.literal text, value) :: l) = if text = value then b.bindAll l else none := by
  by_cases h : text = value <;> simp [bindAll, Atom.bind, h]

theorem bindAll_param_fresh {b : Bindings} {name : Text} (value : Text) (l : List (Atom × Text))
    (h : b.get? name = none) :
    b.bindAll ((.param name, value) :: l) = bindAll (b.insert name value) l := by
  simp [bindAll, Atom.bind, Bindings.bind, h]

theorem bindAll_param_bound {b : Bindings} {name old : Text} (value : Text) (l : List (Atom × Text))
    (h : b.get? name = some old) :
    b.bindAll ((.param name, value) :: l) = if old = value then b.bindAll l else none := by
  by_cases hv : old = value <;> simp [bindAll, Atom.bind, Bindings.bind, h, hv]

theorem literalsAgree_literal {text value : Text} {l : List (Atom × Text)} :
    LiteralsAgree ((.literal text, value) :: l) ↔ text = value ∧ LiteralsAgree l := by
  simp only [LiteralsAgree, List.mem_cons, Prod.mk.injEq, Atom.literal.injEq]
  refine ⟨?_, ?_⟩
  · intro h
    exact ⟨h text value (.inl ⟨rfl, rfl⟩), fun t v hm => h t v (.inr hm)⟩
  · intro h t v h'
    obtain ⟨rfl, h⟩ := h
    rcases h' with ⟨rfl, rfl⟩ | hm
    · rfl
    · exact h t v hm

theorem literalsAgree_param {name value : Text} {l : List (Atom × Text)} :
    LiteralsAgree ((.param name, value) :: l) ↔ LiteralsAgree l := by
  simp [LiteralsAgree]

theorem joins_literal {b b' : Bindings} {text value : Text} {l : List (Atom × Text)} :
    Joins b ((.literal text, value) :: l) b' ↔ Joins b l b' := by
  simp [Joins]

theorem joins_param_fresh {b b' : Bindings} {name value : Text} {l : List (Atom × Text)}
    (h : b.get? name = none) : Joins b ((.param name, value) :: l) b' ↔ Joins (b.insert name value) l b' := by
  have shift : ∀ n v, (b.get? n = some v ∨ (Atom.param n, v) ∈ (Atom.param name, value) :: l) ↔
      (b.insert name value).get? n = some v ∨ (Atom.param n, v) ∈ l := by
    intro n v
    rw [Dict.get?_insert]
    by_cases hn : name = n
    · subst hn
      simp [h, eq_comm]
    · have : ¬n = name := fun e => hn e.symm
      simp [hn, this]
  simp only [Joins, shift]

theorem joins_param_bound {b b' : Bindings} {name value : Text} {l : List (Atom × Text)}
    (h : b.get? name = some value) : Joins b ((.param name, value) :: l) b' ↔ Joins b l b' := by
  have absorb : ∀ n v, (b.get? n = some v ∨ (Atom.param n, v) ∈ (Atom.param name, value) :: l) ↔
      b.get? n = some v ∨ (Atom.param n, v) ∈ l := by
    intro n v
    simp only [List.mem_cons, Prod.mk.injEq, Atom.param.injEq]
    refine ⟨?_, ?_⟩
    · intro h
      rcases h with hb | ⟨rfl, rfl⟩ | hm
      · exact .inl hb
      · exact .inl h
      · exact .inr hm
    · intro h
      rcases h with hb | hm
      · exact .inl hb
      · exact .inr (.inr hm)
  simp only [Joins, absorb]

theorem not_joins_of_two_values {b b' : Bindings} {name old value : Text} {l : List (Atom × Text)}
    (h : b.get? name = some old) (hv : old ≠ value) : ¬Joins b ((.param name, value) :: l) b' := by
  intro hj
  have h₁ : b'.get? name = some old := (hj name old).mpr (.inl h)
  have h₂ : b'.get? name = some value := (hj name value).mpr (.inr (by simp))
  rw [h₁] at h₂
  exact hv (Option.some.inj h₂)

/-- Binding a list gives the one table that joins all of it, and fails when there is none. -/
theorem bindAll_eq_some_iff {b b' : Bindings} {found : List (Atom × Text)} :
    b.bindAll found = some b' ↔ LiteralsAgree found ∧ Joins b found b' := by
  -- What is bound before the rest of the list grows with each fresh name, so it stays general.
  induction found generalizing b with
  | nil =>
    rw [bindAll_nil, Option.some.injEq]
    refine ⟨?_, ?_⟩
    · intro heq
      subst heq
      simp [LiteralsAgree, Joins]
    · intro h
      obtain ⟨-, hj⟩ := h
      refine Dict.ext_get? fun name => Option.ext fun value => ?_
      simp [hj name value]
  | cons x l ih =>
    obtain ⟨atom, value⟩ := x
    cases atom with
    | literal text =>
      rw [bindAll_literal, literalsAgree_literal, joins_literal]
      by_cases h : text = value
      · simp [h, ih]
      · simp [h]
    | param name =>
      rw [literalsAgree_param]
      -- A fresh name is entered; a bound one has its value here, or nothing joins the two.
      cases hb : b.get? name with
      | none => rw [bindAll_param_fresh value l hb, joins_param_fresh hb, ih]
      | some old =>
        rw [bindAll_param_bound value l hb]
        by_cases h : old = value
        · subst h
          rw [if_pos rfl, joins_param_bound hb, ih]
        · simp [h, not_joins_of_two_values hb h]

/-- No name has two values in the list and what was bound before. -/
def OneValued (b : Bindings) (found : List (Atom × Text)) : Prop :=
  ∀ name value value', (b.get? name = some value ∨ (.param name, value) ∈ found) →
    (b.get? name = some value' ∨ (.param name, value') ∈ found) → value = value'

/-- The parameters of a list, each with the text beside it. -/
def named (found : List (Atom × Text)) : List (Text × Text) :=
  found.filterMap fun (atom, text) => atom.parameter?.map (·, text)

theorem mem_named {found : List (Atom × Text)} {name value : Text} :
    (name, value) ∈ named found ↔ (.param name, value) ∈ found := by
  simp only [named, List.mem_filterMap, Prod.exists]
  refine ⟨?_, fun hm => ⟨.param name, value, hm, rfl⟩⟩
  intro h
  obtain ⟨atom, text, hm, hparam⟩ := h
  cases atom with
  | literal _ => cases hparam
  | param _ =>
    cases hparam
    exact hm

theorem exists_joins_iff {b : Bindings} {found : List (Atom × Text)} :
    (∃ b', Joins b found b') ↔ OneValued b found := by
  refine ⟨?_, ?_⟩
  · intro h name value value' hv hv'
    obtain ⟨b', joins⟩ := h
    have same := ((joins name value).mpr hv).symm.trans ((joins name value').mpr hv')
    exact Option.some.inj same
  · intro h
    have listed : ∀ name value, (name, value) ∈ b.entries ++ named found ↔
        b.get? name = some value ∨ (.param name, value) ∈ found := by
      intro name value
      rw [List.mem_append, mem_named, Dict.get?_eq_some_iff]
    refine ⟨Dict.ofList (b.entries ++ named found), fun name value => ?_⟩
    rw [← listed]
    refine Dict.get?_ofList_of_functional fun n v v' hm hm' => ?_
    exact h n v v' ((listed n v).mp hm) ((listed n v').mp hm')

theorem exists_bindAll_iff {b : Bindings} {found : List (Atom × Text)} :
    (∃ b', b.bindAll found = some b') ↔ LiteralsAgree found ∧ OneValued b found := by
  simp only [bindAll_eq_some_iff, exists_and_left, exists_joins_iff]

/-- The order in which atoms are matched does not matter. -/
theorem bindAll_perm {l m : List (Atom × Text)} (h : l.Perm m) (b : Bindings) :
    b.bindAll l = b.bindAll m := by
  have same : ∀ atom value, (atom, value) ∈ l ↔ (atom, value) ∈ m := fun _ _ => h.mem_iff
  apply Option.ext
  intro b'
  rw [bindAll_eq_some_iff, bindAll_eq_some_iff]
  simp only [LiteralsAgree, Joins, same]

theorem bindAll_append_comm (b : Bindings) (l m : List (Atom × Text)) :
    b.bindAll (l ++ m) = b.bindAll (m ++ l) := bindAll_perm List.perm_append_comm b

/-! ## Names and values, one after another -/

/-- The bindings after every name has been bound to the value beside it, up to the first that refuses. -/
def bindEach (b : Bindings) (pairs : List (Text × Text)) : Option Bindings :=
  pairs.foldlM (fun b pair => b.bind pair.1 pair.2) b

/-- A value that a name has before, or is to have. -/
def Gives (b : Bindings) (pairs : List (Text × Text)) (name value : Text) : Prop :=
  b.get? name = some value ∨ (name, value) ∈ pairs

section
variable {b : Bindings} {pairs : List (Text × Text)}

theorem bindEach_eq_bindAll (b : Bindings) (pairs : List (Text × Text)) :
    b.bindEach pairs = b.bindAll (pairs.map fun pair => (.param pair.1, pair.2)) := by
  rw [bindEach, bindAll, List.foldlM_map]
  rfl

theorem mem_map_param {name value : Text} :
    (.param name, value) ∈ pairs.map (fun pair => (Atom.param pair.1, pair.2)) ↔ (name, value) ∈ pairs := by
  simp

theorem literalsAgree_map_param : LiteralsAgree (pairs.map fun pair => (.param pair.1, pair.2)) := by
  simp [LiteralsAgree]

theorem bindEach_eq_some_iff {b' : Bindings} :
    b.bindEach pairs = some b' ↔ ∀ name value, b'.get? name = some value ↔ Gives b pairs name value := by
  rw [bindEach_eq_bindAll, bindAll_eq_some_iff, and_iff_right literalsAgree_map_param]
  simp only [Joins, Gives, mem_map_param]

theorem exists_bindEach_iff : (∃ b', b.bindEach pairs = some b') ↔
    ∀ name value value', Gives b pairs name value → Gives b pairs name value' → value = value' := by
  rw [bindEach_eq_bindAll, exists_bindAll_iff, and_iff_right literalsAgree_map_param]
  simp only [OneValued, Gives, mem_map_param]

end

/-- **Names may be bound in any order.** Binding names to values one after another succeeds exactly when no name has
    two values among those given and those bound before. What comes of it is what was bound before and the pairs
    given, and no more. Another order of the pairs succeeds where this one does, and gives the same bindings. -/
theorem bindEach_exact (b : Bindings) (pairs : List (Text × Text)) :
    ((∃ b', b.bindEach pairs = some b') ↔
      ∀ name value value', Gives b pairs name value → Gives b pairs name value' → value = value') ∧
    (∀ b', b.bindEach pairs = some b' ↔ ∀ name value, b'.get? name = some value ↔ Gives b pairs name value) ∧
    ∀ pairs', pairs.Perm pairs' → b.bindEach pairs' = b.bindEach pairs := by
  refine ⟨exists_bindEach_iff, fun b' => bindEach_eq_some_iff, fun pairs' perm => ?_⟩
  rw [bindEach_eq_bindAll, bindEach_eq_bindAll]
  exact bindAll_perm (perm.symm.map _) b

/-- `id` has the value `7` before, and is given it twice more, with another name between or before. -/
theorem bindEach_exact_repeated :
    let b : Bindings := Dict.empty.insert "id".toList "7".toList
    let pairs := [("id".toList, "7".toList), ("page".toList, "2".toList), ("id".toList, "7".toList)]
    let pairs' := [("page".toList, "2".toList), ("id".toList, "7".toList), ("id".toList, "7".toList)]
    pairs.Perm pairs' ∧ b.bindEach pairs' = b.bindEach pairs ∧
      b.bindEach pairs = some (b.insert "page".toList "2".toList) := by
  intro b pairs pairs'
  obtain ⟨-, -, any_order⟩ := bindEach_exact b pairs
  have perm : pairs.Perm pairs' := by decide
  exact ⟨perm, any_order pairs' perm, by decide⟩

end Bindings

/-! ## What a shape finds in a request -/

namespace Rule

/-- What a rule finds in a query: its atom beside the value of its name. -/
def found? (query : Dict Text) (e : Text × Rule) : Option (Atom × Text) :=
  (query.get? e.1).map (e.2.atom, ·)

/-- Does the query hold the name, or may it be missing? -/
def answered (query : Dict Text) (e : Text × Rule) : Bool := e.2.optional || (query.get? e.1).isSome

theorem bind_of_found {query : Dict Text} {e : Text × Rule} {x : Atom × Text} (b : Bindings)
    (h : found? query e = some x) : bind query b e = Atom.bind b x ∧ answered query e = true := by
  obtain ⟨value, hv, rfl⟩ := Option.map_eq_some_iff.mp h
  simp [bind, answered, hv]

theorem bind_of_missing {query : Dict Text} {e : Text × Rule} (b : Bindings)
    (h : found? query e = none) : bind query b e = if answered query e then some b else none := by
  have hv : query.get? e.1 = none := Option.map_eq_none_iff.mp h
  simp [bind, answered, hv]

theorem foldlM_bind (query : Dict Text) : ∀ (rules : List (Text × Rule)) (b : Bindings),
    rules.foldlM (bind query) b =
      if rules.all (answered query) then b.bindAll (rules.filterMap (found? query)) else none
  | [], b => by simp [Bindings.bindAll]
  | e :: rest, b => by
    have ih := foldlM_bind query rest
    rw [List.foldlM_cons, List.all_cons]
    cases hf : found? query e with
    | none =>
      rw [bind_of_missing b hf, List.filterMap_cons_none hf]
      cases answered query e with
      | false => simp
      | true => rw [Bool.true_and, ← ih b]; rfl
    | some x =>
      obtain ⟨hb, ha⟩ := bind_of_found b hf
      rw [hb, ha, Bool.true_and, List.filterMap_cons_some hf, Bindings.bindAll, List.foldlM_cons]
      cases Atom.bind b x with
      | none => simp
      | some b' => exact ih b'

end Rule

namespace Shape

/-- The rules whose name the query holds, each beside the value there. -/
def foundInQuery (s : Shape) (query : Dict Text) : List (Atom × Text) :=
  s.query.entries.filterMap (Rule.found? query)

/-- Does the query hold every name that may not be missing? -/
def answeredBy (s : Shape) (query : Dict Text) : Bool := s.query.entries.all (Rule.answered query)

/-- Matching the query binds what is found in it, when no name is missing. -/
theorem bindQuery_eq (s : Shape) (query : Dict Text) (b : Bindings) :
    s.bindQuery query b = if s.answeredBy query then b.bindAll (s.foundInQuery query) else none :=
  Rule.foldlM_bind query s.query.entries b

theorem mem_foundInQuery {s : Shape} {query : Dict Text} {atom : Atom} {value : Text} :
    (atom, value) ∈ s.foundInQuery query ↔
      ∃ name rule, s.query.get? name = some rule ∧ query.get? name = some value ∧ rule.atom = atom := by
  simp only [foundInQuery, Rule.found?, List.mem_filterMap, Option.map_eq_some_iff, Prod.mk.injEq,
    Prod.exists, Dict.get?_eq_some_iff]
  refine ⟨?_, ?_⟩
  · intro h
    obtain ⟨name, rule, hm, v, hv, rfl, rfl⟩ := h
    exact ⟨name, rule, hm, hv, rfl⟩
  · intro h
    obtain ⟨name, rule, hm, hv, rfl⟩ := h
    exact ⟨name, rule, hm, value, hv, rfl, rfl⟩

theorem answeredBy_iff {s : Shape} {query : Dict Text} : s.answeredBy query = true ↔
    ∀ name rule, s.query.get? name = some rule → rule.optional = true ∨ (query.get? name).isSome = true := by
  simp [answeredBy, Rule.answered, Dict.get?_eq_some_iff]

/-- Everything a shape finds in a request: its path beside the segments, its rules beside the values. -/
def foundIn (s : Shape) (r : Request) : List (Atom × Text) :=
  s.path.zip r.segments ++ s.foundInQuery r.query

/-- A request fits a shape when it has as many segments and lacks no name that is asked for. -/
def fits (s : Shape) (r : Request) : Bool :=
  r.segments.length == s.path.length && s.answeredBy r.query

theorem resolve_eq_bindAll (s : Shape) (r : Request) :
    s.resolve r = if s.fits r then Bindings.bindAll .empty (s.foundIn r) else none := by
  rw [resolve, bindQuery_eq]
  by_cases hlen : r.segments.length = s.path.length
  · cases hq : s.answeredBy r.query with
    | false => simp [fits, hlen, hq]
    | true =>
      have : ∀ b : Bindings, bindSegments b s.path r.segments = b.bindAll (s.path.zip r.segments) :=
        fun _ => rfl
      simp only [fits, hlen, hq, this, foundIn, beq_self_eq_true, Bool.and_true, if_true, ne_eq,
        not_true_eq_false, if_false]
      rw [Bindings.bindAll_append_comm, Bindings.bindAll_append]
  · simp [fits, hlen]

end Shape

end RouteTemplate
