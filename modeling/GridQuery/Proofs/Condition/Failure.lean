import GridQuery.Proofs.Batch.Placeholders
import GridQuery.Proofs.Result

/-! # Filters without a condition

Writing a condition goes through the filter once, from left to right. It stops at the first
comparison that looks for a pattern and has none, and what is bound by then stays bound. So any
number of filters can be written with the same bindings, whether they fail or not: no placeholder
is given twice, and each stays bound to the literal for which it was written. -/

namespace GridQuery

namespace Literal
open Decimal

def HasPattern : Literal → Prop
  | string _ | int _ | guid _ => True
  | float x => isFinite x = true
  | _ => False

theorem patternText_eq_error_iff {v : Literal} {e : KindError} :
    v.patternText = .error e ↔ ¬ v.HasPattern ∧ e = .inPattern v.kind := by
  cases v with
  | float x => cases h : isFinite x <;> simp [patternText, HasPattern, kind, h, eq_comm]
  | string s | int n | guid g => simp [patternText, HasPattern]
  | null | bool b | dateTime t | timeSpan s | bytes b =>
    simp [patternText, HasPattern, eq_comm]

end Literal

/-- What is met on the way through a filter. -/
inductive Visit where
  | literal (v : Literal)
  | comparison (op : Comparison) (right : Filter)

namespace Visit

/-- A comparison that looks for a pattern and has none. -/
def Faulty : Visit → Prop
  | literal _ => False
  | comparison op right => op.isPattern = true ∧ ∀ v, right = .literal v → ¬ v.HasPattern

def bound (visits : List Visit) : List Literal :=
  visits.filterMap fun
    | literal v => if v.isNull then none else some v
    | comparison .. => none

@[simp] theorem bound_nil : bound [] = [] := rfl

@[simp] theorem bound_append (xs ys : List Visit) : bound (xs ++ ys) = bound xs ++ bound ys :=
  List.filterMap_append

@[simp] theorem bound_literal (v : Literal) (xs : List Visit) :
    bound (literal v :: xs) = (if v.isNull then [] else [v]) ++ bound xs := by
  cases hv : v.isNull <;> simp [bound, hv]

@[simp] theorem bound_comparison (op : Comparison) (right : Filter) (xs : List Visit) :
    bound (comparison op right :: xs) = bound xs := rfl

end Visit

namespace Comparison

/-- What is bound for a literal on the right: for a pattern operator its text with wildcards. -/
def operand (op : Comparison) (v : Literal) : Literal :=
  if op.isPattern then
    match v.patternText with
    | .ok text => .string (op.pattern text)
    | .error _ => v
  else v

def rightVisits (op : Comparison) (right : Filter) (visits : List Visit) : List Visit :=
  match right with
  | .literal v => [.literal (op.operand v)]
  | _ => visits

def fault (op : Comparison) : Filter → FilterError
  | .literal v => .operandKind (.inPattern v.kind)
  | other => .patternOperand op other

end Comparison

namespace Filter
open Visit

/-- The way through a filter: a comparison is met when its left operand is done. -/
def visits : Filter → List Visit
  | column _ => []
  | literal v => [.literal v]
  | compare left op right =>
    left.visits ++ ([.comparison op right] ++ op.rightVisits right right.visits)
  | combine left _ right => left.visits ++ right.visits
  | not inner => inner.visits

def nodes : Filter → List Filter
  | column name => [column name]
  | literal v => [literal v]
  | compare left op right => compare left op right :: (left.nodes ++ right.nodes)
  | combine left op right => combine left op right :: (left.nodes ++ right.nodes)
  | not inner => not inner :: inner.nodes

section
variable {f left right : Filter} {op : Comparison} {e : FilterError}

theorem mem_rightVisits {op' : Comparison} {right' : Filter} :
    .comparison op right ∈ op'.rightVisits right' right'.visits ↔
      .comparison op right ∈ right'.visits := by
  cases right' <;> simp [Comparison.rightVisits, visits]

theorem comparison_mem_visits_iff :
    .comparison op right ∈ f.visits ↔ ∃ left, compare left op right ∈ f.nodes := by
  induction f with
  | column | literal => simp [visits, nodes]
  | compare left' op' right' ihl ihr =>
    simp only [visits, nodes, List.mem_append, List.mem_cons, List.not_mem_nil, or_false,
      mem_rightVisits, ihl, ihr, Visit.comparison.injEq, compare.injEq]
    constructor
    · rintro (⟨left, h⟩ | ⟨rfl, rfl⟩ | ⟨left, h⟩)
      · exact ⟨left, .inr (.inl h)⟩
      · exact ⟨left', .inl ⟨rfl, rfl, rfl⟩⟩
      · exact ⟨left, .inr (.inr h)⟩
    · rintro ⟨left, ⟨-, rfl, rfl⟩ | h | h⟩
      · exact .inr (.inl ⟨rfl, rfl⟩)
      · exact .inl ⟨left, h⟩
      · exact .inr (.inr ⟨left, h⟩)
  | combine left' op' right' ihl ihr =>
    simp only [visits, nodes, List.mem_append, List.mem_cons, ihl, ihr, reduceCtorEq, false_or,
      exists_or]
  | not inner ih => simpa [visits, nodes] using ih

theorem exists_faulty_iff :
    (∃ x ∈ f.visits, x.Faulty) ↔
      ∃ left op right, compare left op right ∈ f.nodes ∧ (Visit.comparison op right).Faulty := by
  constructor
  · rintro ⟨⟨v⟩ | ⟨op, right⟩, hx, hf⟩
    · exact hf.elim
    · obtain ⟨left, hc⟩ := comparison_mem_visits_iff.1 hx
      exact ⟨left, op, right, hc, hf⟩
  · rintro ⟨left, op, right, hc, hf⟩
    exact ⟨_, comparison_mem_visits_iff.2 ⟨left, hc⟩, hf⟩

theorem patternOf_eq_error_iff :
    patternOf op right = .error e ↔
      (∀ v, right = literal v → ¬ v.HasPattern) ∧ e = op.fault right := by
  cases right with
  | literal v =>
    simp only [patternOf, Comparison.fault, literal.injEq, forall_eq']
    cases hv : v.patternText with
    | ok text =>
      have hp : v.HasPattern := by
        by_contra hp
        cases hv.symm.trans (Literal.patternText_eq_error_iff.2 ⟨hp, rfl⟩)
      simp [hp]
    | error cause =>
      obtain ⟨hp, rfl⟩ := Literal.patternText_eq_error_iff.1 hv
      simp [hp, eq_comm]
  | _ => simp [patternOf, Comparison.fault, eq_comm]

/-- How a way through a filter ends, and what is bound on it. -/
inductive Ends (xs : List Visit) : Option FilterError → List Literal → Prop where
  | done : (∀ x ∈ xs, ¬ x.Faulty) → Ends xs none (bound xs)
  | stopped {before : List Visit} {op : Comparison} {right : Filter} :
      IsFirst Faulty xs before (.comparison op right) → Ends xs (some (op.fault right)) (bound before)

theorem Ends.eq_of_isFirst {xs before : List Visit} {e : Option FilterError} {vs : List Literal}
    (h : Ends xs e vs) (hf : IsFirst Faulty xs before (.comparison op right)) :
    e = some (op.fault right) ∧ vs = bound before := by
  cases h with
  | done hx => exact absurd hf.2.1 (hx _ hf.mem)
  | stopped hs =>
    obtain ⟨rfl, hc⟩ := hs.unique hf
    cases hc
    exact ⟨rfl, rfl⟩

theorem Ends.eq_of_forall {xs : List Visit} {e : Option FilterError} {vs : List Literal}
    (h : Ends xs e vs) (hx : ∀ x ∈ xs, ¬ x.Faulty) : e = none ∧ vs = bound xs := by
  cases h with
  | done => exact ⟨rfl, rfl⟩
  | stopped hs => exact absurd hs.2.1 (hx _ hs.mem)

theorem Ends.of_none {xs : List Visit} {vs : List Literal} (h : Ends xs none vs) :
    (∀ x ∈ xs, ¬ x.Faulty) ∧ vs = bound xs := by
  cases h with
  | done hx => exact ⟨hx, rfl⟩

theorem Ends.append {xs ys : List Visit} {e e' : Option FilterError} {vs ws : List Literal}
    (h : Ends xs e vs) (h' : Ends ys e' ws) :
    Ends (xs ++ ys) (e <|> e') (if e.isSome then vs else vs ++ ws) := by
  cases h with
  | stopped hf =>
    obtain ⟨hb, hf, after, rfl⟩ := hf
    exact .stopped ⟨hb, hf, after ++ ys, by simp⟩
  | done hx =>
    cases h' with
    | done hy =>
      have hxy : ∀ x ∈ xs ++ ys, ¬ x.Faulty := by
        simpa [or_imp, forall_and] using ⟨hx, hy⟩
      simpa using Ends.done hxy
    | @stopped before op right hf =>
      obtain ⟨hb, hf, after, rfl⟩ := hf
      have hxb : ∀ x ∈ xs ++ before, ¬ x.Faulty := by
        simpa [or_imp, forall_and] using ⟨hx, hb⟩
      have hs : IsFirst Faulty (xs ++ (before ++ .comparison op right :: after)) (xs ++ before)
          (.comparison op right) := ⟨hxb, hf, after, by simp⟩
      simpa using Ends.stopped hs

def added (f : Filter) : List Literal :=
  if f.failure?.isSome then f.boundByFailure else f.boundLiterals

theorem added_combine (left right : Filter) (op : Connective) :
    (combine left op right).added =
      if left.failure?.isSome then left.added else left.added ++ right.added := by
  cases hl : left.failure? <;> cases hr : right.failure? <;>
    simp [added, failure?, boundByFailure, boundLiterals, hl, hr]

theorem added_compare (left right : Filter) (op : Comparison) :
    (compare left op right).added =
      if left.failure?.isSome then left.added
      else left.added ++
        if op.isPattern then (patternOf op right).toOption.toList else right.added := by
  cases hl : left.failure? with
  | some => simp [added, failure?, boundByFailure, hl]
  | none =>
    by_cases ho : op.isPattern
    · cases hp : patternOf op right <;>
        simp [added, failure?, boundByFailure, boundLiterals, hl, ho, hp, Except.toOption]
    · cases hr : right.failure? <;>
        simp [added, failure?, boundByFailure, boundLiterals, hl, ho, hr]

theorem ends_pattern (ho : op.isPattern = true) :
    Ends ([.comparison op right] ++ op.rightVisits right right.visits)
      (match patternOf op right with
        | .ok _ => none
        | .error e => some e)
      (patternOf op right).toOption.toList := by
  cases hp : patternOf op right with
  | error e =>
    obtain ⟨hf, rfl⟩ := patternOf_eq_error_iff.1 hp
    have hs : IsFirst Faulty ([.comparison op right] ++ op.rightVisits right right.visits) []
        (.comparison op right) := ⟨nofun, ⟨ho, hf⟩, _, rfl⟩
    exact .stopped hs
  | ok pattern =>
    obtain ⟨v, text, rfl, ht, -, rfl⟩ := patternOf_eq_ok hp
    have hv : v.HasPattern := by
      by_contra hv
      cases ht.symm.trans (Literal.patternText_eq_error_iff.2 ⟨hv, rfl⟩)
    have hd : Ends ([.comparison op (literal v)] ++ [.literal (.string (op.pattern text))]) none _ :=
      .done (by simp [Faulty, hv])
    simpa [Comparison.rightVisits, Comparison.operand, ho, ht, Except.toOption, Literal.isNull]
      using hd

theorem rightVisits_of_not_isPattern (ho : op.isPattern = false) :
    op.rightVisits right right.visits = right.visits := by
  cases right <;> simp [Comparison.rightVisits, Comparison.operand, visits, ho]

theorem ends_visits (f : Filter) : Ends f.visits f.failure? f.added := by
  -- what is met on the right counts only if the way through the left has no end
  induction f with
  | column name => exact .done nofun
  | literal v =>
    have hd : Ends [.literal v] none _ := .done (by simp [Faulty])
    simpa [visits, added, failure?, boundLiterals] using hd
  | compare left op right ihl ihr =>
    rw [visits, failure?, added_compare]
    refine ihl.append ?_
    by_cases ho : op.isPattern
    · rw [if_pos ho, if_pos ho]
      exact ends_pattern ho
    · have hc : Ends [.comparison op right] none _ := .done (by simp [Faulty, ho])
      simpa [ho, rightVisits_of_not_isPattern] using hc.append ihr
  | combine left op right ihl ihr =>
    rw [visits, failure?, added_combine]
    exact ihl.append ihr
  | not inner ih => exact ih

theorem snd_condition (f : Filter) (b : Bindings) :
    (f.condition b).2 = ⟨b.values ++ f.added⟩ := by
  unfold added
  cases h : f.failure? with
  | some e => simp [condition_of_failure h]
  | none => simp [condition_eq_ok_iff.2 ⟨h, rfl, rfl⟩]

theorem condition_of_isFirst {before : List Visit} (b : Bindings)
    (h : IsFirst Faulty f.visits before (.comparison op right)) :
    f.condition b = (.error (op.fault right), ⟨b.values ++ bound before⟩) := by
  obtain ⟨he, ha⟩ := (ends_visits f).eq_of_isFirst h
  have hb := snd_condition f b
  rw [condition_of_failure he, ha] at hb
  rw [condition_of_failure he]
  exact Prod.ext rfl hb

theorem condition_of_not_faulty (b : Bindings) (h : ∀ x ∈ f.visits, ¬ x.Faulty) :
    f.condition b = (.ok (f.conditionText 0 b.size), ⟨b.values ++ bound f.visits⟩) := by
  obtain ⟨he, ha⟩ := (ends_visits f).eq_of_forall h
  have hl : f.added = f.boundLiterals := by simp [added, he]
  rw [condition_eq_ok_iff, ← ha, hl]
  exact ⟨he, rfl, rfl⟩

theorem exists_condition_error_iff {b : Bindings} :
    (∃ e, (f.condition b).1 = .error e) ↔ ∃ x ∈ f.visits, x.Faulty := by
  constructor
  · rintro ⟨e, he⟩
    by_contra hx
    push Not at hx
    rw [condition_of_not_faulty b hx] at he
    cases he
  · intro hx
    obtain ⟨before, ⟨v⟩ | ⟨op, right⟩, h⟩ := exists_isFirst_iff.2 hx
    · exact h.2.1.elim
    · exact ⟨_, congrArg Prod.fst (condition_of_isFirst b h)⟩

end

end Filter

namespace Bindings
open GridQuery.Filter Visit
variable {b : Bindings} {f : Filter} {fs : List Filter}

/-- The bindings when the conditions of filters have been written one after the other. -/
def after (b : Bindings) : List Filter → Bindings
  | [] => b
  | f :: rest => (f.condition b).2.after rest

def issued (b : Bindings) : List Filter → List String
  | [] => []
  | f :: rest =>
    ((f.condition b).2.entries.drop b.size).map Prod.fst ++ (f.condition b).2.issued rest

theorem after_append (b : Bindings) (first rest : List Filter) :
    b.after (first ++ rest) = (b.after first).after rest := by
  induction first generalizing b with
  | nil => rfl
  | cons f first ih => exact ih _

theorem exists_values_after (b : Bindings) (fs : List Filter) :
    ∃ vs, (b.after fs).values = b.values ++ vs := by
  induction fs generalizing b with
  | nil => exact ⟨[], by simp [after]⟩
  | cons f fs ih =>
    obtain ⟨vs, h⟩ := ih (f.condition b).2
    exact ⟨f.added ++ vs, by rw [after, h, snd_condition, List.append_assoc]⟩

theorem map_fst_entries_after (b : Bindings) (fs : List Filter) :
    (b.after fs).entries.map Prod.fst = b.entries.map Prod.fst ++ b.issued fs := by
  induction fs generalizing b with
  | nil => simp [after, issued]
  | cons f fs ih =>
    have ht : (f.condition b).2.entries.take b.size = b.entries := by
      rw [snd_condition]
      simp [entries, size, List.mapIdx_append]
    have hd := List.take_append_drop b.size (f.condition b).2.entries
    rw [ht] at hd
    rw [after, ih, issued, ← List.append_assoc, ← List.map_append, hd]

theorem map_get?_placeholders {vs before behind : List Literal}
    (h : b.values = before ++ (vs ++ behind)) :
    (placeholders before.length vs.length).map b.get? = vs.map some := by
  apply List.ext_getElem
  · simp [placeholders]
  · intro i hi hi'
    have hv : i < vs.length := by simpa using hi'
    simp only [placeholders, List.map_map, List.getElem_map, List.getElem_range', Nat.one_mul,
      Function.comp_apply, get?_placeholder, h]
    rw [List.getElem?_append_right (by omega), Nat.add_sub_cancel_left,
      List.getElem?_append_left hv, List.getElem?_eq_getElem hv]

theorem map_get?_placeholdersIn {before rest : List Filter} {text : String}
    (h : (f.condition (b.after before)).1 = .ok text) :
    (placeholdersIn text.toList).map (b.after (before ++ f :: rest)).get? =
      (bound f.visits).map some := by
  -- the literals of the condition lie between those of the filters before it and behind it
  obtain ⟨hf, rfl, hb⟩ := condition_eq_ok_iff.1 (Prod.ext h rfl)
  have hv : f.added = bound f.visits := (hf ▸ ends_visits f).of_none.2
  obtain ⟨vs, ha⟩ := exists_values_after (f.condition (b.after before)).2 rest
  rw [← after, ← after_append, snd_condition, List.append_assoc] at ha
  have hl : f.added.length = f.literalCount := by
    simpa [added, hf] using length_boundLiterals hf
  rw [placeholdersIn_conditionText, ← hl, ← hv]
  exact map_get?_placeholders ha

end Bindings

/-- A filter has no condition exactly if it has a comparison with no pattern to look for. The first
of them is the one reported, and the literals on the way to it are bound; else all are bound. So
the placeholders that a number of filters are given are all different, and those in the conditions
are bound to the literals of their filters in the end. -/
theorem Filter.conditions_bound (b : Bindings) :
    (∀ f : Filter,
      ((∃ e, (f.condition b).1 = .error e) ↔ ∃ left op right,
        compare left op right ∈ f.nodes ∧ (Visit.comparison op right).Faulty) ∧
      (∀ before op right, IsFirst Visit.Faulty f.visits before (.comparison op right) →
        f.condition b = (.error (op.fault right), ⟨b.values ++ Visit.bound before⟩)) ∧
      ((∀ x ∈ f.visits, ¬ x.Faulty) →
        ∃ text, f.condition b = (.ok text, ⟨b.values ++ Visit.bound f.visits⟩))) ∧
    ∀ fs : List Filter,
      (b.after fs).entries.map Prod.fst = b.entries.map Prod.fst ++ b.issued fs ∧
      (b.entries.map Prod.fst ++ b.issued fs).Nodup ∧
      ∀ before f rest text, fs = before ++ f :: rest →
        (f.condition (b.after before)).1 = .ok text →
        (placeholdersIn text.toList).map (b.after fs).get? = (Visit.bound f.visits).map some := by
  refine ⟨fun f => ⟨?_, fun before op right h => ?_, fun h => ?_⟩, fun fs => ⟨?_, ?_, ?_⟩⟩
  · exact exists_condition_error_iff.trans exists_faulty_iff
  · exact condition_of_isFirst b h
  · exact ⟨_, condition_of_not_faulty b h⟩
  · exact b.map_fst_entries_after fs
  · rw [← Bindings.map_fst_entries_after]
    exact Bindings.nodup_map_fst_entries _
  · rintro before f rest text rfl h
    exact Bindings.map_get?_placeholdersIn h

def Filter.lookups : List Filter :=
  [.combine (.compare (.column "Age") .ge (.literal (.int 18))) .and
      (.compare (.column "Active") .contains (.literal (.bool true))),
    .compare (.column "Name") .startsWith (.literal (.string "An"))]

theorem Filter.conditions_bound_lookups :
    lookups[0].condition {} = (.error (.operandKind (.inPattern "bool")), ⟨[.int 18]⟩) ∧
      ((Bindings.issued {} lookups).Nodup ∧ ∃ text,
        (lookups[1].condition (Bindings.after {} [lookups[0]])).1 = .ok text ∧
        (placeholdersIn text.toList).map (Bindings.after {} lookups).get? =
          [some (.string "An%")]) := by
  obtain ⟨hf, hfs⟩ := conditions_bound {}
  obtain ⟨-, hn, ht⟩ := hfs lookups
  constructor
  · have hs : IsFirst Visit.Faulty lookups[0].visits
        [.comparison .ge (.literal (.int 18)), .literal (.int 18)]
        (.comparison .contains (.literal (.bool true))) := by
      refine ⟨?_, ⟨rfl, ?_⟩, [.literal (.bool true)], rfl⟩
      · simp [Visit.Faulty, Comparison.isPattern]
      · rintro _ ⟨⟩ hp
        exact hp
    exact (hf _).2.1 _ _ _ hs
  · refine ⟨hn, ?_⟩
    obtain ⟨text, hc⟩ := ((conditions_bound (Bindings.after {} [lookups[0]])).1 lookups[1]).2.2 (by
      simp [lookups, visits, Visit.Faulty, Literal.HasPattern, Comparison.rightVisits])
    have hc' := congrArg Prod.fst hc
    exact ⟨text, hc', ht [lookups[0]] lookups[1] [] text rfl hc'⟩

end GridQuery
