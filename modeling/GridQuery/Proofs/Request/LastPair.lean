import GridQuery.Proofs.Request.Overlay

/-! # The last pair of an option wins

A pair of a query string is refused or accepted by itself, whatever the request. An accepted pair of
an option sets one field, so that after all pairs each field is what the last pair of its option is
decoded to, or what it was. Pairs of different options can change places, and a query string that
fails leaves what its pairs before the first refused one make of the request. -/

namespace GridQuery
open Text

namespace Request
variable {r r₁ r' : Request} {pairs first rest : List (String × String)} {p q : String × String}
  {key value option : String} {e : QueryError}

def lastValue? (pairs : List (String × String)) (key : String) : Option String :=
  pairs.reverse.lookup key

/-- A field is set by the last pair of an option, or is as it was if there is no such pair. -/
def SetByLast {α : Type} (decode : String → Except QueryError α) (option : String)
    (pairs : List (String × String)) (before after : α) : Prop :=
  match lastValue? pairs option with
  | some value => decode value = .ok after
  | none => after = before

structure Overlaid (r : Request) (pairs : List (String × String)) (r' : Request) : Prop where
  take : SetByLast (fun v => (countOf "$take" v).map some) "$take" pairs r.take r'.take
  skip : SetByLast (fun v => (countOf "$skip" v).map some) "$skip" pairs r.skip r'.skip
  filter : SetByLast filterOfText "$filter" pairs r.filter r'.filter
  sort : SetByLast sortOfText "$orderby" pairs r.sort r'.sort
  fields : SetByLast (fun v => .ok (fieldsOfText v)) "$select" pairs r.fields r'.fields
  showTotal : SetByLast inlineCountOf "$inlinecount" pairs r.showTotal r'.showTotal
  grouping : r'.grouping = r.grouping
  loadAll : r'.loadAll = r.loadAll
  userData : r'.userData = r.userData.putAll (plainValues pairs)

theorem lastValue?_append :
    lastValue? (first ++ rest) key = (lastValue? rest key).or (lastValue? first key) := by
  simp [lastValue?, List.lookup_append]

theorem lastValue?_singleton :
    lastValue? [(key, value)] option = if key = option then some value else none := by
  by_cases hk : key = option
  · simp [lastValue?, hk]
  · simp [lastValue?, hk, Assoc.lookup_cons_of_ne value [] (Ne.symm hk)]

theorem lastValue?_swap (h : p.1 ≠ q.1) :
    lastValue? (first ++ p :: q :: rest) key = lastValue? (first ++ q :: p :: rest) key := by
  have hl (a b : String × String) : (first ++ a :: b :: rest).reverse.lookup key =
      (rest.reverse.lookup key).or (List.lookup key (b :: a :: first.reverse)) := by
    rw [← List.lookup_append]
    simp
  rw [lastValue?, lastValue?, hl, hl, Assoc.lookup_cons_cons_comm q.2 p.2 _ h.symm]

section SetByLast
variable {α : Type} {decode : String → Except QueryError α} {before middle after after' : α}

theorem setByLast_singleton :
    SetByLast decode option [(key, value)] before after ↔
      if key = option then decode value = .ok after else after = before := by
  by_cases hk : key = option <;> simp [SetByLast, lastValue?_singleton, hk]

theorem SetByLast.append (h : SetByLast decode option first before middle)
    (h' : SetByLast decode option rest middle after) :
    SetByLast decode option (first ++ rest) before after := by
  unfold SetByLast at h h' ⊢
  rw [lastValue?_append]
  cases hr : lastValue? rest option with
  | some value => simpa [hr] using h'
  | none =>
    obtain rfl : after = middle := by simpa [hr] using h'
    simpa using h

theorem SetByLast.unique (h : SetByLast decode option pairs before after)
    (h' : SetByLast decode option pairs before after') : after = after' := by
  unfold SetByLast at h h'
  cases hl : lastValue? pairs option with
  | some value =>
    simp only [hl] at h h'
    exact Except.ok.inj (h.symm.trans h')
  | none =>
    simp only [hl] at h h'
    exact h.trans h'.symm

theorem SetByLast.swap (hpq : p.1 ≠ q.1)
    (h : SetByLast decode option (first ++ p :: q :: rest) before after) :
    SetByLast decode option (first ++ q :: p :: rest) before after := by
  rwa [SetByLast, ← lastValue?_swap hpq]

end SetByLast

section Overlaid

theorem plainValues_append :
    plainValues (first ++ rest) = plainValues first ++ plainValues rest := by
  simp [plainValues]

theorem overlaid_nil (r : Request) : Overlaid r [] r := by
  constructor <;> rfl

theorem Overlaid.append (h : Overlaid r first r₁) (h' : Overlaid r₁ rest r') :
    Overlaid r (first ++ rest) r' where
  take := h.take.append h'.take
  skip := h.skip.append h'.skip
  filter := h.filter.append h'.filter
  sort := h.sort.append h'.sort
  fields := h.fields.append h'.fields
  showTotal := h.showTotal.append h'.showTotal
  grouping := h'.grouping.trans h.grouping
  loadAll := h'.loadAll.trans h.loadAll
  userData := by
    rw [h'.userData, h.userData, plainValues_append, Assoc.putAll, Assoc.putAll, Assoc.putAll,
      List.foldl_append]

theorem Overlaid.unique (h : Overlaid r pairs r₁) (h' : Overlaid r pairs r') : r₁ = r' := by
  obtain ⟨grouping, fields, filter, sort, skip, take, showTotal, loadAll, userData⟩ := r₁
  obtain rfl : take = r'.take := h.take.unique h'.take
  obtain rfl : skip = r'.skip := h.skip.unique h'.skip
  obtain rfl : filter = r'.filter := h.filter.unique h'.filter
  obtain rfl : sort = r'.sort := h.sort.unique h'.sort
  obtain rfl : fields = r'.fields := h.fields.unique h'.fields
  obtain rfl : showTotal = r'.showTotal := h.showTotal.unique h'.showTotal
  obtain rfl : grouping = r'.grouping := h.grouping.trans h'.grouping.symm
  obtain rfl : loadAll = r'.loadAll := h.loadAll.trans h'.loadAll.symm
  obtain rfl : userData = r'.userData := h.userData.trans h'.userData.symm
  rfl

theorem overlaid_of_applyPair (h : r.applyPair key value = .ok r') :
    Overlaid r [(key, value)] r' := by
  unfold applyPair at h
  split_ifs at h with ht hs hf ho hc hi hu hd
  · subst ht
    obtain ⟨n, hn, he⟩ := bind_eq_ok_iff.1 h
    cases he
    constructor <;> simp [setByLast_singleton, hn, Except.map, plainValues, Assoc.putAll]
  · subst hs
    obtain ⟨n, hn, he⟩ := bind_eq_ok_iff.1 h
    cases he
    constructor <;> simp [setByLast_singleton, hn, Except.map, plainValues, Assoc.putAll]
  · subst hf
    obtain ⟨f, hf, he⟩ := bind_eq_ok_iff.1 h
    cases he
    constructor <;> simp [setByLast_singleton, hf, plainValues, Assoc.putAll]
  · subst ho
    obtain ⟨items, hi, he⟩ := bind_eq_ok_iff.1 h
    cases he
    constructor <;> simp [setByLast_singleton, hi, plainValues, Assoc.putAll]
  · subst hc
    cases h
    constructor <;> simp [setByLast_singleton, plainValues, Assoc.putAll]
  · subst hi
    obtain ⟨b, hb, he⟩ := bind_eq_ok_iff.1 h
    cases he
    constructor <;> simp [setByLast_singleton, hb, plainValues, Assoc.putAll]
  · cases h
    constructor <;> simp [setByLast_singleton, ht, hs, hf, ho, hc, hi, hd, withValue, plainValues,
      Assoc.putAll]

/-- Pairs of different options can change places. -/
theorem Overlaid.swap (hp : p.1.toList.head? = some '$') (hq : q.1.toList.head? = some '$')
    (hpq : p.1 ≠ q.1) (h : Overlaid r (first ++ p :: q :: rest) r') :
    Overlaid r (first ++ q :: p :: rest) r' where
  take := h.take.swap hpq
  skip := h.skip.swap hpq
  filter := h.filter.swap hpq
  sort := h.sort.swap hpq
  fields := h.fields.swap hpq
  showTotal := h.showTotal.swap hpq
  grouping := h.grouping
  loadAll := h.loadAll
  userData := by
    rw [h.userData]
    simp [plainValues, hp, hq]

end Overlaid

section refusal

/-- The pair is refused with an error, whatever the request. -/
def IsRefused (p : String × String) (e : QueryError) : Prop :=
  ∀ r : Request, r.applyPair p.1 p.2 = .error e

theorem isRefused_of_applyPair (h : r.applyPair key value = .error e) :
    IsRefused (key, value) e := by
  intro r₁
  have of_bind {α : Type} {x : Except QueryError α} {f f₁ : α → Request}
      (h : (do pure (f (← x))) = Except.error e) : (do pure (f₁ (← x))) = Except.error e := by
    cases x with
    | error e' => exact h
    | ok a => cases h
  unfold applyPair at h ⊢
  split_ifs at h ⊢
  · exact of_bind h
  · exact of_bind h
  · exact of_bind h
  · exact of_bind h
  · exact of_bind h
  · exact h
  · exact h

theorem exists_applyPair (h : ¬ ∃ e, IsRefused p e) (r : Request) :
    ∃ r', r.applyPair p.1 p.2 = .ok r' := by
  cases ha : r.applyPair p.1 p.2 with
  | error e => exact absurd ⟨e, isRefused_of_applyPair ha⟩ h
  | ok r' => exact ⟨r', rfl⟩

theorem not_isRefused_of_applyPair (h : r.applyPair p.1 p.2 = .ok r') : ¬ ∃ e, IsRefused p e := by
  rintro ⟨e, he⟩
  cases h.symm.trans (he r)

theorem exists_applyPairs (h : ∀ p ∈ pairs, ¬ ∃ e, IsRefused p e) (r : Request) :
    ∃ r', r.applyPairs pairs = (none, r') ∧ Overlaid r pairs r' := by
  induction pairs generalizing r with
  | nil => exact ⟨r, rfl, overlaid_nil r⟩
  | cons p pairs ih =>
    obtain ⟨hp, hps⟩ := List.forall_mem_cons.1 h
    obtain ⟨r₁, h₁⟩ := exists_applyPair hp r
    obtain ⟨r', ha, ho⟩ := ih hps r₁
    exact ⟨r', by rw [applyPairs, h₁]; exact ha, (overlaid_of_applyPair h₁).append ho⟩

theorem not_isRefused_of_applyPairs (h : r.applyPairs pairs = (none, r')) :
    ∀ p ∈ pairs, ¬ ∃ e, IsRefused p e := by
  induction pairs generalizing r with
  | nil => nofun
  | cons p pairs ih =>
    rw [applyPairs] at h
    split at h
    · rename_i r₁ h₁
      exact List.forall_mem_cons.2 ⟨not_isRefused_of_applyPair h₁, ih h⟩
    · cases h

/-- Pairs are applied exactly if none is refused, and then the last one of each option counts. -/
theorem applyPairs_eq_none_iff :
    r.applyPairs pairs = (none, r') ↔
      (∀ p ∈ pairs, ¬ ∃ e, IsRefused p e) ∧ Overlaid r pairs r' := by
  constructor
  · intro h
    have hp := not_isRefused_of_applyPairs h
    obtain ⟨r₁, h₁, ho⟩ := exists_applyPairs hp r
    cases h.symm.trans h₁
    exact ⟨hp, ho⟩
  · rintro ⟨hp, ho⟩
    obtain ⟨r₁, h₁, ho₁⟩ := exists_applyPairs hp r
    rw [h₁, ho₁.unique ho]

/-- Pairs fail at the first one that is refused, and the pairs before it stay applied. -/
theorem applyPairs_eq_some_iff :
    r.applyPairs pairs = (some e, r') ↔
      ∃ before p, IsFirst (∃ e, IsRefused · e) pairs before p ∧ IsRefused p e ∧
        r.applyPairs before = (none, r') := by
  induction pairs generalizing r with
  | nil => simp [applyPairs, IsFirst]
  | cons p pairs ih =>
    rw [applyPairs]
    cases h : r.applyPair p.1 p.2 with
    | error e' =>
      have hr : IsRefused p e' := isRefused_of_applyPair h
      constructor
      · rintro ⟨⟩
        exact ⟨[], p, isFirst_cons_iff.2 (.inl ⟨rfl, rfl, _, hr⟩), hr, rfl⟩
      · rintro ⟨before, q, hq, he, ha⟩
        rcases isFirst_cons_iff.1 hq with ⟨rfl, rfl, -⟩ | ⟨_, _, hn, _⟩
        · cases ha
          rw [Except.error.inj (h.symm.trans (he _))]
        · exact absurd ⟨e', hr⟩ hn
    | ok r₁ =>
      have hr := not_isRefused_of_applyPair h
      simp only [ih, isFirst_cons_iff]
      constructor
      · rintro ⟨before, q, hq, he, ha⟩
        exact ⟨p :: before, q, .inr ⟨before, rfl, hr, hq⟩, he, by rw [applyPairs, h]; exact ha⟩
      · rintro ⟨_, q, ⟨-, rfl, hq⟩ | ⟨before, rfl, -, hq⟩, he, ha⟩
        · exact absurd hq hr
        · rw [applyPairs, h] at ha
          exact ⟨before, q, hq, he, ha⟩

end refusal

section query
variable {query : String}

theorem pairs_append (a b : String) :
    Form.pairs (a ++ "&" ++ b) = Form.pairs a ++ Form.pairs b := by
  have hu : utf8 (a ++ "&" ++ b) = utf8 a ++ 38 :: utf8 b := by
    have ha : String.utf8EncodeChar '&' = [38] := by decide
    simp [utf8, ha]
  rw [Form.pairs, hu, List.splitOn_append_cons_self, List.filter_append, List.map_append]
  rfl

theorem bareQuery_of_head?_ne (h : query.toList.head? ≠ some '?') : bareQuery query = query := by
  unfold bareQuery
  split
  · rename_i rest hq
    simp [hq] at h
  · rfl

theorem bareQuery_append (a b : String) : bareQuery (a ++ "&" ++ b) = bareQuery a ++ "&" ++ b := by
  by_cases ha : a.toList.head? = some '?'
  · obtain ⟨rest, hr⟩ := List.head?_eq_some_iff.1 ha
    simp [bareQuery, hr, ← String.toList_inj]
  · rw [bareQuery_of_head?_ne ha, bareQuery_of_head?_ne]
    cases hl : a.toList <;> simp_all

theorem applyQuery_append (r : Request) (query : String) {more : String}
    (h : more.toList.head? ≠ some '?') :
    r.applyQuery (query ++ "&" ++ more) =
      match r.applyQuery query with
      | (none, r') => r'.applyQuery more
      | failed => failed := by
  have hm (r' : Request) : r'.applyQuery more = r'.applyPairs (Form.pairs more) := by
    rw [applyQuery, bareQuery_of_head?_ne h]
  simp only [hm]
  rw [applyQuery, bareQuery_append, pairs_append, applyPairs_append]
  rfl

end query

/-- A query string is applied exactly if none of its pairs is refused. Then each field is set by the
last pair of its option, the values of plain pairs are put in order behind the keys that are there,
and neighbours of different options can change places. Otherwise it fails at the first pair that is
refused, with the request as the pairs before it leave it. So two query strings, joined by `&`, are
applied as one after the other. -/
theorem applyQuery_lastPair (r : Request) (query : String) :
    (∀ r', r.applyQuery query = (none, r') ↔
      (∀ p ∈ Form.pairs (bareQuery query), ¬ ∃ e, IsRefused p e) ∧
        Overlaid r (Form.pairs (bareQuery query)) r') ∧
    (∀ r', r.applyQuery query = (none, r') →
      r.userData.map Prod.fst <+: r'.userData.map Prod.fst) ∧
    (∀ first p q rest other r', Form.pairs (bareQuery query) = first ++ p :: q :: rest →
      p.1.toList.head? = some '$' → q.1.toList.head? = some '$' → p.1 ≠ q.1 →
      Form.pairs (bareQuery other) = first ++ q :: p :: rest →
      r.applyQuery query = (none, r') → r.applyQuery other = (none, r')) ∧
    (∀ e r', r.applyQuery query = (some e, r') ↔
      ∃ before p, IsFirst (∃ e, IsRefused · e) (Form.pairs (bareQuery query)) before p ∧
        IsRefused p e ∧ r.applyPairs before = (none, r')) ∧
    ∀ more, more.toList.head? ≠ some '?' →
      r.applyQuery (query ++ "&" ++ more) =
        match r.applyQuery query with
        | (none, r') => r'.applyQuery more
        | failed => failed := by
  refine ⟨fun r' => applyPairs_eq_none_iff, fun r' h => ?_, ?_, fun e r' => applyPairs_eq_some_iff,
    fun more hm => ?_⟩
  · rw [(applyPairs_eq_none_iff.1 h).2.userData]
    exact Assoc.keys_prefix_keys_putAll _ _
  · intro first p q rest other r' hq hp hq' hpq ho h
    rw [applyQuery, hq] at h
    obtain ⟨ha, hr⟩ := applyPairs_eq_none_iff.1 h
    rw [applyQuery, ho]
    have hperm : (first ++ q :: p :: rest).Perm (first ++ p :: q :: rest) :=
      (List.Perm.swap p q rest).append_left first
    exact applyPairs_eq_none_iff.2
      ⟨fun x hx => ha x (hperm.mem_iff.1 hx), hr.swap hp hq' hpq⟩
  · exact applyQuery_append r query hm

theorem applyQuery_lastPair_paged :
    ∃ r', ({ take := some 1, loadAll := true } : Request).applyQuery "?$take=5&$skip=2&$take=7" =
        (none, r') ∧ r'.take = some 7 ∧ r'.loadAll = true ∧
      ({ take := some 1, loadAll := true } : Request).applyQuery "?$skip=2&$take=5&$take=7" =
        (none, r') ∧
      ({ take := some 1, loadAll := true } : Request).applyQuery
        ("?$take=5&$skip=2&$take=7" ++ "&" ++ "Region=1") = r'.applyQuery "Region=1" := by
  have hp : Form.pairs (bareQuery "?$take=5&$skip=2&$take=7") =
      [("$take", "5"), ("$skip", "2"), ("$take", "7")] := by decide +kernel
  have hs : Form.pairs (bareQuery "?$skip=2&$take=5&$take=7") =
      [("$skip", "2"), ("$take", "5"), ("$take", "7")] := by decide +kernel
  obtain ⟨r', h⟩ : ∃ r', ({ take := some 1, loadAll := true } : Request).applyQuery
      "?$take=5&$skip=2&$take=7" = (none, r') := ⟨_, by rw [applyQuery, hp]; rfl⟩
  obtain ⟨hall, -, hswap, -, hmore⟩ := applyQuery_lastPair { take := some 1, loadAll := true }
    "?$take=5&$skip=2&$take=7"
  obtain ⟨-, ho⟩ := (hall r').1 h
  refine ⟨r', h, ?_, ho.loadAll, ?_, ?_⟩
  · have ht := ho.take
    rw [hp] at ht
    exact (Except.ok.inj ht).symm
  · exact hswap [] _ _ _ _ _ hp (by decide) (by decide) (by decide) hs h
  · rw [hmore "Region=1" (by decide), h]

end Request
end GridQuery
