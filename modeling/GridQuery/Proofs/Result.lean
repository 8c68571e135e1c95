import Mathlib.Data.List.Forall2

/-! # Computations that may fail

A computation succeeds exactly when each of its parts does, and fails as the first part that
fails. -/

namespace GridQuery

theorem bind_eq_ok_iff {ε α β : Type} {x : Except ε α} {next : α → Except ε β} {b : β} :
    x >>= next = .ok b ↔ ∃ a, x = .ok a ∧ next a = .ok b := by
  cases x <;> simp [bind, Except.bind]

theorem map_eq_ok_iff {ε α β : Type} {x : Except ε α} {f : α → β} {b : β} :
    x.map f = .ok b ↔ ∃ a, x = .ok a ∧ f a = b := by
  cases x <;> simp [Except.map]

theorem mapError_eq_ok_iff {ε ε' α : Type} {x : Except ε α} {f : ε → ε'} {a : α} :
    x.mapError f = .ok a ↔ x = .ok a := by
  cases x <;> simp [Except.mapError]

theorem mapM_eq_ok_iff {ε α β : Type} {f : α → Except ε β} {as : List α} {bs : List β} :
    as.mapM f = .ok bs ↔ List.Forall₂ (fun a b => f a = .ok b) as bs := by
  induction as generalizing bs with
  | nil => simp [pure, Except.pure, eq_comm]
  | cons a as ih =>
    simp only [List.mapM_cons, bind_eq_ok_iff, ih, List.forall₂_cons_left_iff]
    constructor
    · rintro ⟨b, hb, bs, hbs, h⟩
      cases h
      exact ⟨b, bs, hb, hbs, rfl⟩
    · rintro ⟨b, bs, hb, hbs, rfl⟩
      exact ⟨b, hb, bs, hbs, rfl⟩

theorem exists_mem_of_forall₂ {α β : Type} {R : α → β → Prop} {as : List α} {bs : List β}
    (h : List.Forall₂ R as bs) {a : α} (ha : a ∈ as) : ∃ b ∈ bs, R a b := by
  induction h with
  | nil => cases ha
  | @cons a' b as bs hb _ ih =>
    obtain rfl | ha := List.mem_cons.1 ha
    · exact ⟨b, List.mem_cons_self, hb⟩
    · obtain ⟨b', hb', h⟩ := ih ha
      exact ⟨b', List.mem_cons_of_mem b hb', h⟩

theorem exists_of_mem_mapM {ε α β : Type} {f : α → Except ε β} {as : List α} {bs : List β}
    (h : as.mapM f = .ok bs) {b : β} (hb : b ∈ bs) : ∃ a ∈ as, f a = .ok b :=
  exists_mem_of_forall₂ (mapM_eq_ok_iff.1 h).flip hb

/-- A fold whose steps fail by themselves is a traversal with a fold behind it. -/
theorem foldlM_bind_eq_ok_iff {ε α β σ : Type} {f : α → Except ε β} {g : σ → β → σ} {as : List α}
    {s s' : σ} :
    as.foldlM (fun s a => do pure (g s (← f a))) s = .ok s' ↔
      ∃ bs, as.mapM f = .ok bs ∧ bs.foldl g s = s' := by
  induction as generalizing s with
  | nil => simp [pure, Except.pure]
  | cons a as ih =>
    simp only [List.foldlM_cons, List.mapM_cons, bind_eq_ok_iff]
    constructor
    · rintro ⟨_, ⟨b, hb, h⟩, hs⟩
      cases h
      obtain ⟨bs, hbs, rfl⟩ := ih.1 hs
      exact ⟨b :: bs, ⟨b, hb, bs, hbs, rfl⟩, rfl⟩
    · rintro ⟨_, ⟨b, hb, bs, hbs, h⟩, rfl⟩
      cases h
      exact ⟨g s b, ⟨b, hb, rfl⟩, ih.2 ⟨bs, hbs, rfl⟩⟩

theorem bind_eq_error_iff {ε α β : Type} {x : Except ε α} {next : α → Except ε β} {e : ε} :
    x >>= next = .error e ↔ x = .error e ∨ ∃ a, x = .ok a ∧ next a = .error e := by
  cases x <;> simp [bind, Except.bind]

theorem mapError_eq_error_iff {ε ε' α : Type} {x : Except ε α} {f : ε → ε'} {e : ε'} :
    x.mapError f = .error e ↔ ∃ cause, x = .error cause ∧ f cause = e := by
  cases x <;> simp [Except.mapError]

/-- The first element of a list with a property, behind those without it. -/
def IsFirst {α : Type} (p : α → Prop) (as before : List α) (a : α) : Prop :=
  (∀ b ∈ before, ¬ p b) ∧ p a ∧ ∃ after, as = before ++ a :: after

section IsFirst
variable {α : Type} {p : α → Prop} {as before : List α} {a b : α}

theorem IsFirst.mem (h : IsFirst p as before a) : a ∈ as := by
  obtain ⟨-, -, after, rfl⟩ := h
  simp

theorem isFirst_cons_iff :
    IsFirst p (b :: as) before a ↔
      before = [] ∧ a = b ∧ p b ∨ ∃ rest, before = b :: rest ∧ ¬ p b ∧ IsFirst p as rest a := by
  constructor
  · rintro ⟨hb, ha, after, h⟩
    cases before with
    | nil =>
      cases h
      exact .inl ⟨rfl, rfl, ha⟩
    | cons c rest =>
      cases h
      exact .inr ⟨rest, rfl, hb b (by simp), fun c hc => hb c (by simp [hc]), ha, after, rfl⟩
  · rintro (⟨rfl, rfl, ha⟩ | ⟨rest, rfl, hb, hr, ha, after, rfl⟩)
    · exact ⟨nofun, ha, as, rfl⟩
    · exact ⟨List.forall_mem_cons.2 ⟨hb, hr⟩, ha, after, rfl⟩

theorem IsFirst.unique {before' : List α} {a' : α} (h : IsFirst p as before a)
    (h' : IsFirst p as before' a') : before = before' ∧ a = a' := by
  induction as generalizing before before' with
  | nil => exact absurd h.mem (by simp)
  | cons b as ih =>
    rcases isFirst_cons_iff.1 h with ⟨rfl, rfl, hb⟩ | ⟨rest, rfl, hb, hr⟩
    · rcases isFirst_cons_iff.1 h' with ⟨rfl, rfl, -⟩ | ⟨_, _, hb', -⟩
      · exact ⟨rfl, rfl⟩
      · exact absurd hb hb'
    · rcases isFirst_cons_iff.1 h' with ⟨_, _, hb'⟩ | ⟨rest', rfl, -, hr'⟩
      · exact absurd hb' hb
      · obtain ⟨rfl, rfl⟩ := ih hr hr'
        exact ⟨rfl, rfl⟩

theorem exists_isFirst_iff : (∃ before a, IsFirst p as before a) ↔ ∃ a ∈ as, p a := by
  constructor
  · rintro ⟨before, a, h⟩
    exact ⟨a, h.mem, h.2.1⟩
  · induction as with
    | nil => simp
    | cons b as ih =>
      rintro ⟨a, ha, hp⟩
      by_cases hb : p b
      · exact ⟨[], b, isFirst_cons_iff.2 (.inl ⟨rfl, rfl, hb⟩)⟩
      · obtain rfl | ha := List.mem_cons.1 ha
        · exact absurd hp hb
        · obtain ⟨before, a, h⟩ := ih ⟨a, ha, hp⟩
          exact ⟨b :: before, a, isFirst_cons_iff.2 (.inr ⟨before, rfl, hb, h⟩)⟩

theorem find?_eq_some_iff_isFirst {q : α → Bool} :
    as.find? q = some a ↔ ∃ before, IsFirst (fun a => q a = true) as before a := by
  rw [List.find?_eq_some_iff_append]
  constructor
  · rintro ⟨ha, before, after, rfl, hb⟩
    exact ⟨before, fun b hb' => by simpa using hb b hb', ha, after, rfl⟩
  · rintro ⟨before, hb, ha, after, rfl⟩
    exact ⟨ha, before, after, rfl, fun b hb' => by simpa using hb b hb'⟩

end IsFirst

theorem mapM_eq_error_iff {ε α β : Type} {f : α → Except ε β} {as : List α} {e : ε} :
    as.mapM f = .error e ↔
      ∃ before a, IsFirst (fun a => ∃ e, f a = .error e) as before a ∧ f a = .error e := by
  induction as with
  | nil => simp [pure, Except.pure, IsFirst]
  | cons b as ih =>
    simp only [List.mapM_cons, bind_eq_error_iff, ih, isFirst_cons_iff]
    cases hb : f b with
    | error e' => simp +contextual [hb, and_assoc]
    | ok t =>
      simp only [reduceCtorEq, exists_false, and_false, false_or, or_false, not_false_eq_true,
        true_and, pure, Except.pure, Except.ok.injEq, exists_eq_left']
      constructor
      · rintro ⟨before, a, ha, he⟩
        exact ⟨b :: before, a, ⟨before, rfl, ha⟩, he⟩
      · rintro ⟨_, a, ⟨before, rfl, ha⟩, he⟩
        exact ⟨before, a, ha, he⟩

end GridQuery
