import GridQuery.Proofs.Text.Marks

/-! # Places of a text

What holds at every place of a text is said of what stands from the place on, up to the end of the
text and over whatever comes behind it. So it is put together from the parts of the text, each in
front of the next. -/

namespace GridQuery.Text
variable {P Q : List Char → Prop} {c : Char} {mark s t rest : List Char}

/-- From every place of the text on, what stands there has the property, where `rest` is what
comes behind the text. -/
def Throughout (P : List Char → Prop) : List Char → List Char → Prop
  | [], _ => True
  | c :: t, rest => P (c :: (t ++ rest)) ∧ Throughout P t rest

instance decidableThroughout [DecidablePred P] :
    (t rest : List Char) → Decidable (Throughout P t rest)
  | [], _ => isTrue trivial
  | c :: t, rest =>
    have := decidableThroughout t rest
    inferInstanceAs (Decidable (P (c :: (t ++ rest)) ∧ Throughout P t rest))

@[simp] theorem throughout_nil : Throughout P [] rest := trivial

@[simp] theorem throughout_cons :
    Throughout P (c :: t) rest ↔ P (c :: (t ++ rest)) ∧ Throughout P t rest := .rfl

theorem throughout_append :
    Throughout P (s ++ t) rest ↔ Throughout P s (t ++ rest) ∧ Throughout P t rest := by
  induction s with
  | nil => simp
  | cons c s ih => simp [ih, and_assoc]

theorem throughout_of_forall (h : ∀ c ∈ t, ∀ a, P (c :: a)) : Throughout P t rest := by
  induction t with
  | nil => trivial
  | cons c t ih =>
    obtain ⟨hc, ht⟩ := List.forall_mem_cons.1 h
    exact ⟨hc _, ih ht⟩

/-- A place can be judged by the text alone if what comes behind does not matter. -/
theorem Throughout.of_local (h : Throughout P t []) (hPQ : ∀ a, P a → Q (a ++ rest)) :
    Throughout Q t rest := by
  induction t with
  | nil => trivial
  | cons c t ih =>
    obtain ⟨hc, ht⟩ := h
    exact ⟨by simpa using hPQ _ hc, ih ht⟩

/-- Wherever the mark stands in the text, what comes behind it has the property. -/
def Followed (mark : List Char) (Q : List Char → Prop) (t : List Char) : Prop :=
  ∀ before after, t = before ++ (mark ++ after) → Q after

theorem Throughout.followed (h : Throughout P t []) (hm : mark ≠ [])
    (hPQ : ∀ a, P (mark ++ a) → Q a) : Followed mark Q t := by
  rintro before after rfl
  obtain ⟨c, mark, rfl⟩ := List.exists_cons_of_ne_nil hm
  have hp := (throughout_cons.1 (throughout_append.1 h).2).1
  exact hPQ after (by simpa using hp)

end GridQuery.Text
