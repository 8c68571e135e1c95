import GridQuery.Proofs.Text.Marks
import Mathlib.Data.List.TakeWhile

/-! # Words between white space

A text is split at white space: blanks in front of a word, behind it and between words are passed
over, and a word ends where the next blank stands. -/

namespace GridQuery.Text
variable {c : Char} {s t w w' word : List Char} {rest : List (List Char)}

def Blank (s : List Char) : Prop := ∀ c ∈ s, isBlank c = true

instance (s : List Char) : Decidable (Blank s) :=
  inferInstanceAs (Decidable (∀ c ∈ s, isBlank c = true))

/-- The text has a character and none that is white space. -/
structure IsWord (s : List Char) : Prop where
  ne_nil : s ≠ []
  not_isBlank : ∀ c ∈ s, isBlank c = false

theorem IsWord.mem_of_mem_head? (h : IsWord s) (hc : c ∈ (s ++ t).head?) : c ∈ s := by
  obtain ⟨a, s, rfl⟩ := List.exists_cons_of_ne_nil h.ne_nil
  obtain rfl : a = c := by simpa using hc
  exact List.mem_cons_self

section Trim

theorem exists_blank_trimLeft (s : List Char) : ∃ w, Blank w ∧ s = w ++ trimLeft s :=
  ⟨s.takeWhile isBlank, fun _ hc => List.mem_takeWhile_imp hc,
    List.takeWhile_append_dropWhile.symm⟩

theorem exists_blank_trimRight (s : List Char) : ∃ w, Blank w ∧ s = trimRight s ++ w := by
  obtain ⟨w, hw, hs⟩ := exists_blank_trimLeft s.reverse
  refine ⟨w.reverse, fun c hc => hw c (List.mem_reverse.1 hc), ?_⟩
  rw [← List.reverse_inj, hs]
  simp [trimRight, trimLeft]

/-- A text is what trimming leaves of it, with white space around that. -/
theorem exists_blank_trim (s : List Char) :
    ∃ w w', Blank w ∧ Blank w' ∧ s = w ++ (trim s ++ w') := by
  obtain ⟨w, hw, hs⟩ := exists_blank_trimLeft s
  obtain ⟨w', hw', ht⟩ := exists_blank_trimRight (trimLeft s)
  exact ⟨w, w', hw, hw', by rw [trim, ← ht, ← hs]⟩

theorem trim_eq_nil_iff : trim s = [] ↔ Blank s := by
  constructor
  · intro h
    obtain ⟨w, w', hw, hw', hs⟩ := exists_blank_trim s
    rw [h] at hs
    rw [hs, List.nil_append]
    exact fun c hc => (List.mem_append.1 hc).elim (hw c) (hw' c)
  · intro h
    rw [trim, trimLeft, List.dropWhile_eq_nil_iff.2 h]
    rfl

theorem trim_append (hw : Blank w) (hs : IsWord s) (hw' : Blank w') :
    trim (w ++ (s ++ w')) = s := by
  have hl : trimLeft (w ++ (s ++ w')) = s ++ w' := by
    refine (takeWhile_append_of_ends hw fun c hc => ?_).2
    exact hs.not_isBlank c (hs.mem_of_mem_head? hc)
  have hr : (s ++ w').reverse.dropWhile isBlank = s.reverse := by
    rw [List.reverse_append]
    refine (takeWhile_append_of_ends (fun c hc => hw' c (List.mem_reverse.1 hc)) fun c hc => ?_).2
    exact hs.not_isBlank c (List.mem_reverse.1 (List.mem_of_mem_head? hc))
  rw [trim, hl, trimRight, hr, List.reverse_reverse]

end Trim

section Words

theorem words_append_cons (hc : isBlank c = true) (s t : List Char) :
    words (s ++ c :: t) = words s ++ words t := by
  rw [words, List.splitOnP_append_cons s t hc, List.filter_append]
  rfl

theorem words_blank_append (hw : Blank w) (s : List Char) : words (w ++ s) = words s := by
  induction w with
  | nil => rfl
  | cons c w ih =>
    obtain ⟨hc, hw⟩ := List.forall_mem_cons.1 hw
    exact (words_append_cons hc [] (w ++ s)).trans (ih hw)

theorem words_blank (hw : Blank w) : words w = [] := by
  rw [← List.append_nil w, words_blank_append hw]
  rfl

theorem words_append_blank (s : List Char) (hw : Blank w) : words (s ++ w) = words s := by
  cases w with
  | nil => rw [List.append_nil]
  | cons c w =>
    obtain ⟨hc, hw⟩ := List.forall_mem_cons.1 hw
    rw [words_append_cons hc, words_blank hw, List.append_nil]

/-- White space is neither in words nor counted between them. -/
theorem words_trim (s : List Char) : words (trim s) = words s := by
  obtain ⟨w, w', hw, hw', hs⟩ := exists_blank_trim s
  have h := words_blank_append hw (trim s ++ w')
  rw [← hs, words_append_blank _ hw'] at h
  exact h.symm

theorem words_word (hs : IsWord s) : words s = [s] := by
  rw [words, List.splitOnP_eq_singleton hs.not_isBlank]
  simp [hs.ne_nil]

theorem words_word_append (hs : IsWord s) (ht : ∀ c ∈ t.head?, isBlank c = true) :
    words (s ++ t) = s :: words t := by
  cases t with
  | nil =>
    rw [List.append_nil, words_word hs]
    rfl
  | cons c t =>
    have hc := ht c rfl
    rw [words_append_cons hc, words_word hs]
    exact congrArg (s :: ·) (words_append_cons hc [] t).symm

/-- A word stands behind white space and goes on up to the next one. -/
theorem exists_word (h : ¬ Blank s) : ∃ w word t, Blank w ∧ IsWord word ∧
    (∀ c ∈ t.head?, isBlank c = true) ∧ s = w ++ (word ++ t) := by
  obtain ⟨w, hw, hs⟩ := exists_blank_trimLeft s
  have hstart : ∀ c ∈ (trimLeft s).head?, isBlank c = false := dropWhile_ends s
  generalize trimLeft s = u at hs hstart
  have hne : u.takeWhile (!isBlank ·) ≠ [] := by
    cases u with
    | nil => exact absurd hw (by rwa [hs, List.append_nil] at h)
    | cons c u => simp [hstart c rfl]
  refine ⟨w, u.takeWhile (!isBlank ·), u.dropWhile (!isBlank ·), hw, ⟨hne, ?_⟩, ?_, ?_⟩
  · intro c hc
    simpa using List.mem_takeWhile_imp hc
  · intro c hc
    simpa using dropWhile_ends u c hc
  · rw [List.takeWhile_append_dropWhile, hs]

theorem words_eq_nil_iff : words s = [] ↔ Blank s := by
  refine ⟨fun h => ?_, words_blank⟩
  by_contra hs
  obtain ⟨w, word, t, hw, hword, ht, rfl⟩ := exists_word hs
  rw [words_blank_append hw, words_word_append hword ht] at h
  cases h

theorem words_eq_cons_iff : words s = word :: rest ↔ ∃ w t, Blank w ∧ IsWord word ∧
    (∀ c ∈ t.head?, isBlank c = true) ∧ s = w ++ (word ++ t) ∧ words t = rest := by
  constructor
  · intro h
    have hs : ¬ Blank s := fun hs => by
      rw [words_blank hs] at h
      cases h
    obtain ⟨w, word', t, hw, hword, ht, rfl⟩ := exists_word hs
    rw [words_blank_append hw, words_word_append hword ht] at h
    obtain ⟨rfl, rfl⟩ := List.cons.inj h
    exact ⟨w, t, hw, hword, ht, rfl, rfl⟩
  · rintro ⟨w, t, hw, hword, ht, rfl, rfl⟩
    rw [words_blank_append hw, words_word_append hword ht]

end Words

theorem notMem_of_mem_splitOn (h : w ∈ s.splitOn c) : c ∉ w := by
  induction s generalizing w with
  | nil =>
    rw [List.splitOn_nil, List.mem_singleton] at h
    simp [h]
  | cons d s ih =>
    rw [List.splitOn_cons_eq_if_modifyHead] at h
    split at h
    · obtain rfl | h := List.mem_cons.1 h
      · exact List.not_mem_nil
      · exact ih h
    · rename_i hd
      obtain ⟨first, more, hs⟩ := List.exists_cons_of_ne_nil (List.splitOn_ne_nil c s)
      rw [hs] at ih h
      obtain rfl | h := List.mem_cons.1 h
      · rw [List.mem_cons, not_or]
        exact ⟨fun hc => hd (beq_iff_eq.2 hc.symm), ih List.mem_cons_self⟩
      · exact ih (List.mem_cons_of_mem _ h)

end GridQuery.Text
