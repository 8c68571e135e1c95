import GridQuery.Proofs.Text.Marks

/-! # Texts whose lines are broken anew

A text that is written line by line keeps every character but for the ends of its lines: each
becomes a line feed and the indentation of the next line. -/

namespace GridQuery.Text
variable {indent s t : List Char} {c : Char}

/-- The text with a line feed and an indentation for each end of a line. -/
def rebroken (indent : List Char) : List Char → List Char
  | [] => []
  | '\n' :: rest => '\n' :: (indent ++ rebroken indent rest)
  | '\r' :: '\n' :: rest => '\n' :: (indent ++ rebroken indent rest)
  | c :: rest => c :: rebroken indent rest

theorem rebroken_cons (hn : c ≠ '\n') (h : c = '\r' → s.head? ≠ some '\n') :
    rebroken indent (c :: s) = c :: rebroken indent s := by
  rw [rebroken]
  · exact hn
  · rintro rest rfl rfl
    exact h rfl rfl

/-- Two texts are broken anew apart from each other unless they meet within the end of a line. -/
theorem rebroken_append (h : s.getLast? = some '\r' → t.head? ≠ some '\n') :
    rebroken indent (s ++ t) = rebroken indent s ++ rebroken indent t := by
  fun_induction rebroken indent s with
  | case1 => rfl
  | case2 rest ih | case3 rest ih =>
    have hr : rest.getLast? = some '\r' → t.head? ≠ some '\n' := by
      intro hl
      exact h (by simp [List.getLast?_cons, hl])
    simp [rebroken, ih hr]
  | case4 c rest hn hr ih =>
    have hl : rest.getLast? = some '\r' → t.head? ≠ some '\n' := by
      intro hl
      exact h (by simp [List.getLast?_cons, hl])
    rw [List.cons_append, List.cons_append, rebroken_cons hn, ih hl]
    rintro rfl
    cases rest with
    | nil => simpa using h
    | cons d rest =>
      rintro hd
      exact hr rest rfl (by simpa using hd)

theorem rebroken_of_not_mem (h : '\n' ∉ s) : rebroken indent s = s := by
  induction s with
  | nil => rfl
  | cons c s ih =>
    simp only [List.mem_cons, not_or] at h
    rw [rebroken_cons (Ne.symm h.1), ih h.2]
    rintro -
    exact fun hd => h.2 (List.mem_of_head? hd)

theorem intercalate_lines_indented (h : s.getLast? ≠ some '\n') :
    List.intercalate ('\n' :: indent) (lines s) = rebroken indent s := by
  fun_induction lines s with
  | case1 => rfl
  | case2 rest ih | case3 rest ih =>
    have hne : rest ≠ [] := by
      rintro rfl
      simp at h
    rw [List.intercalate_cons_of_ne_nil (mt lines_eq_nil_iff.1 hne),
      ih (by simpa [List.getLast?_cons_of_ne_nil hne] using h), rebroken]
    rfl
  | case4 c rest hn hr hl =>
    rw [lines_eq_nil_iff.1 hl, rebroken_cons hn (by simp)]
    rfl
  | case5 c rest hn hr line more hl ih =>
    have hne : rest ≠ [] := by
      rintro rfl
      simp [lines] at hl
    have hi := ih (by simpa [List.getLast?_cons_of_ne_nil hne] using h)
    rw [List.intercalate_cons_cons_left, ← hl, hi, rebroken_cons hn]
    rintro rfl hd
    obtain ⟨rest', rfl⟩ := List.head?_eq_some_iff.1 hd
    exact hr rest' rfl rfl

theorem all_rebroken {p : Char → Bool} (hi : indent.all p = true) (hn : p '\n' = true)
    (hr : p '\r' = true) : (rebroken indent s).all p = s.all p := by
  fun_induction rebroken indent s with
  | case1 => rfl
  | case2 rest ih => simp [ih, hi, hn]
  | case3 rest ih => simp [ih, hi, hn, hr]
  | case4 c rest _ _ ih => simp [ih]

theorem count_rebroken (s : List Char) (n : Nat) :
    (rebroken (List.replicate n ' ') s).count ' ' = s.count ' ' + n * s.count '\n' := by
  fun_induction rebroken (List.replicate n ' ') s with
  | case1 => simp
  | case2 rest ih | case3 rest ih => simp [ih, Nat.mul_add]; omega
  | case4 c rest hn _ ih =>
    have hn : c ≠ '\n' := hn
    simp [List.count_cons, ih, hn]
    omega

/-- An indentation leaves a text as it is exactly if no line ends in the text. -/
theorem rebroken_eq_self_iff {n : Nat} (h : 0 < n) :
    rebroken (List.replicate n ' ') s = s ↔ '\n' ∉ s := by
  refine ⟨fun he => ?_, rebroken_of_not_mem⟩
  have hc := count_rebroken s n
  rw [he, Nat.left_eq_add, Nat.mul_eq_zero] at hc
  exact List.count_eq_zero.1 (hc.resolve_left (by omega))

end GridQuery.Text
