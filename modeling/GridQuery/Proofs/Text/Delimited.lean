import GridQuery.Text.Basic

/-! # Delimited texts

A text that ends at a mark has its own marks doubled, so that only a mark that stands alone ends
it. Read so, the text comes back, and what stands behind the mark is left, as long as this does
not start with the mark itself. -/

namespace GridQuery.Text

/-- Reads a text up to the mark that ends it; two marks stand for one in the text. -/
def upTo? (mark : Char) : List Char → Option (List Char × List Char)
  | [] => none
  | [c] => if c = mark then some ([], []) else none
  | c :: d :: t =>
    if c = mark then
      if d = mark then (upTo? mark t).map fun (s, rest) => (mark :: s, rest)
      else some ([], d :: t)
    else (upTo? mark (d :: t)).map fun (s, rest) => (c :: s, rest)

variable {mark c : Char} {s t rest : List Char}

theorem upTo?_mark (h : t.head? ≠ some mark) : upTo? mark (mark :: t) = some ([], t) := by
  cases t with
  | nil => simp [upTo?]
  | cons d t => simp [upTo?, show d ≠ mark by simpa using h]

theorem upTo?_mark_mark :
    upTo? mark (mark :: mark :: t) = (upTo? mark t).map fun (s, rest) => (mark :: s, rest) := by
  simp [upTo?]

theorem upTo?_of_ne (h : c ≠ mark) :
    upTo? mark (c :: t) = (upTo? mark t).map fun (s, rest) => (c :: s, rest) := by
  cases t <;> simp [upTo?, h]

theorem upTo?_doubled (h : rest.head? ≠ some mark) :
    upTo? mark (doubled mark s ++ mark :: rest) = some (s, rest) := by
  induction s with
  | nil => exact upTo?_mark h
  | cons c s ih =>
    rw [doubled_cons]
    split
    · rename_i hc
      subst hc
      rw [List.append_assoc]
      show upTo? c (c :: c :: (doubled c s ++ c :: rest)) = _
      rw [upTo?_mark_mark, ih]
      rfl
    · rename_i hc
      rw [List.append_assoc]
      show upTo? mark (c :: (doubled mark s ++ mark :: rest)) = _
      rw [upTo?_of_ne hc, ih]
      rfl

theorem eq_of_upTo? (h : upTo? mark t = some (s, rest)) :
    t = doubled mark s ++ mark :: rest ∧ rest.head? ≠ some mark := by
  fun_induction upTo? mark t generalizing s with
  | case1 => cases h
  | case2 => cases h; simp [doubled]
  | case3 => cases h
  | case4 t ih =>
    obtain ⟨⟨s', rest'⟩, hs, he⟩ := Option.map_eq_some_iff.1 h
    cases he
    obtain ⟨rfl, hr⟩ := ih hs
    exact ⟨by simp [doubled_cons], hr⟩
  | case5 d t hd => cases h; simpa [doubled] using hd
  | case6 c d t hc ih =>
    obtain ⟨⟨s', rest'⟩, hs, he⟩ := Option.map_eq_some_iff.1 h
    cases he
    obtain ⟨ht, hr⟩ := ih hs
    exact ⟨by simp [doubled_cons, hc, ht], hr⟩

/-- What is read are exactly the doubled texts in front of a mark that no further mark doubles. -/
theorem upTo?_eq_some_iff :
    upTo? mark t = some (s, rest) ↔
      t = doubled mark s ++ mark :: rest ∧ rest.head? ≠ some mark :=
  ⟨eq_of_upTo?, fun ⟨ht, hr⟩ => ht ▸ upTo?_doubled hr⟩

theorem length_lt_of_upTo? (h : upTo? mark t = some (s, rest)) : rest.length < t.length := by
  rw [(eq_of_upTo? h).1, List.length_append, List.length_cons]
  omega

end GridQuery.Text
