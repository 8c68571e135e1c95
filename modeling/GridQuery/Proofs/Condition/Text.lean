import GridQuery.Proofs.Condition.Run
import GridQuery.Proofs.Text.Marks

/-! # The text of a condition

The text of a condition has no carriage return, semicolon or quote, and it does not end with a
line, whatever the columns of the filter are called. -/

namespace GridQuery
open Text

def conditionMarks : List Char := ['[', ']', '@', '(', ')', '=', '<', '>', ' ', '\n']

def EndsOpen (t : String) : Prop := ∃ c ∈ t.toList.getLast?, c ≠ '\n'

theorem EndsOpen.append {t : String} (s : String) (h : EndsOpen t) : EndsOpen (s ++ t) := by
  obtain ⟨c, hc, hn⟩ := h
  exact ⟨c, by simp_all [List.getLast?_append], hn⟩

theorem EndsOpen.getLast?_ne {t : String} (h : EndsOpen t) : t.toList.getLast? ≠ some '\n' := by
  obtain ⟨c, hc, hn⟩ := h
  rintro he
  exact hn (Option.some.inj (hc.symm.trans he))

theorem endsOpen_identifier (name : String) : EndsOpen (identifier name) := by
  rw [identifier_eq]
  exact .append _ ⟨']', by decide, by decide⟩

theorem endsOpen_placeholder (n : Nat) : EndsOpen (placeholder n) := by
  refine .append _ ?_
  have hne : (toString n).toList ≠ [] := by simp
  refine ⟨_, List.getLast?_eq_some_getLast hne, fun h => ?_⟩
  have hw := isWord_of_mem_toString (List.getLast_mem hne)
  rw [h] at hw
  exact absurd hw (by decide)

namespace Filter
open Binding

/-- What a condition is put together of, but for names, placeholders and indentation. -/
def conditionConstants : List String :=
  ["NULL", "(", ")", "NOT (", " ", "\n", "AND\n", "OR\n",
   "=", "<>", "<", "<=", ">", ">=", "LIKE", "NOT LIKE", "IS", "IS NOT"]

/-- The parts of conditions have the property, and so do two texts with it, one after the other. -/
structure HoldsOfParts (P : String → Prop) : Prop where
  append : ∀ {s t}, P s → P t → P (s ++ t)
  identifier : ∀ name, P (identifier name)
  placeholder : ∀ n, P (placeholder n)
  indentation : ∀ d, P (Script.indentation d)
  constant : ∀ t ∈ conditionConstants, P t

namespace HoldsOfParts
variable {P : String → Prop}

theorem enclose (h : HoldsOfParts P) {t : Nat → String} (ht : ∀ d, P (t d)) (grouped : Bool)
    (d : Nat) : P (enclose grouped t d) := by
  cases grouped
  · exact ht d
  · exact h.append (h.append (h.constant "(" (by decide)) (ht _)) (h.constant ")" (by decide))

theorem operatorText (h : HoldsOfParts P) (op : Comparison) (right : Filter) :
    P (operatorText op right) := by
  cases hr : right.isNull <;> cases op <;> simp only [Filter.operatorText, hr] <;>
    exact h.constant _ (by decide)

theorem conditionText (h : HoldsOfParts P) (f : Filter) (d n : Nat) : P (f.conditionText d n) := by
  induction f generalizing d n with
  | column name => exact h.identifier name
  | literal v =>
    cases hv : v.isNull
    · simpa [Filter.conditionText, hv] using h.placeholder n
    · simpa [Filter.conditionText, hv] using h.constant "NULL" (by decide)
  | compare left op right ihl ihr =>
    have hs : P " " := h.constant _ (by decide)
    exact h.append (h.enclose (ihl · n) _ d)
      (h.append (h.append (h.append hs (h.operatorText op right)) hs) (h.enclose (ihr · _) _ d))
  | combine left op right ihl ihr =>
    -- `OR` alone could start `ORDER`, so the keyword stays with the end of its line
    have hk : P (op.sqlKeyword ++ "\n") := by cases op <;> exact h.constant _ (by decide)
    have hl : P "\n" := h.constant _ (by decide)
    have hi := h.indentation d
    have hc := h.append (h.append (h.append hl hi) hk) hi
    have ht := h.append (h.enclose (ihl · n) left.isCombination d)
      (h.append hc (h.enclose (ihr · (n + left.literalCount)) right.isCombination d))
    simpa [Filter.conditionText, String.append_assoc] using ht
  | not inner ih =>
    exact h.append (h.append (h.constant "NOT (" (by decide)) (ih d n))
      (h.constant ")" (by decide))

end HoldsOfParts

theorem madeOf_indentation (d : Nat) : MadeOf conditionMarks (Script.indentation d) := by
  intro c hc
  simp only [Script.indentation, String.toList_ofList, List.mem_replicate] at hc
  simp [hc.2, conditionMarks]

theorem madeOf_conditionText (f : Filter) (d n : Nat) :
    MadeOf conditionMarks (f.conditionText d n) :=
  HoldsOfParts.conditionText
    { append := .append
      identifier := fun name => (madeOf_identifier name).mono (by decide)
      placeholder := fun n => (madeOf_placeholder n).mono (by decide)
      indentation := madeOf_indentation
      constant := by decide } f d n

theorem endsOpen_enclose {t : Nat → String} (h : ∀ d, EndsOpen (t d)) (grouped : Bool) (d : Nat) :
    EndsOpen (enclose grouped t d) := by
  cases grouped
  · exact h d
  · exact .append _ ⟨')', by decide, by decide⟩

theorem endsOpen_conditionText (f : Filter) (d n : Nat) : EndsOpen (f.conditionText d n) := by
  induction f generalizing d n with
  | column name => exact endsOpen_identifier name
  | literal v =>
    cases hv : v.isNull
    · simpa [conditionText, hv] using endsOpen_placeholder n
    · simpa [conditionText, hv] using ⟨'L', by decide, by decide⟩
  | compare left op right _ ihr =>
    exact .append _ (.append _ (endsOpen_enclose (fun d => ihr d _) _ d))
  | combine left op right _ ihr =>
    exact .append _ (.append _ (endsOpen_enclose (fun d => ihr d _) _ d))
  | not inner => exact .append _ ⟨')', by decide, by decide⟩

end Filter
end GridQuery
