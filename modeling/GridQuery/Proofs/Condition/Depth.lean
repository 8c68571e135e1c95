import GridQuery.Proofs.Condition.Text

/-! # Conditions at any depth

A condition follows the depth of the script that it is written to: behind each of its line feeds
stands the indentation of that depth. Nothing else of the script matters, neither its text nor
whether its line is open, so that a condition is written anywhere as it is on an empty page. -/

namespace GridQuery
open Text

namespace Script
variable {depth : Nat} {s t : String}

/-- The text with the indentation of a depth behind each line feed. -/
def deepened (depth : Nat) (t : String) : String :=
  String.ofList (t.toList.flatMap fun c =>
    if c = '\n' then c :: List.replicate (2 * depth) ' ' else [c])

@[simp] theorem deepened_append :
    deepened depth (s ++ t) = deepened depth s ++ deepened depth t := by
  simp [deepened]

theorem deepened_of_not_mem (h : '\n' ∉ t.toList) : deepened depth t = t := by
  have hl (l : List Char) (h : '\n' ∉ l) :
      l.flatMap (fun c => if c = '\n' then c :: List.replicate (2 * depth) ' ' else [c]) = l := by
    induction l with
    | nil => rfl
    | cons c l ih =>
      simp only [List.mem_cons, not_or] at h
      rw [List.flatMap_cons, if_neg (Ne.symm h.1), ih h.2]
      rfl
  rw [deepened, hl _ h, String.ofList_toList]

theorem deepened_lineFeed : deepened depth "\n" = "\n" ++ indentation depth := by
  simp [deepened, indentation]

theorem indentation_add (d : Nat) :
    indentation (d + depth) = indentation depth ++ indentation d := by
  simp [← String.toList_inj, indentation, Nat.mul_add, List.replicate_append_replicate,
    Nat.add_comm]

end Script

namespace Filter
open Binding Script
variable {depth : Nat} {t : Nat → String} {f : Filter} {r r' : Rendering}

theorem enclose_add (h : ∀ d, t (d + depth) = deepened depth (t d)) (grouped : Bool) (d : Nat) :
    enclose grouped t (d + depth) = deepened depth (enclose grouped t d) := by
  cases grouped with
  | false => exact h d
  | true =>
    have hd : t (d + depth + 1) = deepened depth (t (d + 1)) := by
      rw [Nat.add_right_comm, h]
    have ho : deepened depth "(" = "(" := deepened_of_not_mem (by decide)
    have hc : deepened depth ")" = ")" := deepened_of_not_mem (by decide)
    simp [enclose, hd, ho, hc]

/-- The text of a condition at some more depth is the text with the indentation for it behind each
line feed. -/
theorem conditionText_add (f : Filter) (d n : Nat) :
    f.conditionText (d + depth) n = deepened depth (f.conditionText d n) := by
  induction f generalizing d n with
  | column name =>
    have hn := (madeOf_identifier name).not_mem (c := '\n') (by decide) (by decide)
    exact (deepened_of_not_mem hn).symm
  | literal v =>
    cases hv : v.isNull
    · have hn := (madeOf_placeholder n).not_mem (c := '\n') (by decide) (by decide)
      simp [conditionText, hv, deepened_of_not_mem hn]
    · have hn : deepened depth "NULL" = "NULL" := deepened_of_not_mem (by decide)
      simp [conditionText, hv, hn]
  | compare left op right ihl ihr =>
    have ho : '\n' ∉ (operatorText op right).toList := by
      cases hr : right.isNull <;> cases op <;> simp only [operatorText, hr] <;> decide
    have hs : deepened depth " " = " " := deepened_of_not_mem (by decide)
    have hl := enclose_add (t := (left.conditionText · n)) (ihl · n) (!left.isLeaf) d
    have hr := enclose_add (t := (right.conditionText · (n + left.literalCount)))
      (ihr · (n + left.literalCount)) (!right.isLeaf) d
    simp only [conditionText, deepened_append, hl, hr, deepened_of_not_mem ho, hs]
  | combine left op right ihl ihr =>
    have ho : '\n' ∉ op.sqlKeyword.toList := by cases op <;> decide
    have hi : deepened depth (indentation d) = indentation d :=
      deepened_of_not_mem (by simp [indentation])
    have hl := enclose_add (t := (left.conditionText · n)) (ihl · n) left.isCombination d
    have hr := enclose_add (t := (right.conditionText · (n + left.literalCount)))
      (ihr · (n + left.literalCount)) right.isCombination d
    simp only [conditionText, deepened_append, hl, hr, deepened_of_not_mem ho, hi,
      deepened_lineFeed, indentation_add, String.append_assoc]
  | not inner ih =>
    have ho : deepened depth "NOT (" = "NOT (" := deepened_of_not_mem (by decide)
    have hc : deepened depth ")" = ")" := deepened_of_not_mem (by decide)
    simp only [conditionText, deepened_append, ih, ho, hc]

/-- A filter is written exactly if it has a condition with the same bindings before it, and then its
condition is what it adds: with the indentation of the script behind each line feed, on a line that
stays open, at the depth before. -/
theorem run_write_eq_ok_iff_condition :
    f.write.run.run r = (.ok (), r') ↔
      ∃ text bindings, f.condition r.bindings = (.ok text, bindings) ∧
        r' =
          { script :=
              { text := r.script.text ++ deepened r.script.depth text
                depth := r.script.depth
                lineOpen := true }
            bindings } := by
  cases hf : f.failure? with
  | none =>
    have ht : f.conditionText r.script.depth r.bindings.size =
        deepened r.script.depth (f.conditionText 0 r.bindings.size) := by
      rw [← conditionText_add, Nat.zero_add]
    simp only [condition_eq_ok_iff, hf, true_and]
    rw [writes_write hf, Rendering.append, ht]
    constructor
    · rintro ⟨⟩
      exact ⟨_, _, ⟨rfl, rfl⟩, rfl⟩
    · rintro ⟨_, _, ⟨rfl, rfl⟩, rfl⟩
      rfl
  | some e =>
    obtain ⟨r₁, hr, -⟩ := fails_write hf r
    constructor
    · intro h
      cases hr.symm.trans h
    · rintro ⟨_, _, h, -⟩
      simp [condition_eq_ok_iff, hf] at h

example :
    ((combine (column "A") .or (column "B")).write.run.run
      { script := { text := "WHERE ", depth := 1 } }).2.script.text =
        "WHERE " ++ deepened 1 "[A]\nOR\n[B]" := by
  decide

end Filter
end GridQuery
