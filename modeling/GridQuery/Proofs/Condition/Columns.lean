import GridQuery.Proofs.Condition.Run
import GridQuery.Proofs.Text.Delimited
import GridQuery.Proofs.Text.Marks

/-! # The columns of a condition

The names between the brackets of a condition are the columns of its filter, in the order in which
the filter is gone through. Nothing else in a condition has a bracket, whatever the columns are
called and whatever literals are bound. -/

namespace GridQuery
open Text

/-- The names between brackets in a text, from left to right, if no bracket stands by itself. -/
def bracketedNames? : List Char → Option (List String)
  | [] => some []
  | c :: t =>
    if c = '[' then
      match _h : upTo? ']' t with
      | some (name, rest) => (bracketedNames? rest).map (String.ofList name :: ·)
      | none => none
    else if c = ']' then none
    else bracketedNames? t
termination_by t => t.length
decreasing_by
  · exact Nat.lt_succ_of_lt (length_lt_of_upTo? _h)
  · simp

section HoldsNames
variable {s t : String} {a b : List String} {before rest : List Char}

theorem bracketedNames?_append_of_bare (h : ∀ c ∈ before, c ≠ '[' ∧ c ≠ ']') :
    bracketedNames? (before ++ rest) = bracketedNames? rest := by
  induction before with
  | nil => rfl
  | cons c before ih =>
    obtain ⟨hc, hb⟩ := List.forall_mem_cons.1 h
    rw [List.cons_append, bracketedNames?, if_neg hc.1, if_neg hc.2, ih hb]

theorem bracketedNames?_bracketed (name : List Char) (h : rest.head? ≠ some ']') :
    bracketedNames? ('[' :: (doubled ']' name ++ ']' :: rest)) =
      (bracketedNames? rest).map (String.ofList name :: ·) := by
  have hu := upTo?_doubled (s := name) h
  rw [bracketedNames?, if_pos rfl]
  split <;> simp_all

/-- Read before a text that no closing bracket starts, the text gives these names first. -/
def HoldsNames (t : String) (names : List String) : Prop :=
  ∀ rest, rest.head? ≠ some ']' →
    bracketedNames? (t.toList ++ rest) = (bracketedNames? rest).map (names ++ ·)

def Bare (t : String) : Prop := ∀ c ∈ t.toList, c ≠ '[' ∧ c ≠ ']'

instance (t : String) : Decidable (Bare t) :=
  inferInstanceAs (Decidable (∀ c ∈ t.toList, c ≠ '[' ∧ c ≠ ']'))

theorem Bare.append (hs : Bare s) (ht : Bare t) : Bare (s ++ t) := by
  intro c hc
  rw [String.toList_append, List.mem_append] at hc
  exact hc.elim (hs c) (ht c)

theorem bare_of_madeOf {marks : List Char} (h : MadeOf marks t) (ho : '[' ∉ marks)
    (hc : ']' ∉ marks) : Bare t := by
  rintro c hm
  refine ⟨?_, ?_⟩
  · rintro rfl
    exact h.not_mem (by decide) ho hm
  · rintro rfl
    exact h.not_mem (by decide) hc hm

theorem holdsNames_of_bare (h : Bare t) : HoldsNames t [] := by
  intro rest _
  simp [bracketedNames?_append_of_bare h]

theorem HoldsNames.prepend (hs : Bare s) (ht : HoldsNames t b) : HoldsNames (s ++ t) b := by
  intro rest hr
  rw [String.toList_append, List.append_assoc, bracketedNames?_append_of_bare hs, ht rest hr]

theorem HoldsNames.append (hs : HoldsNames s a) (ht : HoldsNames t b)
    (he : t.toList.head? ≠ some ']') : HoldsNames (s ++ t) (a ++ b) := by
  intro rest hr
  have hh : (t.toList ++ rest).head? ≠ some ']' := by
    cases hl : t.toList with
    | nil => exact hr
    | cons c l => simpa [hl] using he
  rw [String.toList_append, List.append_assoc, hs _ hh, ht rest hr, Option.map_map]
  simp [Function.comp_def]

theorem HoldsNames.append_bare (hs : HoldsNames s a) (ht : Bare t) : HoldsNames (s ++ t) a := by
  have he : t.toList.head? ≠ some ']' := fun h => (ht _ (List.mem_of_head? h)).2 rfl
  simpa using hs.append (holdsNames_of_bare ht) he

theorem HoldsNames.join {between : String} (hs : HoldsNames s a) (hb : Bare between)
    (hne : between ≠ "") (ht : HoldsNames t b) :
    HoldsNames (s ++ (between ++ t)) (a ++ b) := by
  refine hs.append (ht.prepend hb) ?_
  obtain ⟨c, l, hl⟩ := List.exists_cons_of_ne_nil (mt String.toList_eq_nil_iff.1 hne)
  have hc := (hb c (by simp [hl])).2
  simpa [hl] using hc

theorem holdsNames_identifier (name : String) : HoldsNames (identifier name) [sanitize name] := by
  intro rest hr
  have hi : (identifier name).toList = '[' :: (doubled ']' (sanitize name).toList ++ [']']) := by
    simp [identifier, bracketed]
  have hb := bracketedNames?_bracketed (sanitize name).toList hr
  rw [hi]
  simpa using hb

theorem bare_placeholder (n : Nat) : Bare (placeholder n) :=
  bare_of_madeOf (madeOf_placeholder n) (by decide) (by decide)

theorem bare_indentation (d : Nat) : Bare (Script.indentation d) := by
  intro c hc
  simp only [Script.indentation, String.toList_ofList, List.mem_replicate] at hc
  simp [hc.2]

end HoldsNames

namespace Filter
open Binding

theorem bare_operatorText (op : Comparison) (right : Filter) : Bare (operatorText op right) := by
  cases hr : right.isNull <;> cases op <;> simp only [operatorText, hr] <;> decide

theorem holdsNames_enclose {t : Nat → String} {names : List String}
    (h : ∀ d, HoldsNames (t d) names) (grouped : Bool) (d : Nat) :
    HoldsNames (enclose grouped t d) names := by
  cases grouped
  · exact h d
  · exact ((h (d + 1)).prepend (by decide)).append_bare (by decide)

theorem holdsNames_conditionText (f : Filter) (d n : Nat) :
    HoldsNames (f.conditionText d n) (f.columns.map sanitize) := by
  induction f generalizing d n with
  | column name => exact holdsNames_identifier name
  | literal v =>
    cases hv : v.isNull
    · simpa [conditionText, columns, hv] using holdsNames_of_bare (bare_placeholder n)
    · simpa [conditionText, columns, hv] using holdsNames_of_bare (by decide : Bare "NULL")
  | compare left op right ihl ihr =>
    have hb : Bare (" " ++ operatorText op right ++ " ") :=
      ((by decide : Bare " ").append (bare_operatorText op right)).append (by decide)
    rw [columns, List.map_append]
    exact (holdsNames_enclose (ihl · n) _ d).join hb (by simp) (holdsNames_enclose (ihr · _) _ d)
  | combine left op right ihl ihr =>
    have hk : Bare op.sqlKeyword := by cases op <;> decide
    have hb : Bare ("\n" ++ Script.indentation d ++ op.sqlKeyword ++ "\n" ++
        Script.indentation d) :=
      ((((by decide : Bare "\n").append (bare_indentation d)).append hk).append
        (by decide)).append (bare_indentation d)
    rw [columns, List.map_append]
    exact (holdsNames_enclose (ihl · n) _ d).join hb (by simp) (holdsNames_enclose (ihr · _) _ d)
  | not inner ih => exact ((ih d n).prepend (by decide)).append_bare (by decide)

variable {f : Filter} {b b' : Bindings} {text : String}

/-- The names between brackets in the condition of a filter are its columns, sanitized: as many, as
often and in the same order. -/
theorem bracketedNames?_condition (h : f.condition b = (.ok text, b')) :
    bracketedNames? text.toList = some (f.columns.map sanitize) := by
  obtain ⟨-, rfl, -⟩ := condition_eq_ok_iff.1 h
  simpa [bracketedNames?] using holdsNames_conditionText f 0 b.size [] nofun

def repeated : Filter :=
  .combine (.not (.combine (.compare (.column "a]; --") .contains (.literal (.string "[x]"))) .or
    (.compare (.column "Total") .ne (.column "a]; --")))) .and
    (.compare (.column "") .eq (.literal .null))

theorem bracketedNames?_condition_repeated :
    ∃ text b', repeated.condition {} = (.ok text, b') ∧
      bracketedNames? text.toList = some ["a_____", "Total", "a_____", ""] := by
  have h : repeated.condition {} = (.ok (repeated.conditionText 0 0), ⟨_⟩) :=
    condition_eq_ok_iff.2 ⟨rfl, rfl, rfl⟩
  exact ⟨_, _, h, bracketedNames?_condition h⟩

end Filter
end GridQuery
