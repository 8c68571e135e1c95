import GridQuery.Proofs.Assoc
import GridQuery.Proofs.Text.Marks
import Mathlib.Data.List.TakeWhile

/-! # Placeholders

The placeholders of bindings are `@0`, `@1`, … without a gap, and each of them is bound to the
literal at its place. In a text a placeholder ends where the word behind its `@` ends. -/

namespace GridQuery
open Text

namespace Bindings
variable (b : Bindings)

theorem nodup_map_fst_entries : (b.entries.map Prod.fst).Nodup := by
  rw [map_fst_entries]
  exact List.Pairwise.map placeholder (fun _ _ hne h => hne (placeholder_injective h))
    List.nodup_range

theorem get?_placeholder (i : Nat) : b.get? (placeholder i) = b.values[i]? :=
  Option.ext fun _ => (Assoc.lookup_eq_some_iff_mem b.nodup_map_fst_entries).trans b.mem_entries_iff

end Bindings

/-- The placeholders in a text, from left to right: every `@` with the word behind it. -/
def placeholdersIn : List Char → List String
  | [] => []
  | c :: rest =>
    if c = '@' then String.ofList ('@' :: rest.takeWhile isWord) :: placeholdersIn rest
    else placeholdersIn rest

section placeholdersIn
variable {s t : List Char} {n : Nat}

theorem placeholdersIn_of_not_mem (h : '@' ∉ s) : placeholdersIn s = [] := by
  induction s with
  | nil => rfl
  | cons c s ih =>
    rw [List.mem_cons, not_or] at h
    rw [placeholdersIn, if_neg (Ne.symm h.1), ih h.2]

theorem placeholdersIn_append_of_not_mem (h : '@' ∉ s) :
    placeholdersIn (s ++ t) = placeholdersIn t := by
  induction s with
  | nil => rfl
  | cons c s ih =>
    rw [List.mem_cons, not_or] at h
    rw [List.cons_append, placeholdersIn, if_neg (Ne.symm h.1), ih h.2]

theorem placeholdersIn_append (h : EndsWord t) :
    placeholdersIn (s ++ t) = placeholdersIn s ++ placeholdersIn t := by
  induction s with
  | nil => rfl
  | cons c s ih =>
    rw [List.cons_append, placeholdersIn, placeholdersIn, takeWhile_isWord_append h, ih]
    split <;> rfl

@[simp] theorem placeholdersIn_placeholder (n : Nat) :
    placeholdersIn (placeholder n).toList = [placeholder n] := by
  have hw : ∀ c ∈ Nat.toDigits 10 n, isWord c = true := fun c hc =>
    isWord_of_isDigit (Nat.isDigit_of_mem_toDigits (by decide) (by decide) hc)
  have hm : '@' ∉ Nat.toDigits 10 n := fun h => absurd (hw '@' h) (by decide)
  have hp : (placeholder n).toList = '@' :: Nat.toDigits 10 n := by simp [placeholder]
  rw [hp, placeholdersIn, if_pos rfl, placeholdersIn_of_not_mem hm, List.takeWhile_eq_self_iff.2 hw,
    ← hp, String.ofList_toList]

theorem placeholdersIn_of_madeOf {marks : List Char} {t : String} (h : MadeOf marks t)
    (hm : '@' ∉ marks) : placeholdersIn t.toList = [] :=
  placeholdersIn_of_not_mem (h.not_mem (by decide) hm)

end placeholdersIn
end GridQuery
