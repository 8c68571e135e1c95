import GridQuery.Assoc
import GridQuery.Decimal.Numeral
import GridQuery.Proofs.Assoc
import GridQuery.Proofs.Placeholder
import Mathlib.Data.List.Induction

/-! # Bindings as a sequence

Bindings are a sequence to which literals are only added. Whatever is read on the way, the literal
that was bound as number `n` has the name made of an `@` and the decimal digits of `n`, keeps it, and
no other text names it. A table that is kept by name, and would replace a literal whose name is given
again, answers the same: no name is ever given again. -/

namespace GridQuery
open Text Decimal

/-- The decimal digits of a number, without a zero in front of others. -/
structure IsDecimal (digits : List Char) (n : Nat) : Prop where
  ne_nil : digits ≠ []
  isDigit : ∀ c ∈ digits, c.isDigit = true
  eq_zero : digits.head? = some '0' → digits = ['0']
  value : digitsValue digits = n

section Decimal
variable {digits : List Char} {c : Char} {n : Nat}

theorem exists_digitChar_of_isDigit (h : c.isDigit = true) : ∃ d < 10, c = d.digitChar := by
  rw [Char.isDigit_iff_toNat] at h
  change 48 ≤ c.toNat ∧ c.toNat ≤ 57 at h
  refine ⟨c.toNat - 48, by omega, Char.toNat_inj.1 ?_⟩
  rw [Nat.toNat_digitChar_of_lt_ten (by omega)]
  omega

theorem digitsValue_append_digitChar {d : Nat} (hd : d < 10) (digits : List Char) :
    digitsValue (digits ++ [d.digitChar]) = 10 * digitsValue digits + d := by
  rw [digitsValue, Nat.ofDigitChars_append, Nat.ofDigitChars_cons_digitChar_of_lt_ten hd,
    Nat.ofDigitChars_nil]
  rfl

theorem head?_toDigits_ne (h : 0 < n) : (Nat.toDigits 10 n).head? ≠ some '0' := by
  induction n using Nat.strongRecOn with
  | ind n ih =>
    obtain hn | hn := Nat.lt_or_ge n 10
    · rw [Nat.toDigits_of_lt_base hn, List.head?_cons, ne_eq, Option.some_inj,
        Nat.digitChar_eq_zero]
      omega
    · rw [Nat.toDigits_of_base_le (by decide) hn, List.head?_append_of_ne_nil _ Nat.toDigits_ne_nil]
      exact ih (n / 10) (by omega) (by omega)

theorem toDigits_digitsValue (hn : digits ≠ []) (hd : ∀ c ∈ digits, c.isDigit = true)
    (hz : digits.head? = some '0' → digits = ['0']) :
    Nat.toDigits 10 (digitsValue digits) = digits := by
  induction digits using List.reverseRecOn with
  | nil => exact absurd rfl hn
  | append_singleton digits c ih =>
    obtain ⟨d, hlt, rfl⟩ := exists_digitChar_of_isDigit (hd c (by simp))
    rw [digitsValue_append_digitChar hlt]
    by_cases he : digits = []
    · subst he
      show Nat.toDigits 10 (10 * 0 + d) = [d.digitChar]
      rw [Nat.zero_add, Nat.toDigits_of_lt_base hlt]
    · have hhead : digits.head? ≠ some '0' := by
        intro h
        have hlen := congrArg List.length (hz (by rw [List.head?_append_of_ne_nil _ he, h]))
        have := List.length_pos_iff.2 he
        simp only [List.length_append, List.length_singleton] at hlen
        omega
      have hv := ih he (fun c hc => hd c (by simp [hc])) (fun h => absurd h hhead)
      have hpos : 0 < digitsValue digits := by
        rw [Nat.pos_iff_ne_zero]
        intro h
        rw [h] at hv
        exact hhead (by rw [← hv]; rfl)
      rw [← Nat.toDigits_append_toDigits (by decide) hpos hlt, hv,
        Nat.toDigits_of_lt_base hlt]

theorem isDecimal_iff : IsDecimal digits n ↔ digits = Nat.toDigits 10 n := by
  constructor
  · rintro ⟨hn, hd, hz, rfl⟩
    exact (toDigits_digitsValue hn hd hz).symm
  · rintro rfl
    refine ⟨Nat.toDigits_ne_nil, fun c hc => ?_, fun h => ?_, ?_⟩
    · exact Nat.isDigit_of_mem_toDigits (by decide) (by decide) hc
    · obtain rfl : n = 0 := by
        by_contra hn
        exact head?_toDigits_ne (Nat.pos_iff_ne_zero.2 hn) h
      rfl
    · exact Nat.ofDigitChars_toDigits (by decide) (by decide)

end Decimal

namespace Bindings

/-- What a caller does with bindings: one more literal is bound, or something is read. -/
inductive Use where
  | bind (v : Literal)
  | get (name : String)
  | size
  | isEmpty
  | entries
  | json

inductive Answer where
  | name (name : String)
  | literal (v : Option Literal)
  | size (n : Nat)
  | isEmpty (b : Bool)
  | entries (entries : List (String × Literal))
  | json (json : Json)

def answers {σ : Type} (use : σ → Use → Answer × σ) : σ → List Use → List Answer
  | _, [] => []
  | s, u :: rest => (use s u).1 :: answers use (use s u).2 rest

def Use.bound : Use → List Literal
  | .bind v => [v]
  | _ => []

def use (b : Bindings) : Use → Answer × Bindings
  | .bind v => (.name (b.bind v).1, (b.bind v).2)
  | .get name => (.literal (b.get? name), b)
  | .size => (.size b.size, b)
  | .isEmpty => (.isEmpty b.isEmpty, b)
  | .entries => (.entries b.entries, b)
  | .json => (.json b.toJson, b)

/-- Literals kept by name, with the number of the next name. -/
structure Table where
  entries : Assoc String Literal := []
  next : Nat := 0

/-- Uses a table once. What is put under a name replaces what was there. -/
def Table.use (t : Table) : Use → Answer × Table
  | .bind v => (.name (placeholder t.next),
      ⟨t.entries.put (placeholder t.next) v, t.next + 1⟩)
  | .get name => (.literal (t.entries.lookup name), t)
  | .size => (.size t.entries.length, t)
  | .isEmpty => (.isEmpty t.entries.isEmpty, t)
  | .entries => (.entries t.entries, t)
  | .json => (.json (.object (Assoc.putAll [] (t.entries.map fun e => (e.1, e.2.toJson)))), t)

/-- The text is an `@` and the digits of the number. -/
def IsName (n : Nat) (name : String) : Prop :=
  ∃ digits, name.toList = '@' :: digits ∧ IsDecimal digits n

/-- The entries are the values in their order, each under the name of its place. -/
def Lists {β : Type} (values : List β) (entries : List (String × β)) : Prop :=
  entries.length = values.length ∧
    ∀ (i : Nat) v, values[i]? = some v → ∃ name, IsName i name ∧ entries[i]? = some (name, v)

inductive Gives (vs : List Literal) : Use → Answer → Prop where
  | bind {v : Literal} {name : String} : IsName vs.length name → Gives vs (.bind v) (.name name)
  | known {name : String} {i : Nat} {v : Literal} : IsName i name → vs[i]? = some v →
      Gives vs (.get name) (.literal (some v))
  | unknown {name : String} : (∀ i < vs.length, ¬ IsName i name) →
      Gives vs (.get name) (.literal none)
  | size : Gives vs .size (.size vs.length)
  | isEmpty : Gives vs .isEmpty (.isEmpty vs.isEmpty)
  | entries {entries : List (String × Literal)} : Lists vs entries →
      Gives vs .entries (.entries entries)
  | json {fields : List (String × Json)} : Lists (vs.map Literal.toJson) fields →
      Gives vs .json (.json (.object fields))

section IsName
variable {name : String} {n : Nat}

theorem isName_iff : IsName n name ↔ name = placeholder n := by
  have hp : (placeholder n).toList = '@' :: Nat.toDigits 10 n := by simp [placeholder]
  constructor
  · rintro ⟨digits, hd, h⟩
    rw [isDecimal_iff] at h
    exact String.toList_inj.1 (by rw [hd, hp, h])
  · rintro rfl
    exact ⟨_, hp, isDecimal_iff.2 rfl⟩

theorem isName_placeholder (n : Nat) : IsName n (placeholder n) := isName_iff.2 rfl

end IsName

section Gives
variable (b : Bindings)

theorem lists_entries : Lists b.values b.entries := by
  refine ⟨b.length_entries, fun i v h => ⟨placeholder i, isName_placeholder i, ?_⟩⟩
  simp [entries, h]

theorem Lists.map {α β : Type} {values : List α} {entries : List (String × α)}
    (h : Lists values entries) (f : α → β) :
    Lists (values.map f) (entries.map fun e => (e.1, f e.2)) := by
  refine ⟨by simpa using h.1, fun i w hw => ?_⟩
  obtain ⟨v, hv, rfl⟩ := Option.map_eq_some_iff.1 (List.getElem?_map ▸ hw)
  obtain ⟨name, hn, he⟩ := h.2 i v hv
  exact ⟨name, hn, by simp [he]⟩

theorem gives_get (name : String) : Gives b.values (.get name) (.literal (b.get? name)) := by
  by_cases h : ∃ i < b.values.length, IsName i name
  · obtain ⟨i, hi, hn⟩ := h
    have hv := List.getElem?_eq_getElem hi
    rw [isName_iff.1 hn, get?_placeholder, hv]
    exact .known (isName_placeholder i) hv
  · push Not at h
    have hnone : b.get? name = none := by
      rw [get?, Assoc.lookup_eq_none_iff_notMem, map_fst_entries, List.mem_map]
      rintro ⟨i, hi, rfl⟩
      exact h i (List.mem_range.1 hi) (isName_placeholder i)
    rw [hnone]
    exact .unknown h

theorem gives_use (u : Use) : Gives b.values u (b.use u).1 := by
  cases u with
  | bind v => exact .bind (isName_placeholder _)
  | get name => exact gives_get b name
  | size => exact .size
  | isEmpty => exact .isEmpty
  | entries => exact .entries (lists_entries b)
  | json => exact .json ((lists_entries b).map Literal.toJson)

theorem values_use (u : Use) : (b.use u).2.values = b.values ++ u.bound := by
  cases u <;> simp [use, Use.bound]

theorem gives_answers (uses : List Use) {k : Nat} {u : Use} (h : uses[k]? = some u) :
    ∃ a, (answers use b uses)[k]? = some a ∧
      Gives (b.values ++ (uses.take k).flatMap Use.bound) u a := by
  induction uses generalizing b k with
  | nil => simp at h
  | cons u' uses ih =>
    cases k with
    | zero =>
      obtain rfl : u' = u := by simpa using h
      exact ⟨_, rfl, by simpa using gives_use b u'⟩
    | succ k =>
      obtain ⟨a, ha, hg⟩ := ih (b.use u').2 (by simpa using h)
      refine ⟨a, by simpa [answers] using ha, ?_⟩
      rw [values_use, List.append_assoc] at hg
      exact hg

end Gives

section Table
variable {b : Bindings} {t : Table}

structure Table.Holds (t : Table) (b : Bindings) : Prop where
  entries : t.entries = b.entries
  next : t.next = b.size

/-- A name that is given is new, so that nothing in the table is replaced. -/
theorem Table.Holds.bind (h : t.Holds b) (v : Literal) :
    (t.use (.bind v)).2.Holds (b.bind v).2 := by
  have hnew : placeholder b.size ∉ b.entries.map Prod.fst := by
    rw [map_fst_entries, List.mem_map]
    rintro ⟨i, hi, he⟩
    exact Nat.ne_of_lt (List.mem_range.1 hi) (placeholder_injective he)
  refine ⟨?_, ?_⟩
  · show t.entries.put (placeholder t.next) v = _
    rw [h.entries, h.next, Assoc.put_of_notMem hnew, entries_bind]
  · show t.next + 1 = _
    rw [h.next, size_bind]

theorem isEmpty_entries (b : Bindings) : b.entries.isEmpty = b.isEmpty := by
  rw [Bool.eq_iff_iff, isEmpty, List.isEmpty_iff_length_eq_zero, List.isEmpty_iff_length_eq_zero,
    length_entries, size]

theorem putAll_toJson (b : Bindings) :
    Assoc.putAll [] (b.entries.map fun e => (e.1, e.2.toJson)) =
      b.entries.map fun e => (e.1, e.2.toJson) := by
  refine Assoc.putAll_eq_append ?_
  simpa [Function.comp_def] using b.nodup_map_fst_entries

theorem Table.Holds.use (h : t.Holds b) (u : Use) :
    (t.use u).1 = (b.use u).1 ∧ (t.use u).2.Holds (b.use u).2 := by
  cases u with
  | bind v => exact ⟨congrArg (fun n => Answer.name (placeholder n)) h.next, h.bind v⟩
  | get name =>
    have hg : t.entries.lookup name = b.get? name := by rw [h.entries, get?]
    exact ⟨congrArg Answer.literal hg, h⟩
  | size =>
    have hs : t.entries.length = b.size := by rw [h.entries, length_entries]
    exact ⟨congrArg Answer.size hs, h⟩
  | isEmpty =>
    have he : t.entries.isEmpty = b.isEmpty := by rw [h.entries, isEmpty_entries]
    exact ⟨congrArg Answer.isEmpty he, h⟩
  | entries => exact ⟨congrArg Answer.entries h.entries, h⟩
  | json =>
    refine ⟨?_, h⟩
    show Answer.json (.object (Assoc.putAll [] (t.entries.map fun e => (e.1, e.2.toJson)))) = _
    rw [h.entries, putAll_toJson]
    rfl

theorem Table.Holds.answers (h : t.Holds b) (uses : List Use) :
    answers Table.use t uses = answers Bindings.use b uses := by
  induction uses generalizing t b with
  | nil => rfl
  | cons u uses ih =>
    obtain ⟨ha, hn⟩ := h.use u
    simp only [Bindings.answers, ha, ih hn]

theorem table_holds_nothing : Table.Holds {} {} := ⟨rfl, rfl⟩

end Table

section Run

theorem length_answers {σ : Type} (use : σ → Use → Answer × σ) (s : σ) (uses : List Use) :
    (answers use s uses).length = uses.length := by
  induction uses generalizing s with
  | nil => rfl
  | cons u uses ih => simp [answers, ih]

theorem getElem?_bound_of_le {uses : List Use} {i j k : Nat} {v : Literal} (hjk : j ≤ k)
    (h : ((uses.take j).flatMap Use.bound)[i]? = some v) :
    ((uses.take k).flatMap Use.bound)[i]? = some v := by
  obtain ⟨rest, hr⟩ := List.take_prefix_take_left (l := uses) hjk
  rw [← hr, List.flatMap_append]
  obtain ⟨hi, rfl⟩ := List.getElem?_eq_some_iff.1 h
  rw [List.getElem?_append_left hi, List.getElem?_eq_getElem hi]

theorem Gives.of_le {uses : List Use} {j k : Nat} {name : String} {v : Literal} {a : Answer}
    (hjk : j ≤ k) (h : Gives ((uses.take j).flatMap Use.bound) (.get name) (.literal (some v)))
    (h' : Gives ((uses.take k).flatMap Use.bound) (.get name) a) : a = .literal (some v) := by
  cases h with
  | known hn hv =>
    have hk := getElem?_bound_of_le hjk hv
    cases h' with
    | known hn' hv' =>
      obtain rfl := placeholder_injective ((isName_iff.1 hn).symm.trans (isName_iff.1 hn'))
      rw [Option.some_inj.1 (hk.symm.trans hv')]
    | unknown hno =>
      obtain ⟨hi, -⟩ := List.getElem?_eq_some_iff.1 hk
      exact absurd hn (hno _ hi)

end Run

/-- Whatever bindings are used for, in any order, what each use gives comes from the literals bound
before it, each under the name that is an `@` and the digits of its number. A table that is kept by
name gives the same, as no name is ever given twice, and what a name once gave it gives for good. -/
theorem answers_uses (uses : List Use) :
    answers Table.use {} uses = answers Bindings.use {} uses ∧
    (answers Bindings.use {} uses).length = uses.length ∧
    (∀ (k : Nat) u, uses[k]? = some u → ∃ a, (answers Bindings.use {} uses)[k]? = some a ∧
      Gives ((uses.take k).flatMap Use.bound) u a) ∧
    ∀ (j k : Nat) name v, j ≤ k → uses[j]? = some (.get name) → uses[k]? = some (.get name) →
      (answers Bindings.use {} uses)[j]? = some (.literal (some v)) →
      (answers Bindings.use {} uses)[k]? = some (.literal (some v)) := by
  refine ⟨table_holds_nothing.answers uses, length_answers _ _ _, fun k u h => ?_, ?_⟩
  · exact gives_answers {} uses h
  · intro j k name v hjk hj hk ha
    obtain ⟨_, ha', hg⟩ := gives_answers {} uses hj
    obtain rfl := Option.some_inj.1 (ha.symm.trans ha')
    obtain ⟨a, hb, hg'⟩ := gives_answers {} uses hk
    rw [hb, hg.of_le hjk hg']

theorem answers_uses_kept :
    let uses : List Use := [.bind .null, .get "@00", .get "@0", .bind (.string "@0"), .get "@0"]
    (answers Bindings.use {} uses)[1]? = some (.literal none) ∧
    Gives [.null] (.get "@00") (.literal none) ∧
    (answers Bindings.use {} uses)[2]? = some (.literal (some .null)) ∧
    (answers Bindings.use {} uses)[4]? = some (.literal (some .null)) := by
  intro uses
  obtain ⟨-, -, hgives, hkept⟩ := answers_uses uses
  have hnone : (answers Bindings.use {} uses)[1]? = some (.literal none) := rfl
  have hsome : (answers Bindings.use {} uses)[2]? = some (.literal (some .null)) := rfl
  obtain ⟨a, ha, hg⟩ := hgives 1 _ rfl
  obtain rfl := Option.some_inj.1 (hnone.symm.trans ha)
  exact ⟨hnone, hg, hsome, hkept 2 4 "@0" .null (by decide) rfl rfl hsome⟩

end Bindings
end GridQuery
