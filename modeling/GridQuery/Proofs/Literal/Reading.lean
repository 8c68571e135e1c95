import GridQuery.Literal.Basic
import GridQuery.Proofs.Text.Marks
import Mathlib.Data.List.Forall2

/-! # Reading literals back

A string literal of a script goes up to the first quote that is not doubled. Read so, the text of
a literal gives back the value that was written, and no literal of another kind has a quote or the
end of a line in it. -/

namespace GridQuery
open Text

mutual

/-- The string literals of a text from left to right, if the last one has an end. -/
def strings? : List Char → Option (List (List Char))
  | [] => some []
  | '\'' :: rest => (tailStrings? rest).map fun (t, ts) => t :: ts
  | _ :: rest => strings? rest

/-- The rest of the string literal that the text is in, and the literals behind it. -/
def tailStrings? : List Char → Option (List Char × List (List Char))
  | [] => none
  | '\'' :: '\'' :: rest => (tailStrings? rest).map fun (t, ts) => ('\'' :: t, ts)
  | '\'' :: rest => (strings? rest).map fun ts => ([], ts)
  | c :: rest => (tailStrings? rest).map fun (t, ts) => (c :: t, ts)

end

section strings
variable {s t rest : List Char} {a b : List (List Char)}

theorem strings?_append_of_not_mem (h : '\'' ∉ s) : strings? (s ++ t) = strings? t := by
  induction s with
  | nil => rfl
  | cons c s ih =>
    simp only [List.mem_cons, not_or] at h
    rw [List.cons_append, strings?, ih h.2]
    exact Ne.symm h.1

/-- The text does not go on with a quote, which would double the one before it. -/
def EndsString (t : List Char) : Prop := t.head? ≠ some '\''

theorem EndsString.append_of_not_mem (ht : EndsString t) (h : '\'' ∉ s) : EndsString (s ++ t) := by
  cases s with
  | nil => exact ht
  | cons c s =>
    simp only [List.mem_cons, not_or] at h
    simpa [EndsString] using Ne.symm h.1

theorem tailStrings?_doubled (h : EndsString rest) :
    tailStrings? (doubled '\'' s ++ '\'' :: rest) = (strings? rest).map fun ts => (s, ts) := by
  induction s with
  | nil =>
    show tailStrings? ('\'' :: rest) = _
    rw [tailStrings?]
    rintro rest' rfl
    exact h rfl
  | cons c s ih =>
    by_cases hc : c = '\''
    · simp [doubled_cons, hc, tailStrings?, ih, Function.comp_def]
    · simp [doubled_cons, hc, tailStrings?, ih, Function.comp_def]

/-- Read before a text that no quote starts, the text gives these string literals first. -/
def Spells (t : List Char) (a : List (List Char)) : Prop :=
  ∀ rest, EndsString rest → strings? (t ++ rest) = (strings? rest).map (a ++ ·)

theorem spells_of_not_mem (h : '\'' ∉ s) : Spells s [] := by
  intro rest _
  simp [strings?_append_of_not_mem h]

theorem spells_quoted (s : List Char) : Spells ('\'' :: (doubled '\'' s ++ ['\''])) [s] := by
  intro rest hr
  simp [strings?, tailStrings?_doubled hr, Function.comp_def]

theorem Spells.prepend (h : Spells t a) (hs : '\'' ∉ s) : Spells (s ++ t) a := by
  intro rest hr
  rw [List.append_assoc, strings?_append_of_not_mem hs, h rest hr]

theorem Spells.append (h : Spells s a) (h' : Spells t b) (ht : EndsString t) :
    Spells (s ++ t) (a ++ b) := by
  intro rest hr
  have he : EndsString (t ++ rest) := by
    cases t with
    | nil => exact hr
    | cons c t => exact ht
  rw [List.append_assoc, h _ he, h' rest hr, Option.map_map]
  simp [Function.comp_def]

theorem Spells.append_of_not_mem (h : Spells s a) (ht : '\'' ∉ t) : Spells (s ++ t) a := by
  have he : EndsString t := by
    simpa using EndsString.append_of_not_mem (t := []) nofun ht
  simpa using h.append (spells_of_not_mem ht) he

theorem Spells.strings? (h : Spells t a) : strings? t = some a := by
  simpa [GridQuery.strings?] using h [] nofun

theorem spells_intercalate {sep : List Char} (hs : '\'' ∉ sep) (hne : sep ≠ [])
    {texts : List (List Char)} {literals : List (List (List Char))}
    (h : List.Forall₂ Spells texts literals) : Spells (sep.intercalate texts) literals.flatten := by
  induction h with
  | nil => exact spells_of_not_mem (by simp)
  | @cons t a texts literals ht hr ih =>
    cases hr with
    | nil => simpa using ht
    | @cons t' a' texts literals ht' hr =>
      have he : EndsString (sep ++ sep.intercalate (t' :: texts)) := by
        obtain ⟨c, sep, rfl⟩ := List.exists_cons_of_ne_nil hne
        simp only [List.mem_cons, not_or] at hs
        simpa [EndsString] using Ne.symm hs.1
      have h := ht.append (ih.prepend hs) he
      simpa [List.intercalate_cons_cons] using h

end strings

def valueMarks : List Char := ['-', '+', ':', '.', ' ']

def callMarks : List Char := ['(', ')', ','] ++ valueMarks

section Values
open Decimal
variable {marks : List Char}

theorem exists_digitChar {b n : Nat} (hb : 1 < b) {c : Char} (h : c ∈ Nat.toDigits b n) :
    ∃ k < b, c = k.digitChar := by
  induction n using Nat.strongRecOn with
  | ind n ih =>
    rw [Nat.toDigits_eq_if hb] at h
    split at h
    · rename_i hn
      exact ⟨n, hn, List.mem_singleton.1 h⟩
    · rename_i hn
      obtain h | h := List.mem_append.1 h
      · exact ih (n / b) (Nat.div_lt_self (by omega) hb) h
      · exact ⟨n % b, Nat.mod_lt _ (by omega), List.mem_singleton.1 h⟩

theorem isWord_of_mem_toDigits {b n : Nat} (hb : 1 < b) (hb' : b ≤ 16) {c : Char}
    (h : c ∈ Nat.toDigits b n) : isWord c = true := by
  obtain ⟨k, hk, rfl⟩ := exists_digitChar hb h
  exact (by decide : ∀ k < 16, isWord (Nat.digitChar k) = true) k (by omega)

theorem madeOf_ofList {s : List Char} (h : ∀ c ∈ s, isWord c = true ∨ c ∈ marks) :
    MadeOf marks (String.ofList s) := by
  intro c hc
  exact h c (by simpa using hc)

theorem isWord_of_mem_filled {b n width : Nat} (hb : 1 < b) (hb' : b ≤ 16) {c : Char}
    (h : c ∈ List.replicate width '0' ++ Nat.toDigits b n) : isWord c = true := by
  obtain h | h := List.mem_append.1 h
  · rw [List.eq_of_mem_replicate h]
    decide
  · exact isWord_of_mem_toDigits hb hb' h

theorem madeOf_padded (width n : Nat) : MadeOf marks (padded width n) :=
  madeOf_ofList fun _ hc => .inl (isWord_of_mem_filled (by decide) (by decide) hc)

theorem madeOf_toString (n : Int) : MadeOf valueMarks (toString n) := by
  have hd (m : Nat) : MadeOf valueMarks (toString m) := fun c hc => .inl (isWord_of_mem_toString hc)
  cases n with
  | ofNat m => exact hd m
  | negSucc m => exact (by decide : MadeOf valueMarks "-").append (hd (m + 1))

theorem madeOf_dateTime (t : DateTime) : MadeOf valueMarks (t.text " ") := by
  have hp (width n : Nat) : MadeOf valueMarks (padded width n) := madeOf_padded width n
  have hy : MadeOf valueMarks t.yearText := by
    unfold DateTime.yearText
    split
    · exact hp _ _
    · refine .append ?_ (hp _ _)
      split <;> decide
  have hd : MadeOf valueMarks t.dateText :=
    (((hy.append (by decide)).append (hp _ _)).append (by decide)).append (hp _ _)
  have hc : MadeOf valueMarks t.clockText :=
    ((((hp _ _).append (by decide)).append (hp _ _)).append (by decide)).append (hp _ _)
  exact (((hd.append (by decide)).append hc).append (by decide)).append (hp _ _)

theorem madeOf_guid (g : Guid) : MadeOf valueMarks g.text := by
  have hd (width : Nat) (c : Char) : c ∈ List.replicate width '0' ++ Nat.toDigits 16 g.bits.toNat →
      isWord c = true := isWord_of_mem_filled (by decide) (by decide)
  unfold Guid.text
  refine madeOf_intercalate (by decide) ?_
  intro t ht
  simp only [List.mem_cons, List.not_mem_nil, or_false] at ht
  obtain rfl | rfl | rfl | rfl | rfl := ht <;>
    exact madeOf_ofList fun c hc => .inl (hd _ c (List.mem_of_mem_drop (List.mem_of_mem_take hc)))

theorem madeOf_hexText (b : List UInt8) : MadeOf valueMarks (Literal.hexText b) := by
  refine madeOf_ofList fun c hc => .inl ?_
  obtain ⟨byte, -, hc⟩ := List.mem_flatMap.1 hc
  have hw : ∀ k < 16, isWord (Nat.digitChar k).toUpper = true := by decide
  have hb := byte.toNat_lt
  simp only [hexByte, List.mem_cons, List.not_mem_nil, or_false] at hc
  obtain rfl | rfl := hc
  · exact hw _ (by omega)
  · exact hw _ (by omega)

theorem madeOf_digitsText (l : Layout) {digits : List Char} (e : Int)
    (hd : ∀ c ∈ digits, isWord c = true ∨ c ∈ valueMarks) :
    ∀ c ∈ l.digitsText digits e, isWord c = true ∨ c ∈ valueMarks := by
  have hz (n : Nat) : ∀ c ∈ List.replicate n '0', isWord c = true ∨ c ∈ valueMarks := by
    intro c hc
    rw [List.eq_of_mem_replicate hc]
    decide
  have ht (n : Nat) : ∀ c ∈ digits.take n, isWord c = true ∨ c ∈ valueMarks :=
    fun c hc => hd c (List.mem_of_mem_take hc)
  have hr (n : Nat) : ∀ c ∈ digits.drop n, isWord c = true ∨ c ∈ valueMarks :=
    fun c hc => hd c (List.mem_of_mem_drop hc)
  have he : ∀ c ∈ Nat.toDigits 10 e.natAbs, isWord c = true ∨ c ∈ valueMarks :=
    fun c hc => .inl (isWord_of_mem_toDigits (by decide) (by decide) hc)
  have hc : ∀ c ∈ ['0', '.', 'e', '-', '+'], isWord c = true ∨ c ∈ valueMarks := by decide
  simp only [List.forall_mem_cons, List.not_mem_nil, false_implies, implies_true, and_true] at hc
  obtain ⟨h0, hp, hx, hm, hq⟩ := hc
  unfold Layout.digitsText
  split
  · split
    · simp only [List.cons_append, List.forall_mem_cons, List.forall_mem_append]
      exact ⟨h0, hp, hz _, hd⟩
    · simp only [List.forall_mem_append, List.forall_mem_cons]
      refine ⟨⟨ht _, hz _⟩, hp, ?_⟩
      split
      · simpa using h0
      · exact hr _
  · simp only [List.forall_mem_append, List.forall_mem_cons]
    refine ⟨⟨⟨ht _, ?_⟩, hx, ?_⟩, he⟩
    · split
      · simp
      · exact List.forall_mem_cons.2 ⟨hp, hr _⟩
    · split
      · simpa using hm
      · split
        · simpa using hq
        · simp

theorem madeOf_layout (l : Layout) (x : Float) : MadeOf valueMarks (l.text x) := by
  have hs (n : Nat) : MadeOf valueMarks (if n = 1 then "-" else "") := by split <;> decide
  unfold Layout.text
  dsimp only
  split
  · split
    · exact (hs _).append (by decide)
    · decide
  · split
    · exact (hs _).append (by decide)
    · exact (hs _).append (madeOf_ofList (madeOf_digitsText l _ fun c hc =>
        .inl (isWord_of_mem_toDigits (by decide) (by decide) hc)))

end Values

theorem spells_value {t : String} (h : '\'' ∉ t.toList) :
    Spells ("'" ++ t ++ "'").toList [t.toList] := by
  have hq := spells_quoted t.toList
  rw [doubled_of_not_mem h] at hq
  simpa using hq

theorem spells_quoteString (s : String) : Spells (quoteString s).toList [s.toList] := by
  have hq : Spells (quotedText s).toList [s.toList] := by
    simpa [quotedText] using spells_quoted s.toList
  unfold quoteString
  split
  · exact hq
  · rw [String.toList_append]
    exact hq.prepend (by decide)

namespace Literal

/-- What the string literal spells that a script has for a value, if it has one. -/
def spelled? : Literal → Option (List Char)
  | string s => some s.toList
  | dateTime t => some (t.text " ").toList
  | guid g => some g.text.toList
  | bytes b => some ("0x" ++ hexText b).toList
  | null | bool _ | int _ | float _ | timeSpan _ => none

/-- A literal that is no string is written without quotes, or between them without further ones. -/
theorem value_of_quote {v : Literal} {t : String} (h : v.quote = .ok t) (hs : ∀ s, v ≠ .string s) :
    v.spelled? = none ∧ MadeOf valueMarks t ∨
      ∃ before content after, v.spelled? = some content.toList ∧ MadeOf valueMarks content ∧
        MadeOf callMarks before ∧ MadeOf callMarks after ∧
          t = before ++ ("'" ++ content ++ "'") ++ after := by
  cases v with
  | null =>
    cases h
    exact .inl ⟨rfl, by decide⟩
  | bool b =>
    cases h
    cases b <;> exact .inl ⟨rfl, by decide⟩
  | int n =>
    cases h
    exact .inl ⟨rfl, madeOf_toString _⟩
  | float x =>
    simp only [quote] at h
    split at h
    · cases h
      exact .inl ⟨rfl, madeOf_layout _ x⟩
    · cases h
  | string s => exact absurd rfl (hs s)
  | dateTime t =>
    cases h
    exact .inr ⟨"", _, "", rfl, madeOf_dateTime t, by decide, by decide, by simp⟩
  | timeSpan s => cases h
  | guid g =>
    cases h
    exact .inr ⟨"", _, "", rfl, madeOf_guid g, by decide, by decide, by simp⟩
  | bytes b =>
    cases h
    refine .inr ⟨"CONVERT(VARBINARY(MAX), ", _, ", 1)", rfl,
      .append (by decide) (madeOf_hexText b), by decide, by decide, ?_⟩
    simp [← String.toList_inj]

theorem spells_quote {v : Literal} {t : String} (h : v.quote = .ok t) :
    Spells t.toList v.spelled?.toList := by
  by_cases hs : ∃ s, v = .string s
  · obtain ⟨s, rfl⟩ := hs
    cases h
    exact spells_quoteString s
  · obtain ⟨hn, hm⟩ | ⟨before, content, after, hc, hm, hb, ha, rfl⟩ :=
      value_of_quote h (not_exists.1 hs)
    · rw [hn]
      exact spells_of_not_mem (hm.not_mem (by decide) (by decide))
    · rw [hc, String.toList_append, String.toList_append]
      have hv := spells_value (hm.not_mem (c := '\'') (by decide) (by decide))
      exact (hv.prepend (hb.not_mem (by decide) (by decide))).append_of_not_mem
        (ha.not_mem (by decide) (by decide))

theorem madeOf_quote {v : Literal} {t : String} (h : v.quote = .ok t) (hs : ∀ s, v ≠ .string s) :
    MadeOf ('\'' :: callMarks) t := by
  have hv : valueMarks ⊆ '\'' :: callMarks := by decide
  have hk : callMarks ⊆ '\'' :: callMarks := by decide
  have hq : MadeOf ('\'' :: callMarks) "'" := by decide
  obtain ⟨-, hm⟩ | ⟨before, content, after, -, hm, hb, ha, rfl⟩ := value_of_quote h hs
  · exact hm.mono hv
  · exact ((hb.mono hk).append ((hq.append (hm.mono hv)).append hq)).append (ha.mono hk)

end Literal
end GridQuery
