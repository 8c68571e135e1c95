import GridQuery.Literal.Basic
import GridQuery.Proofs.Text.Delimited
import Mathlib.Data.List.Forall2

/-! # Strings in rows

A string literal says by itself where it ends, unless one more quote comes right behind it. So a
list of rows of such literals is read back cell by cell, whatever quotes, commas and parentheses
the strings have. -/

namespace GridQuery
open Text

def quotedString? : List Char → Option (String × List Char)
  | '\'' :: t => (upTo? '\'' t).map fun (s, rest) => (String.ofList s, rest)
  | _ => none

def stringLiteral? : List Char → Option (String × List Char)
  | 'N' :: t => quotedString? t
  | t => quotedString? t

/-- Reads items with a comma and a space between them, as long as there are more. -/
def items? {α : Type} (item? : List Char → Option (α × List Char)) (t : List Char) :
    Option (List α × List Char) :=
  match item? t with
  | none => none
  | some (a, ',' :: ' ' :: more) =>
    if more.length < t.length then
      (items? item? more).map fun (as, rest) => (a :: as, rest)
    else none
  | some (a, rest) => some ([a], rest)
termination_by t.length

def row? : List Char → Option (List String × List Char)
  | '(' :: ')' :: rest => some ([], rest)
  | '(' :: t =>
    match items? stringLiteral? t with
    | some (cells, ')' :: rest) => some (cells, rest)
    | _ => none
  | _ => none

/-- Reads a text as a list of rows, which may be empty. -/
def rows? : List Char → Option (List (List String))
  | [] => some []
  | t =>
    match items? row? t with
    | some (rows, []) => some rows
    | _ => none

section Literals
variable {s : String} {t rest : List Char}

theorem toList_quotedText (s : String) :
    (quotedText s).toList = '\'' :: (doubled '\'' s.toList ++ ['\'']) := by
  rw [quotedText, String.toList_ofList, List.cons_append]

theorem quotedString?_eq_some_iff :
    quotedString? t = some (s, rest) ↔
      t = (quotedText s).toList ++ rest ∧ rest.head? ≠ some '\'' := by
  rw [toList_quotedText]
  constructor
  · intro h
    unfold quotedString? at h
    split at h
    · obtain ⟨⟨text, rest'⟩, hu, he⟩ := Option.map_eq_some_iff.1 h
      cases he
      obtain ⟨rfl, hr⟩ := upTo?_eq_some_iff.1 hu
      exact ⟨by simp, hr⟩
    · cases h
  · rintro ⟨rfl, hr⟩
    have hu := upTo?_doubled (s := s.toList) hr
    simp [quotedString?, hu]

theorem stringLiteral?_eq_some_iff :
    stringLiteral? t = some (s, rest) ↔
      (t = (quotedText s).toList ++ rest ∨ t = 'N' :: ((quotedText s).toList ++ rest)) ∧
        rest.head? ≠ some '\'' := by
  have hn (u : List Char) : 'N' :: u ≠ (quotedText s).toList ++ rest := by
    simp [toList_quotedText]
  unfold stringLiteral?
  split
  · rw [quotedString?_eq_some_iff, List.cons.injEq]
    simp [hn]
  · rename_i ht
    have ht : t ≠ 'N' :: ((quotedText s).toList ++ rest) := ht _
    rw [quotedString?_eq_some_iff]
    simp [ht]

theorem stringLiteral?_quoteString (hr : rest.head? ≠ some '\'') :
    stringLiteral? ((quoteString s).toList ++ rest) = some (s, rest) := by
  refine stringLiteral?_eq_some_iff.2 ⟨?_, hr⟩
  unfold quoteString
  split
  · exact .inl rfl
  · exact .inr (by rw [String.toList_append]; rfl)

theorem head?_quoteString (s : String) :
    (quoteString s).toList.head? = some (if isAscii s then '\'' else 'N') := by
  unfold quoteString
  split
  · rw [toList_quotedText]
    rfl
  · rw [String.toList_append]
    rfl

theorem head?_quoteString_eq_iff :
    (quoteString s).toList.head? = some 'N' ↔ ∃ c ∈ s.toList, 128 ≤ c.toNat := by
  rw [head?_quoteString]
  simp [isAscii]

end Literals

section Items
variable {α : Type} {item? : List Char → Option (α × List Char)} {Follows : List Char → Prop}
  {a : α} {t rest more : List Char} {texts : List String} {values : List α}

/-- The reader gets the value back from its text, and leaves what comes behind if it may follow. -/
def ReadsBack (read? : List Char → Option (α × List Char)) (Follows : List Char → Prop)
    (t : String) (a : α) : Prop :=
  ∀ rest, Follows rest → read? (t.toList ++ rest) = some (a, rest)

theorem items?_last (h : item? t = some (a, rest)) (hr : ∀ more, rest ≠ ',' :: ' ' :: more) :
    items? item? t = some ([a], rest) := by
  rw [items?, h]
  split <;> simp_all

theorem items?_more (h : item? t = some (a, ',' :: ' ' :: more))
    (hl : more.length < t.length) :
    items? item? t = (items? item? more).map fun (as, rest) => (a :: as, rest) := by
  rw [items?, h]
  simp [hl]

theorem readsBack_commaList (h : List.Forall₂ (ReadsBack item? Follows) texts values)
    (hne : texts ≠ []) (hs : ∀ more, Follows (',' :: ' ' :: more)) :
    ReadsBack (items? item?) (fun rest => Follows rest ∧ ∀ more, rest ≠ ',' :: ' ' :: more)
      (commaList texts) values := by
  intro rest ⟨hf, hr⟩
  induction h with
  | nil => exact absurd rfl hne
  | @cons t a texts values ht h ih =>
    cases texts with
    | nil =>
      cases h
      exact items?_last (by simpa [commaList] using ht rest hf) hr
    | cons t' texts =>
      have hc : (commaList (t :: t' :: texts)).toList ++ rest =
          t.toList ++ ',' :: ' ' :: ((commaList (t' :: texts)).toList ++ rest) := by
        simp [commaList, String.intercalate_cons_cons]
      rw [hc, items?_more (ht _ (hs _)) (by simp; omega), ih (by simp)]
      rfl

end Items

section Rows
variable {cells : List String} {rows : List (List String)}

theorem readsBack_quoteString (s : String) :
    ReadsBack stringLiteral? (·.head? ≠ some '\'') (quoteString s) s :=
  fun _ hr => stringLiteral?_quoteString hr

theorem row?_of_items? {t rest : List Char}
    (h : items? stringLiteral? t = some (cells, ')' :: rest)) :
    row? ('(' :: t) = some (cells, rest) := by
  unfold row?
  split
  · rename_i hc
    -- no literal starts with a parenthesis
    cases hc
    rw [items?] at h
    cases h
  · rename_i hc
    cases hc
    simp only [h]
  · rename_i hn
    exact absurd rfl (hn t)

theorem readsBack_rowText (cells : List String) :
    ReadsBack row? (fun _ => True) (rowText (cells.map quoteString)) cells := by
  intro rest _
  cases hc : cells with
  | nil => rfl
  | cons s more =>
    have hl : List.Forall₂ (ReadsBack stringLiteral? (·.head? ≠ some '\''))
        (cells.map quoteString) cells :=
      List.forall₂_map_left_iff.2 (List.forall₂_same.2 fun s _ => readsBack_quoteString s)
    have hr := readsBack_commaList hl (by simp [hc]) (by simp) (')' :: rest) (by simp)
    simpa [rowText, hc] using row?_of_items? hr

theorem rows?_of_items? {t : List Char} (h : items? row? t = some (rows, [])) :
    rows? t = some rows := by
  cases t with
  | nil =>
    rw [items?] at h
    cases h
  | cons c t => simp only [rows?, h]

theorem rows?_rowList (rows : List (List String)) :
    rows? (rowList (rows.map (·.map quoteString))).toList = some rows := by
  cases hr : rows with
  | nil => rfl
  | cons cells more =>
    have hl : List.Forall₂ (ReadsBack row? fun _ => True)
        ((rows.map (·.map quoteString)).map rowText) rows := by
      rw [List.map_map]
      exact List.forall₂_map_left_iff.2
        (List.forall₂_same.2 fun cells _ => readsBack_rowText cells)
    have hi := readsBack_commaList hl (by simp [hr]) (by simp) [] (by simp)
    rw [← hr]
    exact rows?_of_items? (by simpa [rowList] using hi)

end Rows

variable {s : String} {rest : List Char}

/-- A string literal is read back to the string, and what comes behind it is left, unless this
starts with a quote. The literal has an `N` exactly if the string has a character beyond ASCII, and
the literals of the strings of rows are read back to the rows. -/
theorem stringLiteral?_quoteString_and_rows?_rowList (rows : List (List String))
    (hr : rest.head? ≠ some '\'') :
    stringLiteral? ((quoteString s).toList ++ rest) = some (s, rest) ∧
      ((quoteString s).toList.head? = some 'N' ↔ ∃ c ∈ s.toList, 128 ≤ c.toNat) ∧
      ∃ texts, (rows.mapM fun row => row.mapM fun s => (Literal.string s).quote) = .ok texts ∧
        rows? (rowList texts).toList = some rows := by
  refine ⟨stringLiteral?_quoteString hr, head?_quoteString_eq_iff, _, ?_, rows?_rowList rows⟩
  have hq (row : List String) :
      (row.mapM fun s => (Literal.string s).quote) = .ok (row.map quoteString) := List.mapM_pure
  simp only [hq]
  exact List.mapM_pure

theorem stringLiteral?_quoteString_and_rows?_rowList_breakingOut :
    stringLiteral? "N'Zoë''s''', ''''".toList = some ("Zoë's'", ", ''''".toList) ∧
      rows? "('''), (''', ''), (), (N'ë')".toList = some [["'), ('", ""], [], ["ë"]] := by
  obtain ⟨hs, -, texts, ht, hrows⟩ := stringLiteral?_quoteString_and_rows?_rowList (s := "Zoë's'")
    [["'), ('", ""], [], ["ë"]] (by decide : ", ''''".toList.head? ≠ some '\'')
  cases ht
  exact ⟨hs, hrows⟩

end GridQuery
