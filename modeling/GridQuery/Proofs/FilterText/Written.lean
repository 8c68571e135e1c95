import GridQuery.Filter.Condition
import GridQuery.Proofs.FilterArray.Written
import GridQuery.Proofs.FilterText.Complete

/-! # Filters written as text

A filter that compares word columns with scalars is written as a text in which only connectives on
the right of connectives stand in parentheses. The scanner reads it back: quotes, signs, names that
look like keywords and nested negations all come out as they went in. So the text and the array of
a filter mean the same. -/

namespace GridQuery
open Text

/-- The literal as filter texts have it; a kind that they do not know is left out. -/
def Literal.text : Literal → String
  | null => "null"
  | bool b => if b then "true" else "false"
  | int n => toString n.toInt
  | string s => "'" ++ String.ofList (doubled '\'' s.toList) ++ "'"
  | _ => ""

namespace Filter

def inParens (text : String) : String := "(" ++ text ++ ")"

def text : Filter → String
  | column name => name
  | literal v => v.text
  | compare left op right => left.text ++ " " ++ op.keyword ++ " " ++ right.text
  | combine left op right =>
    left.text ++ " " ++ connectiveKeyword op ++ " " ++
      if right.isCombination then inParens right.text else right.text
  | not inner => "not " ++ inParens inner.text

def IsName (name : String) : Prop := name ≠ "" ∧ ∀ c ∈ name.toList, isWord c = true

instance (name : String) : Decidable (IsName name) :=
  inferInstanceAs (Decidable (name ≠ "" ∧ ∀ c ∈ name.toList, isWord c = true))

theorem IsName.ne_bang {name : String} (h : IsName name) : name ≠ "!" := by
  rintro rfl
  exact absurd h (by decide)

/-- What a written filter is followed by: a space, the end of a group, or nothing. -/
def Separated (rest : List Char) : Prop := ∀ c ∈ rest.head?, c = ' ' ∨ c = ')'

section Written
variable {f : Filter} {v : Literal} {rest s : List Char}

theorem separated_nil : Separated [] := nofun

@[simp] theorem separated_space : Separated (' ' :: s) := by simp [Separated]

@[simp] theorem separated_rightParen : Separated (')' :: s) := by simp [Separated]

theorem Separated.ends {p : Char → Bool} (hs : p ' ' = false) (hp : p ')' = false)
    (h : Separated rest) : ∀ c ∈ rest.head?, p c = false := by
  intro c hc
  rcases h c hc with rfl | rfl
  · exact hs
  · exact hp

theorem Separated.endsWord (h : Separated rest) : EndsWord rest := h.ends (by decide) (by decide)

theorem Separated.noFraction (h : Separated rest) : NoFraction rest := by
  rintro _ s' _ rfl
  rcases h '.' rfl with h | h <;> cases h

theorem keyword_append {word : String} (hw : lowerAscii word = word) (h : EndsWord rest) :
    Keyword word (word.toList ++ rest) rest :=
  ⟨⟨word.toList, by rwa [String.ofList_toList], rfl⟩, h⟩

theorem run_toString (n : Nat) (h : Separated rest) :
    Run Char.isDigit (toString n).toList ((toString n).toList ++ rest) rest where
  ne_nil := by simp [Nat.toString_eq_repr]
  all _ := isDigit_of_mem_toString
  eq := rfl
  ends := h.ends (by decide) (by decide)

theorem denotes_int (n : Int64) (h : Separated rest) :
    Denotes ((toString n.toInt).toList ++ rest) (.int n) rest := by
  cases hn : n.toInt with
  | ofNat m =>
    exact .integer false n (run_toString m h) h.noFraction (by
      rw [hn, digitsValue_toString]
      rfl)
  | negSucc m =>
    have ht : (toString (Int.negSucc m)).toList = sign true ++ (toString (m + 1)).toList := by
      show ("-" ++ Nat.repr (m + 1)).toList = _
      simp [sign, Nat.toString_eq_repr]
    rw [ht, List.append_assoc]
    exact .integer true n (run_toString (m + 1) h) h.noFraction (by
      rw [hn, digitsValue_toString]
      rfl)

theorem denotes_text (hv : v.isScalar = true) (h : Separated rest) :
    Denotes (v.text.toList ++ rest) v rest := by
  cases v with
  | null => exact .null (keyword_append (by decide) h.endsWord)
  | bool b => cases b <;> exact .bool _ (keyword_append (by decide) h.endsWord)
  | int n => exact denotes_int n h
  | string s => simpa [Literal.text] using Denotes.quoted s.toList rest
  | _ => cases hv

theorem skips_space (s : List Char) : Skips (' ' :: s) s := ⟨[' '], by decide, rfl⟩

def part (f : Filter) : Part := if f.isCombination then .filter else .term

theorem derives_filter (h : Derives f.part s f rest) : Derives .filter s f rest := by
  unfold part at h
  split at h
  · exact h
  · exact .term h

theorem derives_inParens {t : String}
    (h : Derives f.part (t.toList ++ ')' :: rest) f (')' :: rest)) :
    Derives .term ((inParens t).toList ++ rest) f rest := by
  simpa [inParens] using Derives.group (skips_self _) (derives_filter h) (skips_self _)

theorem derives_compare {name : String} (hn : IsName name) (op : Comparison)
    (hv : v.isScalar = true) (h : Separated rest) :
    Derives .term ((compare (column name) op (literal v)).text.toList ++ rest)
      (compare (column name) op (literal v)) rest := by
  have hd := denotes_text hv h
  have hk : Keyword op.keyword (op.keyword.toList ++ ' ' :: (v.text.toList ++ rest)) _ :=
    keyword_append (by cases op <;> decide) (by simp; decide)
  have hr : Run isWord name.toList
      (name.toList ++ ' ' :: (op.keyword.toList ++ ' ' :: (v.text.toList ++ rest))) _ :=
    ⟨by simpa using hn.1, hn.2, rfl, by simp; decide⟩
  simpa [text] using Derives.comparison op hr (skips_space _) hk (skips_space _) hd

/-- A written filter is derived, whatever it is separated from behind it. -/
theorem derives_text (hf : Plain IsName f) :
    ∀ {rest}, Separated rest → Derives f.part (f.text.toList ++ rest) f rest := by
  induction hf with
  | compare op hn hv => exact derives_compare hn op hv
  | @combine left right op _ _ ihl ihr =>
    intro rest hr
    have hk (s : List Char) :
        Keyword (connectiveKeyword op) ((connectiveKeyword op).toList ++ ' ' :: s) (' ' :: s) :=
      keyword_append (by cases op <;> decide) (by simp; decide)
    have hright : Derives .term ((if right.isCombination then inParens right.text
        else right.text).toList ++ rest) right rest := by
      split
      · exact derives_inParens (ihr separated_rightParen)
      · rename_i hc
        simpa [part, hc] using ihr hr
    have h := Derives.connective op (derives_filter (ihl separated_space)) (skips_space _)
      (hk _) (skips_space _) hright
    simpa [part, isCombination, text] using h
  | not _ ih =>
    intro rest hr
    have hs (s : List Char) : Spells "not" (['n', 'o', 't'] ++ s) s := ⟨_, by decide, rfl⟩
    have h := Derives.negation (hs _) (skips_space _) (skips_self _)
      (derives_filter (ih separated_rightParen)) (skips_self (')' :: rest))
    simpa [part, isCombination, text, inParens] using h

theorem ofText_text (hf : Plain IsName f) : ofText f.text = .ok f := by
  have h := derives_filter (derives_text hf separated_nil)
  exact ofText_of_filterText ⟨_, [], skips_self _, by simpa using h, skips_self _⟩

/-- The text and the array of a filter are both read as the filter, so they give one condition
with one sequence of bindings. -/
theorem ofText_text_and_ofJson_array (hf : Plain IsName f) (sp : Spelling) :
    ofText f.text = .ok f ∧ ofJson (f.array sp) = .ok f ∧
      ∀ b, (ofText f.text).map (·.condition b) = (ofJson (f.array sp)).map (·.condition b) := by
  have ht := ofText_text hf
  have ha := ofJson_array (hf.mono fun _ h => h.ne_bang) sp
  exact ⟨ht, ha, fun b => by rw [ht, ha]⟩

theorem ofText_text_and_ofJson_array_keywordNames :
    let f := combine (compare (column "not") .eq (literal (.string "O'Neil'"))) .or
      (combine (not (not (compare (column "null") .lt (literal (.int Int64.minValue))))) .and
        (compare (column "and") .notContains (literal .null)))
    f.text = "not eq 'O''Neil''' or " ++
        "(not (not (null lt -9223372036854775808)) and and notcontains null)" ∧
      ofText f.text = .ok f ∧ ofJson (f.array .symbols) = .ok f ∧
      ofJson (f.array .keywords) = .ok f := by
  intro f
  have hf : Plain IsName f :=
    .combine _ (.compare _ (by decide) rfl)
      (.combine _ (.not (.not (.compare _ (by decide) rfl))) (.compare _ (by decide) rfl))
  obtain ⟨ht, ha, -⟩ := ofText_text_and_ofJson_array hf .symbols
  exact ⟨by decide +kernel, ht, ha, (ofText_text_and_ofJson_array hf .keywords).2.1⟩

end Written
end Filter
end GridQuery
