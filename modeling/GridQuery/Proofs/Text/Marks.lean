import GridQuery.Bindings
import GridQuery.Decimal.Numeral
import GridQuery.Fragment
import GridQuery.Text.Basic

/-! # Characters of written texts

A text that is made of word characters and of some marks has no other character. Identifiers are
made of word characters and brackets, whatever name they are written for. -/

namespace GridQuery.Text

section Decidable
variable {p : Char → Prop} [DecidablePred p]

-- a claim about the characters of a text is decided over these, not over all characters there are

instance (priority := high) decidableForallMemList (s : List Char) : Decidable (∀ c ∈ s, p c) :=
  List.decidableBAll p s

instance (priority := high) decidableForallMemOption (o : Option Char) :
    Decidable (∀ c ∈ o, p c) :=
  Option.decidableForallMem o

end Decidable

/-- What holds of two texts and of both together holds of a list with a separator. -/
theorem intercalate_induction {p : String → Prop} {sep : String} {items : List String}
    (hn : p "") (ha : ∀ s t, p s → p t → p (s ++ t)) (hs : p sep) (h : ∀ t ∈ items, p t) :
    p (sep.intercalate items) := by
  induction items with
  | nil => simpa using hn
  | cons t items ih =>
    obtain ⟨ht, hr⟩ := List.forall_mem_cons.1 h
    cases items with
    | nil => simpa using ht
    | cons t' items =>
      rw [String.intercalate_cons_cons]
      exact ha _ _ (ha _ _ ht hs) (ih hr)

def MadeOf (marks : List Char) (t : String) : Prop :=
  ∀ c ∈ t.toList, isWord c = true ∨ c ∈ marks

instance (marks : List Char) (t : String) : Decidable (MadeOf marks t) :=
  inferInstanceAs (Decidable (∀ c ∈ t.toList, isWord c = true ∨ c ∈ marks))

section MadeOf
variable {marks marks' : List Char} {s t : String} {c : Char}

theorem MadeOf.append (hs : MadeOf marks s) (ht : MadeOf marks t) : MadeOf marks (s ++ t) := by
  intro c hc
  rw [String.toList_append, List.mem_append] at hc
  exact hc.elim (hs c) (ht c)

theorem madeOf_intercalate {sep : String} {items : List String} (hs : MadeOf marks sep)
    (h : ∀ t ∈ items, MadeOf marks t) : MadeOf marks (sep.intercalate items) :=
  intercalate_induction nofun (fun _ _ => .append) hs h

theorem MadeOf.mono (h : MadeOf marks t) (hm : marks ⊆ marks') : MadeOf marks' t :=
  fun c hc => (h c hc).imp_right (@hm c)

theorem MadeOf.not_mem (h : MadeOf marks t) (hw : isWord c = false) (hm : c ∉ marks) :
    c ∉ t.toList := by
  intro hc
  rcases h c hc with h | h
  · simp [hw] at h
  · exact hm h

theorem madeOf_sanitize (name : String) : MadeOf marks (sanitize name) :=
  fun _ hc => .inl (isWord_of_mem_sanitize hc)

theorem madeOf_identifier (name : String) : MadeOf ['[', ']'] (identifier name) := by
  rw [identifier_eq]
  exact ((by decide : MadeOf ['[', ']'] "[").append (madeOf_sanitize name)).append (by decide)

theorem madeOf_qualified (schema name : String) :
    MadeOf ['[', ']', '.'] (qualified schema name) :=
  (((madeOf_identifier schema).mono (by decide)).append (by decide)).append
    ((madeOf_identifier name).mono (by decide))

theorem isWord_of_isDigit (h : c.isDigit = true) : isWord c = true := by
  simp [isWord, Char.isAlphanum, h]

theorem isDigit_of_mem_toString {n : Nat} (h : c ∈ (toString n).toList) : c.isDigit = true := by
  rw [Nat.toString_eq_repr, Nat.toList_repr] at h
  exact Nat.isDigit_of_mem_toDigits (by decide) (by decide) h

theorem isWord_of_mem_toString {n : Nat} (h : c ∈ (toString n).toList) : isWord c = true :=
  isWord_of_isDigit (isDigit_of_mem_toString h)

theorem digitsValue_toString (n : Nat) : Decimal.digitsValue (toString n).toList = n := by
  simp [Decimal.digitsValue, Nat.toString_eq_repr]

theorem madeOf_placeholder (n : Nat) : MadeOf ['@'] (placeholder n) :=
  (by decide : MadeOf ['@'] "@").append fun _ hc => .inl (isWord_of_mem_toString hc)

end MadeOf

theorem isWord_iff {c : Char} : isWord c = true ↔
    c.toNat = 95 ∨ (48 ≤ c.toNat ∧ c.toNat ≤ 57) ∨ (65 ≤ c.toNat ∧ c.toNat ≤ 90) ∨
      (97 ≤ c.toNat ∧ c.toNat ≤ 122) := by
  have hc : c = '_' ↔ c.toNat = 95 := ⟨by rintro rfl; rfl, fun h => Char.toNat_inj.1 h⟩
  have h : isWord c = (((decide (65 ≤ c.toNat ∧ c.toNat ≤ 90) ||
      (decide (97 ≤ c.toNat) && decide (c.toNat ≤ 122))) ||
      (decide (48 ≤ c.toNat) && decide (c.toNat ≤ 57))) || c == '_') := rfl
  rw [h]
  simp only [Bool.or_eq_true, Bool.and_eq_true, decide_eq_true_eq, beq_iff_eq, hc]
  omega

theorem toNat_toLower (c : Char) :
    c.toLower.toNat = if 65 ≤ c.toNat ∧ c.toNat ≤ 90 then c.toNat + 32 else c.toNat := by
  unfold Char.toLower
  split
  · rename_i h
    have hn : 65 ≤ c.toNat ∧ c.toNat ≤ 90 := by simpa [UInt32.le_iff_toNat_le] using h
    have hv : (c.val + 32).toNat = c.toNat + 32 := by
      have : c.val.toNat = c.toNat := rfl
      rw [UInt32.toNat_add]
      simp
      omega
    rw [if_pos hn]
    exact hv
  · rename_i h
    rw [if_neg]
    simpa [UInt32.le_iff_toNat_le] using h

theorem isWord_toLower (c : Char) : isWord c.toLower = isWord c := by
  rw [Bool.eq_iff_iff, isWord_iff, isWord_iff, toNat_toLower]
  split <;> omega

theorem isWord_of_map_toLower {s t : List Char} (h : s.map Char.toLower = t.map Char.toLower)
    (ht : ∀ c ∈ t, isWord c = true) : ∀ c ∈ s, isWord c = true := by
  intro c hc
  obtain ⟨d, hd, hl⟩ := List.mem_map.1 (h ▸ List.mem_map_of_mem hc)
  rw [← isWord_toLower, ← hl, isWord_toLower, ht d hd]

theorem isBlank_of_isWord {c : Char} (h : isWord c = true) : isBlank c = false := by
  have hc := isWord_iff.1 h
  simp only [isBlank, Ranges.has, Ranges.contains, blanks, List.any_cons, List.any_nil,
    Bool.or_false, Bool.or_eq_false_iff, Bool.and_eq_false_iff, decide_eq_false_iff_not]
  omega

section runs
variable {c : Char} {s t w : List Char} {p : Char → Bool}

/-- The text does not go on with a word. -/
def EndsWord (t : List Char) : Prop := ∀ c ∈ t.head?, isWord c = false

instance (t : List Char) : Decidable (EndsWord t) :=
  inferInstanceAs (Decidable (∀ c ∈ t.head?, isWord c = false))

@[simp] theorem endsWord_cons : EndsWord (c :: t) ↔ isWord c = false := by simp [EndsWord]

def StartsWord (t : List Char) : Prop := ∃ c ∈ t.head?, isWord c = true

@[simp] theorem startsWord_cons : StartsWord (c :: t) ↔ isWord c = true := by simp [StartsWord]

theorem takeWhile_append_of_ends (hw : ∀ c ∈ w, p c = true) (hs : ∀ c ∈ s.head?, p c = false) :
    (w ++ s).takeWhile p = w ∧ (w ++ s).dropWhile p = s := by
  rw [List.takeWhile_append_of_pos hw, List.dropWhile_append_of_pos hw]
  cases s with
  | nil => simp
  | cons c s => simp [hs c rfl]

theorem dropWhile_ends (s : List Char) : ∀ c ∈ (s.dropWhile p).head?, p c = false := by
  intro c hc
  have := List.head?_dropWhile_not p s
  simp_all

theorem takeWhile_isWord_append (h : EndsWord t) :
    (s ++ t).takeWhile isWord = s.takeWhile isWord := by
  have ht : t.takeWhile isWord = [] := by
    cases t with
    | nil => rfl
    | cons c t => simp [h c rfl]
  rw [List.takeWhile_append, ht]
  split
  · rename_i hl
    rw [List.append_nil, (List.takeWhile_prefix _).eq_of_length hl]
  · rfl

end runs

section Fragments
variable {marks : List Char} {fragments : Fragments} {items : List Fragments}

theorem madeOf_fragments (h : ∀ f ∈ fragments, MadeOf marks f.text) :
    MadeOf marks fragments.text := by
  induction fragments with
  | nil => simp [MadeOf]
  | cons f rest ih =>
    rw [Fragments.text_cons]
    exact (h f (by simp)).append (ih fun g hg => h g (by simp [hg]))

theorem mem_commaSeparated {f : Fragment} (h : f ∈ Fragments.commaSeparated items) :
    f = .comma ∨ f = .space ∨ ∃ item ∈ items, f ∈ item := by
  fun_induction Fragments.commaSeparated items with
  | case1 => simp at h
  | case2 item => exact .inr (.inr ⟨item, by simp, h⟩)
  | case3 item rest _ ih =>
    simp only [List.mem_append, List.mem_cons, List.not_mem_nil, or_false] at h
    rcases h with (h | rfl | rfl) | h
    · exact .inr (.inr ⟨item, by simp, h⟩)
    · exact .inl rfl
    · exact .inr (.inl rfl)
    · obtain h | h | ⟨i, hi, hf⟩ := ih h
      · exact .inl h
      · exact .inr (.inl h)
      · exact .inr (.inr ⟨i, by simp [hi], hf⟩)

theorem madeOf_commaSeparated (hc : ',' ∈ marks) (hs : ' ' ∈ marks)
    (h : ∀ item ∈ items, ∀ f ∈ item, MadeOf marks f.text) :
    ∀ f ∈ Fragments.commaSeparated items, MadeOf marks f.text := by
  intro f hf
  obtain rfl | rfl | ⟨item, hi, hf⟩ := mem_commaSeparated hf
  · exact (by decide : MadeOf [','] ",").mono (by simpa using hc)
  · exact (by decide : MadeOf [' '] " ").mono (by simpa using hs)
  · exact h item hi f hf

end Fragments

theorem lines_eq_nil_iff {s : List Char} : lines s = [] ↔ s = [] := by
  fun_cases lines s <;> simp_all

/-- A text without carriage returns whose last line has no end is its lines, joined again. -/
theorem intercalate_lines {s : List Char} (hr : '\r' ∉ s) (hn : s.getLast? ≠ some '\n') :
    List.intercalate ['\n'] (lines s) = s := by
  fun_induction lines s with
  | case1 => rfl
  | case2 rest ih =>
    have hne : rest ≠ [] := by
      rintro rfl
      simp at hn
    rw [List.intercalate_cons_of_ne_nil (mt lines_eq_nil_iff.1 hne),
      ih (by simpa using hr) (by simpa [List.getLast?_cons_of_ne_nil hne] using hn)]
    rfl
  | case3 rest ih => simp at hr
  | case4 c rest _ _ hl =>
    simp [lines_eq_nil_iff.1 hl]
  | case5 c rest _ _ line more hl ih =>
    have hne : rest ≠ [] := by
      rintro rfl
      simp [lines] at hl
    have hi := ih (by simp_all) (by simpa [List.getLast?_cons_of_ne_nil hne] using hn)
    rw [hl] at hi
    rw [List.intercalate_cons_cons_left, hi]

end GridQuery.Text
