import GridQuery.Proofs.FilterText.Grammar
import Mathlib.Data.List.TakeWhile

/-! # Tokens of filter texts and their readers

Every reader takes from the start of a text what the grammar allows there, as much of it as
possible. The readers fold two more letters in keywords than ASCII has; one of them makes no
keyword, and with the other one, the long s, the word `false` is read as null. -/

namespace GridQuery.Filter
open Text Decimal
variable {s s₁ s₂ rest run w : List Char} {c : Char} {p : Char → Bool}

section Run

theorem Run.takeWhile_eq (h : Run p run s rest) : s.takeWhile p = run ∧ s.dropWhile p = rest := by
  obtain ⟨-, ha, rfl, he⟩ := h
  exact takeWhile_append_of_ends ha he

theorem Run.head?_eq (h : Run p run s rest) : ∃ c ∈ s.head?, p c = true := by
  obtain ⟨hn, ha, rfl, -⟩ := h
  cases run with
  | nil => exact absurd rfl hn
  | cons c run => exact ⟨c, rfl, ha c (by simp)⟩

theorem Run.startsWord (h : Run isWord run s rest) : StartsWord s := h.head?_eq

theorem run_takeWhile (h : s.takeWhile p ≠ []) : Run p (s.takeWhile p) s (s.dropWhile p) :=
  ⟨h, fun _ hc => List.mem_takeWhile_imp hc, List.takeWhile_append_dropWhile.symm,
    dropWhile_ends s⟩

theorem readName?_eq_some_iff {name : List Char} :
    readName? s = some (name, rest) ↔ Run isWord name s rest := by
  unfold readName?
  constructor
  · intro h
    simp only at h
    split at h
    · cases h
    · rename_i hn
      cases h
      exact run_takeWhile (by simpa using hn)
  · intro h
    obtain ⟨ht, hd⟩ := h.takeWhile_eq
    simp [ht, hd, h.ne_nil]

end Run

section Skips

@[simp] theorem skips_self (s : List Char) : Skips s s := ⟨[], by simp, rfl⟩

theorem skips_trimLeft (s : List Char) : Skips s (trimLeft s) :=
  ⟨s.takeWhile isBlank, fun _ hc => List.mem_takeWhile_imp hc,
    List.takeWhile_append_dropWhile.symm⟩

theorem Skips.trimLeft_eq (h : Skips s rest) (hr : ∀ c ∈ rest.head?, isBlank c = false) :
    trimLeft s = rest := by
  obtain ⟨w, hw, rfl⟩ := h
  exact (takeWhile_append_of_ends hw hr).2

end Skips

section Keyword
variable {keywords : List String} {keyword : String}

/-- The first letter of the text is folded in keywords like an ASCII letter. -/
def Unfolded (s : List Char) : Prop := ∀ c ∈ s.head?, foldedLetter c = c.toLower

theorem foldedLetter_eq (h : c.toNat ≠ 0x17F) (h' : c.toNat ≠ 0x212A) :
    foldedLetter c = c.toLower := by
  rw [foldedLetter, if_neg h, if_neg h']

theorem foldedLetter_of_isWord (h : isWord c = true) : foldedLetter c = c.toLower := by
  have := isWord_iff.1 h
  exact foldedLetter_eq (by omega) (by omega)

theorem foldedLetter_of_isBlank (h : isBlank c = true) : foldedLetter c = c.toLower := by
  have hn : c.toNat ≠ 0x17F ∧ c.toNat ≠ 0x212A := by
    simp only [isBlank, Ranges.has, Ranges.contains, blanks, List.any_cons, List.any_nil,
      Bool.or_false, Bool.or_eq_true, Bool.and_eq_true, decide_eq_true_eq] at h
    omega
  exact foldedLetter_eq hn.1 hn.2

theorem continuesWord_eq (h : foldedLetter c = c.toLower) : continuesWord c = isWord c := by
  rw [continuesWord, h, isWord_toLower]

theorem isWord_of_spells (hk : ∀ c ∈ keyword.toList, isWord c = true)
    (h : lowerAscii (String.ofList w) = keyword) : ∀ c ∈ w, isWord c = true := by
  intro c hc
  rw [← isWord_toLower]
  apply hk
  rw [← h, lowerAscii, String.toList_ofList, String.toList_ofList]
  exact List.mem_map_of_mem hc

theorem Spells.startsWord (h : Spells keyword s rest)
    (hw : ∀ c ∈ keyword.toList, isWord c = true) (hn : keyword ≠ "") : StartsWord s := by
  obtain ⟨w, hl, rfl⟩ := h
  cases w with
  | nil => exact absurd hl.symm hn
  | cons c w => exact startsWord_cons.2 (isWord_of_spells hw hl c (by simp))

theorem readKeyword?_of_keyword (h : Keyword keyword s rest) (hk : keyword ∈ keywords)
    (hw : ∀ c ∈ keyword.toList, isWord c = true) (hr : Unfolded rest) :
    ∃ w, readKeyword? keywords s = some (w, rest) ∧ lowerAscii (String.ofList w) = keyword := by
  obtain ⟨⟨w, hl, rfl⟩, he⟩ := h
  have hword := isWord_of_spells hw hl
  have hrun : ∀ c ∈ w, continuesWord c = true := fun c hc => by
    rw [continuesWord_eq (foldedLetter_of_isWord (hword c hc)), hword c hc]
  have hend : ∀ c ∈ rest.head?, continuesWord c = false := fun c hc => by
    rw [continuesWord_eq (hr c hc), he c hc]
  obtain ⟨ht, hd⟩ := takeWhile_append_of_ends hrun hend
  have hf : w.map foldedLetter = w.map Char.toLower :=
    List.map_congr_left fun c hc => foldedLetter_of_isWord (hword c hc)
  refine ⟨w, ?_, hl⟩
  have hl' : String.ofList (w.map Char.toLower) = keyword := by simpa [lowerAscii] using hl
  simp only [readKeyword?, ht, hd, hf, hl']
  simp [hk]

theorem foldedLetter_of_ne (hs : c ≠ '\u017F') (hk : foldedLetter c ≠ 'k') :
    foldedLetter c = c.toLower := by
  refine foldedLetter_eq (fun h => hs (Char.toNat_inj.1 h)) fun h => hk ?_
  rw [foldedLetter, if_neg (by omega), if_pos h]

/-- The only letters that fold otherwise are the long s and one that folds to a k. -/
theorem map_foldedLetter (hs : '\u017F' ∉ w) (hk : 'k' ∉ w.map foldedLetter) :
    w.map foldedLetter = w.map Char.toLower := by
  refine List.map_congr_left fun c hc => foldedLetter_of_ne ?_ fun hf => hk ?_
  · rintro rfl
    exact hs hc
  · rw [← hf]
    exact List.mem_map_of_mem hc

theorem readKeyword?_eq_some (h : readKeyword? keywords s = some (w, rest)) :
    String.ofList (w.map foldedLetter) ∈ keywords ∧ s = w ++ rest ∧ EndsWord rest := by
  simp only [readKeyword?] at h
  split at h
  · rename_i hc
    cases h
    refine ⟨List.contains_iff_mem.1 hc, List.takeWhile_append_dropWhile.symm, ?_⟩
    intro c hd
    have hn := dropWhile_ends s c hd
    by_contra hw
    rw [Bool.not_eq_false] at hw
    rw [continuesWord_eq (foldedLetter_of_isWord hw), hw] at hn
    cases hn
  · cases h

theorem keyword_of_unfolded (h : readKeyword? keywords s = some (w, rest))
    (hk : ∀ k ∈ keywords, 'k' ∉ k.toList) (hs : '\u017F' ∉ w) :
    lowerAscii (String.ofList w) ∈ keywords ∧ Keyword (lowerAscii (String.ofList w)) s rest := by
  obtain ⟨hm, rfl, he⟩ := readKeyword?_eq_some h
  rw [map_foldedLetter hs (by simpa using hk _ hm)] at hm
  exact ⟨by simpa [lowerAscii] using hm, ⟨w, rfl, rfl⟩, he⟩

end Keyword

section Negation

theorem readNegation?_eq_some_iff :
    readNegation? s = some rest ↔ ∃ s₁, Spells "not" s s₁ ∧ Skips s₁ ('(' :: rest) := by
  constructor
  · intro h
    unfold readNegation? at h
    split at h
    · rename_i n o t r
      split at h
      · rename_i hn
        split at h
        · rename_i rest' hr
          cases h
          refine ⟨r, ⟨[n, o, t], ?_, rfl⟩, hr ▸ skips_trimLeft r⟩
          simp [lowerAscii, hn]
        · cases h
      · cases h
    · cases h
  · rintro ⟨s₁, ⟨w, hw, rfl⟩, hs⟩
    have hm : w.map Char.toLower = ['n', 'o', 't'] := by
      simpa [lowerAscii] using congrArg String.toList hw
    obtain ⟨n, w, rfl, hn, hm⟩ := List.map_eq_cons_iff.1 hm
    obtain ⟨o, w, rfl, ho, hm⟩ := List.map_eq_cons_iff.1 hm
    obtain ⟨t, w, rfl, ht, hm⟩ := List.map_eq_cons_iff.1 hm
    obtain rfl := List.map_eq_nil_iff.1 hm
    have ht' := hs.trimLeft_eq (by simp; decide)
    simp [readNegation?, hn, ho, ht, ht']

end Negation

section Quoted

theorem readQuoted?_doubled (text : List Char) (hr : rest.head? ≠ some '\'') :
    readQuoted? (doubled '\'' text ++ '\'' :: rest) = some (text, rest) := by
  induction text with
  | nil =>
    show readQuoted? ('\'' :: rest) = _
    rw [readQuoted?]
    rintro r rfl
    simp at hr
  | cons c text ih =>
    rw [doubled_cons]
    split
    · rename_i hc
      subst hc
      simp [readQuoted?, ih]
    · rename_i hc
      rw [List.cons_append, List.nil_append, List.cons_append, readQuoted?, ih]
      · exact fun _ h => absurd h hc
      · exact hc

theorem eq_of_readQuoted? {text : List Char} (h : readQuoted? s = some (text, rest)) :
    s = doubled '\'' text ++ '\'' :: rest := by
  fun_induction readQuoted? s generalizing text with
  | case1 => cases h
  | case2 r t r' hr ih =>
    cases h
    rw [ih hr]
    rfl
  | case3 r _ _ =>
    cases h
    rfl
  | case4 r _ =>
    cases h
    rfl
  | case5 c r hq hq' t r' hr ih =>
    cases h
    rw [doubled_cons, if_neg hq', ih hr]
    rfl
  | case6 => cases h

end Quoted

section Number

theorem splitMinus_sign (negative : Bool) (hs : s.head? ≠ some '-') :
    splitMinus (sign negative ++ s) = (negative, s) := by
  cases negative
  · show splitMinus s = _
    unfold splitMinus
    split
    · simp at hs
    · rfl
  · rfl

theorem eq_sign_splitMinus (s : List Char) :
    s = sign (splitMinus s).1 ++ (splitMinus s).2 := by
  unfold splitMinus
  split <;> rfl

theorem readFraction_of_noFraction (h : NoFraction s) : readFraction s = ([], s) := by
  unfold readFraction
  split
  · rename_i r
    split
    · rfl
    · rename_i hn
      exact absurd (run_takeWhile (by simpa using hn)) (h _ r _ rfl)
  · rfl

theorem readFraction_of_run (h : Run Char.isDigit run s rest) :
    readFraction ('.' :: s) = (run, rest) := by
  obtain ⟨ht, hd⟩ := h.takeWhile_eq
  simp [readFraction, ht, hd, h.ne_nil]

theorem readFraction_cases (s : List Char) :
    (readFraction s = ([], s) ∧ NoFraction s) ∨
      ∃ s' fraction rest, s = '.' :: s' ∧ Run Char.isDigit fraction s' rest ∧
        readFraction s = (fraction, rest) := by
  by_cases h : NoFraction s
  · exact .inl ⟨readFraction_of_noFraction h, h⟩
  · simp only [NoFraction, not_forall, not_not] at h
    obtain ⟨fraction, s', rest, rfl, hr⟩ := h
    exact .inr ⟨s', fraction, rest, rfl, hr, readFraction_of_run hr⟩

theorem readNumber?_sign (negative : Bool) (h : Run Char.isDigit run s rest) :
    readNumber? (sign negative ++ s) =
      some (⟨negative, run, (readFraction rest).1⟩, (readFraction rest).2) := by
  have hs : s.head? ≠ some '-' := by
    obtain ⟨c, hc, hd⟩ := h.head?_eq
    rintro hm
    obtain rfl : c = '-' := by simpa using hc.symm.trans hm
    exact absurd hd (by decide)
  obtain ⟨ht, hd⟩ := h.takeWhile_eq
  simp [readNumber?, splitMinus_sign negative hs, ht, hd, h.ne_nil]

theorem run_of_readNumber? {n : NumberToken} (h : readNumber? s = some (n, rest)) :
    ∃ s₁ s₂, s = sign n.negative ++ s₁ ∧ Run Char.isDigit n.whole s₁ s₂ ∧
      readFraction s₂ = (n.fraction, rest) := by
  simp only [readNumber?] at h
  split at h
  · cases h
  · rename_i hw
    cases h
    exact ⟨_, _, eq_sign_splitMinus s, run_takeWhile (by simpa using hw), rfl⟩

end Number

section Value

def valueKeywords : List String := ["null", "true", "false"]

/-- The text goes on with nothing that a value could take in. -/
structure EndsValue (rest : List Char) : Prop where
  unfolded : Unfolded rest
  no_quote : rest.head? ≠ some '\''

theorem readKeyword?_valueKeywords (h : ∃ c ∈ s.head?, c.isDigit = true ∨ c = '-') :
    readKeyword? valueKeywords s = none := by
  obtain ⟨c, hc, h⟩ := h
  obtain ⟨t, rfl⟩ : ∃ t, s = c :: t := List.head?_eq_some_iff.1 hc
  rcases h with hd | rfl
  · have hw := isWord_of_isDigit hd
    have hf := foldedLetter_of_isWord hw
    have hn : 48 ≤ c.toNat ∧ c.toNat ≤ 57 := by
      simpa [Char.isDigit, UInt32.le_iff_toNat_le] using hd
    have hl : (foldedLetter c).toNat = c.toNat := by
      rw [hf, toNat_toLower, if_neg (by omega)]
    have hne (k : Char) (hk : 57 < k.toNat) : foldedLetter c ≠ k := by
      rintro rfl
      omega
    have h1 := hne 'n' (by decide)
    have h2 := hne 't' (by decide)
    have h3 := hne 'f' (by decide)
    simp [readKeyword?, valueKeywords, continuesWord_eq hf, hw, ← String.toList_inj, h1, h2, h3]
  · have hw : continuesWord '-' = false := by decide
    simp [readKeyword?, valueKeywords, hw]

theorem isWord_of_mem_valueKeywords : ∀ k ∈ valueKeywords, ∀ c ∈ k.toList, isWord c = true := by
  decide

theorem readValue_of_keyword {keyword : String} {v : Literal} (h : Keyword keyword s rest)
    (hk : keyword ∈ valueKeywords) (hr : Unfolded rest)
    (hv : ∀ w, lowerAscii (String.ofList w) = keyword → keywordLiteral w = v) :
    readValue s = .ok (v, rest) := by
  have hw := isWord_of_mem_valueKeywords keyword hk
  have hstart := h.1.startsWord hw (by rintro rfl; exact absurd hk (by decide))
  obtain ⟨w, hread, hl⟩ := readKeyword?_of_keyword h hk hw hr
  unfold readValue
  split
  · exact absurd (startsWord_cons.1 hstart) (by decide)
  · rw [readBareValue, ← valueKeywords, hread]
    simp [hv w hl]

theorem readValue_sign (h : Run Char.isDigit run s rest) (negative : Bool) :
    readValue (sign negative ++ s) =
      match NumberToken.literal? ⟨negative, run, (readFraction rest).1⟩ with
      | some v => .ok (v, (readFraction rest).2)
      | none => .error .numberOutOfRange := by
  obtain ⟨c, hc, hd⟩ := h.head?_eq
  have hh : ∃ c ∈ (sign negative ++ s).head?, c.isDigit = true ∨ c = '-' := by
    cases negative
    · exact ⟨c, hc, .inl hd⟩
    · exact ⟨'-', rfl, .inr rfl⟩
  have hk := readKeyword?_valueKeywords hh
  unfold readValue
  split
  · rename_i q hq
    rw [hq] at hh
    simp at hh
  · have hn := readNumber?_sign negative h
    rw [valueKeywords] at hk
    cases hv : NumberToken.literal? ⟨negative, run, (readFraction rest).1⟩ with
    | some v => simp only [readBareValue, hk, hn, hv]
    | none => simp only [readBareValue, hk, hn, hv]

theorem readValue_of_number (h : Run Char.isDigit run s rest) (negative : Bool) {v : Literal}
    (hv : NumberToken.literal? ⟨negative, run, (readFraction rest).1⟩ = some v) :
    readValue (sign negative ++ s) = .ok (v, (readFraction rest).2) := by
  rw [readValue_sign h, hv]

theorem readValue_of_denotes {v : Literal} (h : Denotes s v rest) (hr : EndsValue rest) :
    readValue s = .ok (v, rest) := by
  cases h with
  | quoted text => simp [readValue, readQuoted?_doubled text hr.no_quote]
  | null h =>
    exact readValue_of_keyword h (by decide) hr.unfolded fun w hw => by simp [keywordLiteral, hw]
  | bool b h =>
    refine readValue_of_keyword h (by cases b <;> decide) hr.unfolded fun w hw => ?_
    cases b <;> simp [keywordLiteral, hw]
  | integer negative n h hf hn =>
    have hl := readFraction_of_noFraction hf
    have hv := readValue_of_number (v := .int n) h negative (by
      rw [hl]
      simp only [NumberToken.literal?, List.isEmpty_nil, if_true, ← hn, signed?_toInt]
      rfl)
    rwa [hl] at hv
  | decimal negative h h' =>
    have hl := readFraction_of_run h'
    have hv := readValue_of_number h negative (by
      rw [hl]
      simp only [NumberToken.literal?, h'.ne_nil, List.isEmpty_eq_false_iff.2, ne_eq,
        not_false_eq_true]
      rfl)
    rwa [hl] at hv

theorem denotes_of_keyword (hm : lowerAscii (String.ofList w) ∈ valueKeywords)
    (hk : Keyword (lowerAscii (String.ofList w)) s rest) : Denotes s (keywordLiteral w) rest := by
  simp only [valueKeywords, List.mem_cons, List.not_mem_nil, or_false] at hm
  rcases hm with hm | hm | hm
  · rw [show keywordLiteral w = .null by simp [keywordLiteral, hm]]
    exact .null (hm ▸ hk)
  · rw [show keywordLiteral w = .bool true by simp [keywordLiteral, hm]]
    exact .bool true (hm ▸ hk)
  · rw [show keywordLiteral w = .bool false by simp [keywordLiteral, hm]]
    exact .bool false (hm ▸ hk)

theorem denotes_of_readNumber? {n : NumberToken} {v : Literal}
    (hn : readNumber? s = some (n, rest)) (hv : n.literal? = some v) : Denotes s v rest := by
  obtain ⟨s₁, s₂, rfl, hwhole, hf⟩ := run_of_readNumber? hn
  obtain ⟨he, hno⟩ | ⟨s₃, fraction, rest, rfl, hrun, he⟩ := readFraction_cases s₂
  · obtain ⟨hnil, rfl⟩ := Prod.mk.inj (hf.symm.trans he)
    obtain ⟨m, hm, rfl⟩ := Option.map_eq_some_iff.1 (by
      simpa [NumberToken.literal?, hnil] using hv)
    exact .integer n.negative m hwhole hno (toInt_of_signed? hm)
  · obtain ⟨rfl, rfl⟩ := Prod.mk.inj (hf.symm.trans he)
    obtain rfl := Option.some.inj (by simpa [NumberToken.literal?, hrun.ne_nil] using hv)
    exact .decimal n.negative hwhole hrun

/-- The text starts with the word `false`, in any case and with a long s for its s. -/
def LongFalse (s rest : List Char) : Prop :=
  ∃ w, String.ofList (w.map foldedLetter) = "false" ∧ '\u017F' ∈ w ∧ s = w ++ rest ∧ EndsWord rest

theorem keywordLiteral_of_longS (h : '\u017F' ∈ w) : keywordLiteral w = .null := by
  have hl : '\u017F' ∈ (lowerAscii (String.ofList w)).toList := by
    rw [lowerAscii, String.toList_ofList, String.toList_ofList]
    exact List.mem_map.2 ⟨_, h, by decide⟩
  unfold keywordLiteral
  split
  · rename_i ht
    exact absurd (ht ▸ hl) (by decide)
  · rename_i hf
    exact absurd (hf ▸ hl) (by decide)
  · rfl

theorem denotes_or_longFalse_of_readKeyword? (h : readKeyword? valueKeywords s = some (w, rest)) :
    Denotes s (keywordLiteral w) rest ∨ keywordLiteral w = .null ∧ LongFalse s rest := by
  by_cases hw : '\u017F' ∈ w
  -- the letter folds to an s, and `false` is the only one of the words with it
  · obtain ⟨hm, hs, he⟩ := readKeyword?_eq_some h
    have hl : 's' ∈ (String.ofList (w.map foldedLetter)).toList := by
      rw [String.toList_ofList]
      exact List.mem_map.2 ⟨_, hw, by decide⟩
    have hf : String.ofList (w.map foldedLetter) = "false" := by
      simp only [valueKeywords, List.mem_cons, List.not_mem_nil, or_false] at hm
      rcases hm with hm | hm | hm
      · exact absurd (hm ▸ hl) (by decide)
      · exact absurd (hm ▸ hl) (by decide)
      · exact hm
    exact .inr ⟨keywordLiteral_of_longS hw, w, hf, hw, hs, he⟩
  · obtain ⟨hm, hk⟩ := keyword_of_unfolded h (by decide) hw
    exact .inl (denotes_of_keyword hm hk)

theorem denotes_or_longFalse_of_readBareValue {v : Literal}
    (h : readBareValue s = .ok (v, rest)) : Denotes s v rest ∨ v = .null ∧ LongFalse s rest := by
  unfold readBareValue at h
  split at h
  · rename_i w rest' hw
    cases h
    exact denotes_or_longFalse_of_readKeyword? hw
  · split at h
    · rename_i n rest' hn
      split at h
      · rename_i v' hv
        cases h
        exact .inl (denotes_of_readNumber? hn hv)
      · cases h
    · cases h

/-- A value is read as what its token denotes, but for one word that is read as null. -/
theorem denotes_or_longFalse_of_readValue {v : Literal} (h : readValue s = .ok (v, rest)) :
    Denotes s v rest ∨ v = .null ∧ LongFalse s rest := by
  unfold readValue at h
  split at h
  · split at h
    · rename_i hq
      cases h
      rw [eq_of_readQuoted? hq]
      exact .inl (.quoted _ _)
    · exact denotes_or_longFalse_of_readBareValue h
  · exact denotes_or_longFalse_of_readBareValue h

theorem denotes_of_readValue {v : Literal} (h : readValue s = .ok (v, rest))
    (hs : '\u017F' ∉ s) : Denotes s v rest := by
  obtain hd | ⟨-, w, -, hw, rfl, -⟩ := denotes_or_longFalse_of_readValue h
  · exact hd
  · exact absurd (List.mem_append_left _ hw) hs

end Value

end GridQuery.Filter
