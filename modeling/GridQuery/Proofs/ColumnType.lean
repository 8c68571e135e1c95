import GridQuery.ColumnType
import GridQuery.Decimal.Numeral
import GridQuery.Proofs.Result
import GridQuery.Proofs.Text.Words

/-! # Definitions of column types

A definition is the keyword of a type with what its shape asks for behind it. Read as the name of a
type it names the type again, in any case and with white space around it. The only definitions that
fail are those of program types that no canonical type has, and of fixed lengths beyond the bound. -/

namespace GridQuery
open Text Decimal

def TypeShape.bound? : TypeShape → Option Nat
  | .length bound | .fixed bound => some bound
  | _ => none

namespace ColumnType

/-- The type is the one that is chosen for a program type. -/
structure IsCanonical (runtime : String) (t : ColumnType) : Prop where
  mem : t ∈ catalog
  canonical : t.canonical = true
  runtime : t.runtime = runtime

/-- The text in any case of its letters, with white space around it. -/
def Varies (text s : String) : Prop :=
  ∃ before core after, Blank before ∧ Blank after ∧
    equalIgnoringCase (String.ofList core) text = true ∧ s.toList = before ++ (core ++ after)

/-- The text ends with a length in parentheses. -/
def Shows (text : String) (length : Nat) : Prop :=
  ∃ before digits, text.toList = before ++ '(' :: (digits ++ [')']) ∧ digits ≠ [] ∧
    (∀ c ∈ digits, c.isDigit = true) ∧ digitsValue digits = length

structure Defines (t : ColumnType) (length : Option Nat) (text : String) : Prop where
  /-- The text names the type, in any case and with white space around it. -/
  named : ∀ s, Varies text s → named s = .ok t
  /-- A length in the text is the one that was asked for, or 1, and keeps the bound of the type. -/
  bounded : ∀ n, Shows text n → n = length.getD 1 ∧
    ∃ bound, t.shape.bound? = some bound ∧ 1 ≤ n ∧ n ≤ bound
  /-- A length that the type can have is in the text, if it was asked for. -/
  shows : ∀ n bound, length = some n → t.shape.bound? = some bound → 1 ≤ n → n ≤ bound →
    Shows text n
  /-- A type of fixed length always has one, and never `MAX`. -/
  fixed : ∀ bound, t.shape = .fixed bound →
    Shows text (length.getD 1) ∧ ¬ "MAX".toList <:+: text.toList

/-- Why no type is chosen for the program type, or why it cannot have the length. -/
inductive Undefined (runtime : String) : Option Nat → TypeError → Prop where
  | unsupported {length : Option Nat} :
      (∀ t, ¬ IsCanonical runtime t) → Undefined runtime length (.unsupported runtime)
  | invalidLength {t : ColumnType} {bound n : Nat} : IsCanonical runtime t →
      t.shape = .fixed bound → n = 0 ∨ bound < n →
      Undefined runtime (some n) (.invalidLength t.keyword n)

inductive Behind (length : Option Nat) : TypeShape → List Char → Prop where
  | plain : Behind length .plain []
  | sized {shape : TypeShape} {bound n : Nat} : shape.bound? = some bound → n = length.getD 1 →
      1 ≤ n → n ≤ bound → Behind length shape ('(' :: ((toString n).toList ++ [')']))
  | max {bound : Nat} : (∀ n, length = some n → ¬ (1 ≤ n ∧ n ≤ bound)) →
      Behind length (.length bound) ("(MAX)".toList)
  | precision (digits scale p s : Nat) : Behind length (.precision digits scale)
      ('(' :: ((toString p).toList ++ ',' :: ((toString s).toList ++ [')'])))

section Catalog
variable {t t' : ColumnType} {runtime : String}

-- what the catalog says of all its types is decided once

theorem keyword_toLower : ∀ t ∈ catalog, t.keyword.toList.map Char.toLower = t.name.toList := by
  decide

theorem keyword_ne_nil : ∀ t ∈ catalog, t.keyword.toList ≠ [] := by decide

theorem isWord_of_mem_keyword : ∀ t ∈ catalog, ∀ c ∈ t.keyword.toList, isWord c = true := by
  decide

theorem plain_of_mem_keyword : ∀ t ∈ catalog, 'X' ∈ t.keyword.toList → t.shape = .plain := by
  decide

theorem bound?_ne_zero : ∀ t ∈ catalog, t.shape.bound? ≠ some 0 := by decide

theorem find?_name : ∀ t ∈ catalog, catalog.find? (·.name == t.name) = some t := by decide

theorem find?_runtime : ∀ t ∈ catalog, t.canonical = true →
    catalog.find? (fun u => u.canonical && u.runtime == t.runtime) = some t := by decide

theorem forRuntime_eq_ok_iff : forRuntime runtime = .ok t ↔ IsCanonical runtime t := by
  constructor
  · intro h
    unfold forRuntime at h
    split at h
    · rename_i hf
      cases h
      have hp := List.find?_some hf
      rw [Bool.and_eq_true, beq_iff_eq] at hp
      exact ⟨List.mem_of_find?_eq_some hf, hp.1, hp.2⟩
    · cases h
  · rintro ⟨hm, hc, rfl⟩
    rw [forRuntime, find?_runtime t hm hc]

theorem IsCanonical.eq (h : IsCanonical runtime t) (h' : IsCanonical runtime t') : t' = t := by
  have ht := forRuntime_eq_ok_iff.2 h'
  rw [forRuntime_eq_ok_iff.2 h] at ht
  exact (Except.ok.inj ht).symm

theorem forRuntime_eq_error_iff {e : TypeError} :
    forRuntime runtime = .error e ↔ e = .unsupported runtime ∧ ∀ t, ¬ IsCanonical runtime t := by
  simp only [← forRuntime_eq_ok_iff]
  unfold forRuntime
  split
  · simp
  · simp [eq_comm]

end Catalog

section Named
variable {t : ColumnType} {s text : String} {u word tail : List Char}

theorem lowerFrom_of_isWord (before : List Char) (hu : ∀ c ∈ u, isWord c = true) :
    lowerFrom before u = u.map Char.toLower := by
  induction u generalizing before with
  | nil => rfl
  | cons c u ih =>
    obtain ⟨hc, hu⟩ := List.forall_mem_cons.1 hu
    have hascii : c.toNat < 128 := by
      have := isWord_iff.1 hc
      omega
    have hsigma : c ≠ 'Σ' := by
      rintro rfl
      exact absurd hascii (by decide)
    simp [lowerFrom, lowerChar, hsigma, hascii, ih _ hu]

theorem eq_paren_of_toLower {c : Char} (h : c.toLower = '(') : c = '(' := by
  have hn := congrArg Char.toNat h
  rw [toNat_toLower] at hn
  apply Char.toNat_inj.1
  split at hn <;> simp at hn ⊢ <;> omega

theorem forall_ne_paren {p : Char → Bool} (hp : p '(' = false) (hs : ∀ c ∈ u, p c = true) :
    ∀ c ∈ u, (c != '(') = true := by
  intro c hc
  rw [bne_iff_ne]
  rintro rfl
  exact absurd (hs _ hc) (by simp [hp])

theorem exists_takeWhile_of_varies (ht : text.toList = word ++ tail)
    (hp : ∀ c ∈ tail.head?, c = '(') (hw : ∀ c ∈ word, isWord c = true) (h : Varies text s) :
    ∃ before u after, Blank before ∧ Blank after ∧ u.map Char.toLower = word.map Char.toLower ∧
      (∀ c ∈ u, isWord c = true) ∧ s.toList.takeWhile (· != '(') = before ++ (u ++ after) := by
  obtain ⟨before, core, after, hb, ha, hc, hs⟩ := h
  have hmap : core.map Char.toLower = (word ++ tail).map Char.toLower := by
    simpa only [equalIgnoringCase, lowerAscii, beq_iff_eq, String.ofList_inj,
      String.toList_ofList, ht] using hc
  rw [List.map_append] at hmap
  obtain ⟨u, v, rfl, hu, hv⟩ := List.map_eq_append_iff.1 hmap
  have huw : ∀ c ∈ u, isWord c = true := isWord_of_map_toLower hu hw
  have hbefore := forall_ne_paren (by decide) hb
  have hafter := forall_ne_paren (by decide) ha
  have hword := forall_ne_paren (by decide) huw
  rw [List.append_assoc] at hs
  cases v with
  | nil =>
    refine ⟨before, u, after, hb, ha, hu, huw, ?_⟩
    rw [hs, List.nil_append, List.takeWhile_eq_self_iff]
    simp only [List.mem_append]
    rintro c (hc | hc | hc)
    · exact hbefore c hc
    · exact hword c hc
    · exact hafter c hc
  | cons c v =>
    -- the character behind the word is what the parenthesis of the text was, in either case
    have hparen : c = '(' := by
      obtain ⟨d, rest, rfl, hd, -⟩ := List.map_eq_cons_iff.1 hv.symm
      exact eq_paren_of_toLower (by rw [← hd, hp d rfl]; rfl)
    refine ⟨before, u, [], hb, nofun, hu, huw, ?_⟩
    rw [hs, List.append_nil, ← List.append_assoc]
    refine (takeWhile_append_of_ends ?_ ?_).1
    · intro c hc
      exact (List.mem_append.1 hc).elim (hbefore c) (hword c)
    · simp [hparen]

/-- A text names the type whose keyword it has, in any case, with nothing or a parenthesis behind
it. -/
theorem named_of_varies (ht : t ∈ catalog) (htext : text.toList = t.keyword.toList ++ tail)
    (hp : ∀ c ∈ tail.head?, c = '(') (h : Varies text s) : named s = .ok t := by
  obtain ⟨before, u, after, hb, ha, hu, huw, hs⟩ :=
    exists_takeWhile_of_varies htext hp (isWord_of_mem_keyword t ht) h
  have hword : IsWord u := by
    refine ⟨?_, fun c hc => isBlank_of_isWord (huw c hc)⟩
    rintro rfl
    exact keyword_ne_nil t ht (List.map_eq_nil_iff.1 hu.symm)
  have hname : baseName s = t.name := by
    rw [baseName, hs, trim_append hb hword ha, lower, String.toList_ofList,
      lowerFrom_of_isWord [] huw, hu, keyword_toLower t ht, String.ofList_toList]
  rw [named, hname, find?_name t ht]

end Named

section Behind
variable {t : ColumnType} {length : Option Nat} {precision : Option (Nat × Nat)} {text : String}
  {tail : List Char} {shape : TypeShape} {n : Nat}

theorem exists_behind (h : t.definition length precision = .ok text) :
    ∃ tail, text.toList = t.keyword.toList ++ tail ∧ Behind length t.shape tail := by
  unfold definition at h
  cases hs : t.shape with
  | plain =>
    rw [hs] at h
    cases h
    exact ⟨[], (List.append_nil _).symm, .plain⟩
  | length bound =>
    rw [hs] at h
    cases length with
    | none =>
      cases h
      exact ⟨_, String.toList_append, .max nofun⟩
    | some n =>
      dsimp only at h
      split at h
      · rename_i hn
        cases h
        exact ⟨_, by simp, .sized rfl rfl hn.1 hn.2⟩
      · rename_i hn
        cases h
        exact ⟨_, String.toList_append, .max fun m hm => Option.some_inj.1 hm ▸ hn⟩
  | fixed bound =>
    rw [hs] at h
    dsimp only at h
    split at h
    · rename_i hn
      cases h
      exact ⟨_, by simp, .sized rfl rfl hn.1 hn.2⟩
    · cases h
  | precision digits scale =>
    rw [hs] at h
    cases precision with
    | none =>
      cases h
      exact ⟨_, by simp, .precision digits scale digits scale⟩
    | some p =>
      cases h
      exact ⟨_, by simp, .precision digits scale p.1 p.2⟩

theorem not_mem_toString {c : Char} (hc : c.isDigit = false) : c ∉ (toString n).toList :=
  fun h => absurd (isDigit_of_mem_toString h) (by simp [hc])

/-- A parenthesis only opens right behind the keyword. -/
theorem Behind.opens (h : Behind length shape tail) :
    tail = [] ∨ ∃ inner, tail = '(' :: inner ∧ '(' ∉ inner := by
  cases h with
  | plain => exact .inl rfl
  | sized => exact .inr ⟨_, rfl, by simp [-Nat.toString_eq_repr, not_mem_toString]⟩
  | max => exact .inr ⟨_, rfl, by decide⟩
  | precision => exact .inr ⟨_, rfl, by simp [-Nat.toString_eq_repr, not_mem_toString]⟩

theorem Behind.head?_eq (h : Behind length shape tail) : ∀ c ∈ tail.head?, c = '(' := by
  obtain rfl | ⟨inner, rfl, -⟩ := h.opens <;> simp

/-- Only a length is all digits up to the parenthesis that closes. -/
theorem Behind.bounded_of_shows (h : Behind length shape tail) {word : List Char}
    (hw : ∀ c ∈ word, isWord c = true) (ht : text.toList = word ++ tail) (hn : Shows text n) :
    n = length.getD 1 ∧ ∃ bound, shape.bound? = some bound ∧ 1 ≤ n ∧ n ≤ bound := by
  obtain ⟨before, digits, hd, -, hdigits, rfl⟩ := hn
  have hparen : '(' ∉ word := fun hc => absurd (hw _ hc) (by decide)
  have htail : tail = '(' :: (digits ++ [')']) := by
    rw [ht] at hd
    obtain rfl | ⟨inner, rfl, hi⟩ := h.opens
    · rw [List.append_nil] at hd
      exact absurd (hd ▸ by simp) hparen
    · rw [((List.append_cons_inj_of_notMem hparen hi).1 hd).2.2]
  have hmem {c : Char} (hc : c ∈ tail) : c = '(' ∨ c.isDigit = true ∨ c = ')' := by
    rw [htail, List.mem_cons, List.mem_append, List.mem_singleton] at hc
    exact hc.imp_right (.imp_left (hdigits c))
  cases h with
  | plain => cases htail
  | @sized _ bound m hb hl h1 hm =>
    obtain rfl := List.append_cancel_right (List.cons.inj htail).2
    rw [digitsValue_toString]
    exact ⟨hl, bound, hb, h1, hm⟩
  | max => exact absurd (hmem (by decide : 'M' ∈ _)) (by decide)
  | precision => exact absurd (hmem (by simp : ',' ∈ _)) (by decide)

theorem shows_of_eq {word : List Char}
    (ht : text.toList = word ++ '(' :: ((toString n).toList ++ [')'])) : Shows text n :=
  ⟨word, (toString n).toList, ht, by simp, fun _ => isDigit_of_mem_toString,
    digitsValue_toString n⟩

theorem Behind.shows_of_le (h : Behind length shape tail) {word : List Char} {bound : Nat}
    (ht : text.toList = word ++ tail) (hl : length = some n) (hb : shape.bound? = some bound)
    (h1 : 1 ≤ n) (hn : n ≤ bound) : Shows text n := by
  subst hl
  cases h with
  | plain | precision => cases hb
  | sized _ hm =>
    subst hm
    exact shows_of_eq ht
  | max hno =>
    cases hb
    exact absurd ⟨h1, hn⟩ (hno n rfl)

theorem Behind.shows_of_fixed {word : List Char} {bound : Nat}
    (h : Behind length (.fixed bound) tail) (ht : text.toList = word ++ tail) :
    Shows text (length.getD 1) ∧ 'X' ∉ tail := by
  cases h with
  | sized _ hn =>
    subst hn
    exact ⟨shows_of_eq ht, by simp [-Nat.toString_eq_repr, not_mem_toString]⟩

theorem defines_of_definition (ht : t ∈ catalog)
    (h : t.definition length precision = .ok text) : Defines t length text := by
  obtain ⟨tail, htext, hb⟩ := exists_behind h
  refine ⟨fun s => named_of_varies ht htext hb.head?_eq,
    fun n => hb.bounded_of_shows (isWord_of_mem_keyword t ht) htext,
    fun n bound => hb.shows_of_le htext, fun bound hs => ?_⟩
  rw [hs] at hb
  obtain ⟨hshows, hno⟩ := hb.shows_of_fixed htext
  refine ⟨hshows, fun hmax => ?_⟩
  have hx : 'X' ∈ t.keyword.toList ++ tail := htext ▸ hmax.subset (by decide)
  have hplain := plain_of_mem_keyword t ht ((List.mem_append.1 hx).resolve_right hno)
  rw [hs] at hplain
  cases hplain

theorem definition_eq_error_iff (ht : t ∈ catalog) {e : TypeError} :
    t.definition length precision = .error e ↔ ∃ bound n, t.shape = .fixed bound ∧
      length = some n ∧ (n = 0 ∨ bound < n) ∧ e = .invalidLength t.keyword n := by
  unfold definition
  cases hs : t.shape with
  | plain => simp
  | length bound =>
    cases length with
    | none => simp
    | some n => dsimp only; split <;> simp
  | fixed bound =>
    -- the length that is taken by default keeps every bound
    have h1 : 1 ≤ bound := Nat.pos_of_ne_zero fun h0 => bound?_ne_zero t ht (by rw [hs, h0]; rfl)
    cases length with
    | none => simp [h1]
    | some n =>
      simp only [Option.getD_some]
      split
      · rename_i hn
        simp only [reduceCtorEq, false_iff]
        rintro ⟨b, m, hb, hm, hr, -⟩
        cases hb
        cases hm
        omega
      · rename_i hn
        rw [Except.error.injEq]
        constructor
        · rintro rfl
          exact ⟨bound, n, rfl, rfl, by omega, rfl⟩
        · rintro ⟨b, m, -, hm, -, rfl⟩
          cases hm
          rfl
  | precision digits scale => simp

end Behind

section DefinitionFor

/-- A definition names the type that is chosen for the program type and keeps its bound. There is
none exactly if no type is chosen, or a fixed length is zero or beyond the bound. -/
theorem defines_definitionFor (runtime : String) (length : Option Nat)
    (precision : Option (Nat × Nat)) :
    (∀ text, definitionFor runtime length precision = .ok text →
      ∃ t, (∀ t', IsCanonical runtime t' ↔ t' = t) ∧ Defines t length text) ∧
    ∀ e, definitionFor runtime length precision = .error e ↔ Undefined runtime length e := by
  refine ⟨fun text h => ?_, fun e => ?_⟩
  · obtain ⟨t, ht, hd⟩ := bind_eq_ok_iff.1 h
    have hc := forRuntime_eq_ok_iff.1 ht
    exact ⟨t, fun t' => ⟨hc.eq, fun h' => h' ▸ hc⟩, defines_of_definition hc.mem hd⟩
  · unfold definitionFor
    rw [bind_eq_error_iff, forRuntime_eq_error_iff]
    constructor
    · rintro (⟨rfl, hn⟩ | ⟨t, ht, he⟩)
      · exact .unsupported hn
      · have hc := forRuntime_eq_ok_iff.1 ht
        obtain ⟨bound, n, hs, rfl, hn, rfl⟩ := (definition_eq_error_iff hc.mem).1 he
        exact .invalidLength hc hs hn
    · rintro (hn | ⟨hc, hs, hn⟩)
      · exact .inl ⟨rfl, hn⟩
      · exact .inr ⟨_, forRuntime_eq_ok_iff.2 hc,
          (definition_eq_error_iff hc.mem).2 ⟨_, _, hs, rfl, hn, rfl⟩⟩

theorem defines_definitionFor_mixedCase :
    definitionFor "char" (some 4000) none = .ok "NCHAR(4000)" ∧
      ∃ t, IsCanonical "char" t ∧ named "\u3000nChar(4000) " = .ok t := by
  have h : definitionFor "char" (some 4000) none = .ok "NCHAR(4000)" := by decide
  obtain ⟨t, hc, hd⟩ := (defines_definitionFor "char" (some 4000) none).1 _ h
  refine ⟨h, t, (hc t).2 rfl, hd.named _ ⟨['\u3000'], "nChar(4000)".toList, [' '], ?_⟩⟩
  decide

end DefinitionFor

end ColumnType
end GridQuery
