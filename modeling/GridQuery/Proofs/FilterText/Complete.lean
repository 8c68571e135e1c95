import GridQuery.Proofs.FilterText.Token

/-! # The scanner accepts what the grammar derives

Where the grammar derives a term, the scanner comes from the start of the term to its end and adds
the term to the innermost group. Where it derives a filter, a fresh group is filled with it. -/

namespace GridQuery.Filter
open Text
variable {s s₁ s₂ rest : List Char} {c : Char} {scopes : List Scope} {e : Expected}

section Operators

theorem ofKeyword?_eq_some_iff {text : String} {op : Comparison} :
    Comparison.ofKeyword? text = some op ↔ lowerAscii text = op.keyword := by
  constructor
  · intro h
    have := List.find?_some h
    exact (eq_of_beq this).symm
  · intro h
    rw [Comparison.ofKeyword?, h]
    cases op <;> decide

theorem connective_ofKeyword?_eq_some_iff {text : String} {op : Connective} :
    Connective.ofKeyword? text = some op ↔ lowerAscii text = connectiveKeyword op := by
  have ha : lowerAscii "and" = "and" := by decide
  have ho : lowerAscii "or" = "or" := by decide
  unfold Connective.ofKeyword? equalIgnoringCase
  rw [ha, ho]
  cases op <;> simp only [connectiveKeyword] <;> split <;> simp_all

theorem isWord_of_mem_keyword (op : Comparison) : ∀ c ∈ op.keyword.toList, isWord c = true := by
  cases op <;> decide

theorem isWord_of_mem_connectiveKeyword (op : Connective) :
    ∀ c ∈ (connectiveKeyword op).toList, isWord c = true := by
  cases op <;> decide

end Operators

section Ends

theorem Skips.unfolded (h : Skips s rest) (hr : Unfolded rest) : Unfolded s := by
  obtain ⟨w, hw, rfl⟩ := h
  cases w with
  | nil => exact hr
  | cons c w => simpa [Unfolded] using foldedLetter_of_isBlank (hw c (by simp))

theorem Skips.endsValue (h : Skips s rest) (hr : EndsValue rest) : EndsValue s := by
  refine ⟨h.unfolded hr.unfolded, ?_⟩
  obtain ⟨w, hw, rfl⟩ := h
  cases w with
  | nil => exact hr.no_quote
  | cons c w =>
    intro hq
    obtain rfl : c = '\'' := by simpa using hq
    exact absurd (hw '\'' (by simp)) (by decide)

/-- A token starts with no white space, and its first letter is folded like an ASCII letter. -/
def StartsToken (s : List Char) : Prop :=
  ∃ c ∈ s.head?, isBlank c = false ∧ foldedLetter c = c.toLower

theorem StartsToken.of_startsWord (h : StartsWord s) : StartsToken s := by
  obtain ⟨c, hc, hw⟩ := h
  exact ⟨c, hc, isBlank_of_isWord hw, foldedLetter_of_isWord hw⟩

theorem StartsToken.unfolded (h : StartsToken s) : Unfolded s := by
  obtain ⟨c, hc, -, hf⟩ := h
  intro d hd
  obtain rfl : c = d := Option.some.inj (hc.symm.trans hd)
  exact hf

theorem StartsToken.not_isBlank (h : StartsToken s) : ∀ c ∈ s.head?, isBlank c = false := by
  obtain ⟨c, hc, hb, -⟩ := h
  intro d hd
  obtain rfl : c = d := Option.some.inj (hc.symm.trans hd)
  exact hb

theorem startsToken_sign {run : List Char} (negative : Bool) (h : Run Char.isDigit run s rest) :
    StartsToken (sign negative ++ s) := by
  cases negative
  · obtain ⟨c, hc, hd⟩ := h.head?_eq
    exact .of_startsWord ⟨c, hc, isWord_of_isDigit hd⟩
  · exact ⟨'-', rfl, by decide, by decide⟩

theorem startsToken_of_denotes {v : Literal} (h : Denotes s v rest) : StartsToken s := by
  cases h with
  | quoted => exact ⟨'\'', rfl, by decide, by decide⟩
  | null h => exact .of_startsWord (h.1.startsWord (by decide) (by decide))
  | bool b h => cases b <;> exact .of_startsWord (h.1.startsWord (by decide) (by decide))
  | integer negative n h => exact startsToken_sign negative h
  | decimal negative h => exact startsToken_sign negative h

theorem startsWord_of_keyword {op : Comparison} (h : Keyword op.keyword s rest) : StartsWord s :=
  h.1.startsWord (isWord_of_mem_keyword op) (by cases op <;> decide)

theorem startsWord_of_connective {op : Connective} (h : Keyword (connectiveKeyword op) s rest) :
    StartsWord s :=
  h.1.startsWord (isWord_of_mem_connectiveKeyword op) (by cases op <;> decide)

theorem startsWord_of_not (h : Spells "not" s rest) : StartsWord s :=
  h.startsWord (by decide) (by decide)

theorem endsValue_of_startsWord (h : StartsWord s) : EndsValue s := by
  refine ⟨(StartsToken.of_startsWord h).unfolded, fun hq => ?_⟩
  obtain ⟨t, rfl⟩ := List.head?_eq_some_iff.1 hq
  exact absurd (startsWord_cons.1 h) (by decide)

theorem endsValue_rightParen (s : List Char) : EndsValue (')' :: s) :=
  ⟨by simp [Unfolded]; decide, by simp⟩

theorem startsToken_of_derives {part : Part} {f : Filter} (h : Derives part s f rest) :
    StartsToken s := by
  induction h with
  | comparison op h => exact .of_startsWord h.startsWord
  | group => exact ⟨'(', rfl, by decide, by decide⟩
  | negation h => exact .of_startsWord (startsWord_of_not h)
  | term _ ih => exact ih
  | connective _ _ _ _ _ _ ih => exact ih

end Ends

namespace Scan

theorem run_eq (scan : Scan) : run scan =
    if (trimLeft scan.rest).isEmpty then scan.finish
    else
      match step { scan with rest := trimLeft scan.rest } with
      | .ok next => run next
      | .error e => .error e := by
  rw [run]
  split
  · rfl
  · split <;> simp_all

theorem run_skips (h : Skips s rest) : run ⟨s, scopes, e⟩ = run ⟨rest, scopes, e⟩ := by
  have ht : trimLeft s = trimLeft rest := by
    obtain ⟨w, hw, rfl⟩ := h
    exact List.dropWhile_append_of_pos hw
  rw [run_eq, run_eq ⟨rest, scopes, e⟩]
  simp only [ht]
  rfl

theorem run_step {scan next : Scan} (hs : StartsToken scan.rest) (h : step scan = .ok next) :
    run scan = run next := by
  obtain ⟨c, hc, hb, -⟩ := hs
  obtain ⟨t, ht⟩ : ∃ t, scan.rest = c :: t := List.head?_eq_some_iff.1 hc
  have htrim : trimLeft scan.rest = scan.rest := by simp [ht, trimLeft, hb]
  rw [run_eq, htrim, if_neg (by simp [ht])]
  rw [show ({ scan with rest := scan.rest } : Scan) = scan from rfl, h]

theorem readNegation?_eq_none {name : List Char} {op : Comparison} (h : Run isWord name s s₁)
    (hs : Skips s₁ s₂) (hk : Keyword op.keyword s₂ rest) : readNegation? s = none := by
  by_contra hn
  obtain ⟨r, hr⟩ := Option.ne_none_iff_exists'.1 hn
  obtain ⟨q, ⟨w, hw, rfl⟩, hp⟩ := readNegation?_eq_some_iff.1 hr
  -- the word before the parenthesis is the whole name, so no operator follows it
  have hword := isWord_of_spells (by decide) hw
  have hends : EndsWord q := by
    obtain ⟨b, hb, rfl⟩ := hp
    cases b with
    | nil => simp; decide
    | cons c b =>
      rw [List.cons_append, endsWord_cons, ← Bool.not_eq_true]
      intro hc
      have := hb c (by simp)
      rw [isBlank_of_isWord hc] at this
      cases this
  obtain rfl : q = s₁ := (takeWhile_append_of_ends hword hends).2.symm.trans h.takeWhile_eq.2
  have hstart := startsWord_of_keyword hk
  have h2 : trimLeft q = s₂ := hs.trimLeft_eq (StartsToken.of_startsWord hstart).not_isBlank
  obtain rfl : '(' :: r = s₂ := (hp.trimLeft_eq (by simp; decide)).symm.trans h2
  exact absurd (startsWord_cons.1 hstart) (by decide)

theorem step_name {name : List Char} {op : Comparison} (h : Run isWord name s s₁)
    (hs : Skips s₁ s₂) (hk : Keyword op.keyword s₂ rest) :
    step ⟨s, scopes, .operand⟩ = .ok ⟨s₁, scopes, .comparison (String.ofList name)⟩ := by
  have hn := readNegation?_eq_none h hs hk
  have hr := readName?_eq_some_iff.2 h
  show readOperand s scopes = _
  unfold readOperand
  split
  · exact absurd (startsWord_cons.1 h.startsWord) (by decide)
  · simp [hn, hr]

theorem step_negation (h : Spells "not" s s₁) (hs : Skips s₁ ('(' :: rest)) :
    step ⟨s, scopes, .operand⟩ = .ok ⟨rest, { negated := true } :: scopes, .operand⟩ := by
  have hr := readNegation?_eq_some_iff.2 ⟨s₁, h, hs⟩
  show readOperand s scopes = _
  unfold readOperand
  split
  · exact absurd (startsWord_cons.1 (startsWord_of_not h)) (by decide)
  · simp [hr]

theorem step_comparison {name : String} {op : Comparison} (h : Keyword op.keyword s rest)
    (hr : Unfolded rest) :
    step ⟨s, scopes, .comparison name⟩ = .ok ⟨rest, scopes, .value name op⟩ := by
  have hm : op.keyword ∈ comparisonKeywords := by cases op <;> decide
  obtain ⟨w, hw, hl⟩ := readKeyword?_of_keyword h hm (isWord_of_mem_keyword op) hr
  simp [step, readComparison, hw, ofKeyword?_eq_some_iff.2 hl]

theorem step_value {name : String} {op : Comparison} {v : Literal} {g : Scope}
    {outer : List Scope} (h : Denotes s v rest) (hr : EndsValue rest) :
    step ⟨s, g :: outer, .value name op⟩ =
      .ok ⟨rest, g.attach (compare (column name) op (literal v)) :: outer, .connective⟩ := by
  simp [step, readOperandValue, readValue_of_denotes h hr]

theorem step_connective {op : Connective} {l : Filter} {negated : Bool} {outer : List Scope}
    (h : Keyword (connectiveKeyword op) s rest) (hr : Unfolded rest) :
    step ⟨s, { condition := some l, negated } :: outer, .connective⟩ =
      .ok ⟨rest, { pending := some (l, op), negated } :: outer, .operand⟩ := by
  have hword := isWord_of_mem_connectiveKeyword op
  have hm : connectiveKeyword op ∈ ["and", "or"] := by cases op <;> decide
  obtain ⟨w, hw, hl⟩ := readKeyword?_of_keyword h hm hword hr
  show readConnective s _ = _
  unfold readConnective
  split
  · exact absurd (startsWord_cons.1 (startsWord_of_connective h)) (by decide)
  · simp [hw, connective_ofKeyword?_eq_some_iff.2 hl, openConnective]

def Accepts : Part → List Char → Filter → List Char → Prop
  | .term, s, f, rest => ∀ g outer,
      run ⟨s, g :: outer, .operand⟩ = run ⟨rest, g.attach f :: outer, .connective⟩
  | .filter, s, f, rest => ∀ negated outer,
      run ⟨s, { negated } :: outer, .operand⟩ =
        run ⟨rest, { condition := some f, negated } :: outer, .connective⟩

theorem step_leftParen :
    step ⟨'(' :: rest, scopes, .operand⟩ = .ok ⟨rest, {} :: scopes, .operand⟩ := rfl

theorem step_rightParen {f : Filter} {negated : Bool} {g : Scope} {outer : List Scope} :
    step ⟨')' :: rest, { condition := some f, negated } :: g :: outer, .connective⟩ =
      .ok ⟨rest, g.attach (if negated then not f else f) :: outer, .connective⟩ := rfl

theorem accepts_of_derives {part : Part} {f : Filter} (h : Derives part s f rest)
    (hr : EndsValue rest) : Accepts part s f rest := by
  induction h with
  | comparison op h h₁ h₂ h₃ h₄ =>
    intro g outer
    have hk := startsWord_of_keyword h₂
    have hv := startsToken_of_denotes h₄
    rw [run_step (.of_startsWord h.startsWord) (step_name h h₁ h₂), run_skips h₁,
      run_step (.of_startsWord hk) (step_comparison h₂ (h₃.unfolded hv.unfolded)), run_skips h₃,
      run_step hv (step_value h₄ hr)]
  | group h₁ _ h₃ ih =>
    intro g outer
    rw [run_step ⟨'(', rfl, by decide, by decide⟩ step_leftParen, run_skips h₁,
      ih (h₃.endsValue (endsValue_rightParen _)), run_skips h₃,
      run_step ⟨')', rfl, by decide, by decide⟩ step_rightParen]
    rfl
  | negation h h₁ h₂ _ h₄ ih =>
    intro g outer
    rw [run_step (.of_startsWord (startsWord_of_not h)) (step_negation h h₁),
      run_skips h₂, ih (h₄.endsValue (endsValue_rightParen _)), run_skips h₄,
      run_step ⟨')', rfl, by decide, by decide⟩ step_rightParen]
    rfl
  | term _ ih =>
    intro negated outer
    exact ih hr _ outer
  | connective op _ h₂ h₃ h₄ h₅ ih₁ ih₂ =>
    intro negated outer
    have hk := startsWord_of_connective h₃
    -- a value at the end of the left filter takes in neither white space nor the connective
    have hl := ih₁ (h₂.endsValue (endsValue_of_startsWord hk))
    rw [hl negated outer, run_skips h₂, run_step (.of_startsWord hk) (step_connective h₃
      (h₄.unfolded (startsToken_of_derives h₅).unfolded)), run_skips h₄, ih₂ hr _ outer]
    rfl

end Scan

/-- The text is a filter, with white space around it. -/
def FilterText (text : List Char) (f : Filter) : Prop :=
  ∃ s rest, Skips text s ∧ Derives .filter s f rest ∧ Skips rest []

theorem ofText_of_filterText {text : String} {f : Filter} (h : FilterText text.toList f) :
    ofText text = .ok f := by
  obtain ⟨s, rest, hs, hf, hr⟩ := h
  have he : EndsValue rest := hr.endsValue ⟨by simp [Unfolded], by simp⟩
  rw [ofText, Scan.run_skips hs, Scan.accepts_of_derives hf he, Scan.run_skips hr, Scan.run_eq]
  rfl

end GridQuery.Filter
