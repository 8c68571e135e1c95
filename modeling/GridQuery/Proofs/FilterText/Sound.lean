import GridQuery.Proofs.FilterText.Step

/-! # The scanner accepts only what the grammar derives

A stack of open groups stands for a derivation that is not finished yet: every group was opened
where a term may start, and its condition so far is a filter that reaches from there to the rest.
Every token extends this derivation. -/

namespace GridQuery.Filter
open Text
variable {text s s₁ s₂ rest : List Char} {c : Char} {scopes outer : List Scope} {f : Filter}

section Suffix

theorem Run.suffix {p : Char → Bool} {run : List Char} (h : Run p run s rest) : rest <:+ s :=
  ⟨run, h.eq.symm⟩

theorem Skips.suffix (h : Skips s rest) : rest <:+ s := by
  obtain ⟨w, -, rfl⟩ := h
  exact List.suffix_append w rest

theorem Spells.suffix {word : String} (h : Spells word s rest) : rest <:+ s := by
  obtain ⟨w, -, rfl⟩ := h
  exact List.suffix_append w rest

theorem Denotes.suffix {v : Literal} (h : Denotes s v rest) : rest <:+ s := by
  cases h with
  | quoted text => exact ⟨'\'' :: (doubled '\'' text ++ ['\'']), by simp⟩
  | null h => exact h.1.suffix
  | bool b h => exact h.1.suffix
  | integer negative n h => exact h.suffix.trans (List.suffix_append _ _)
  | decimal negative h h' =>
    exact (h'.suffix.trans (List.suffix_cons _ _)).trans
      (h.suffix.trans (List.suffix_append _ _))

theorem Run.not_mem {p : Char → Bool} {run : List Char} (h : Run p run s rest) (hc : c ∉ s) :
    c ∉ rest := fun hm => hc (h.suffix.subset hm)

theorem not_mem_trimLeft (hc : c ∉ s) : c ∉ trimLeft s :=
  fun hm => hc ((List.dropWhile_suffix isBlank).subset hm)

theorem Skips.not_mem (h : Skips s rest) (hc : c ∉ s) : c ∉ rest :=
  fun hm => hc (h.suffix.subset hm)

theorem Spells.not_mem {word : String} (h : Spells word s rest) (hc : c ∉ s) : c ∉ rest :=
  fun hm => hc (h.suffix.subset hm)

theorem Denotes.not_mem {v : Literal} (h : Denotes s v rest) (hc : c ∉ s) : c ∉ rest :=
  fun hm => hc (h.suffix.subset hm)

end Suffix

mutual

/-- The innermost group is fresh, and its filter starts here. -/
inductive Opens (text : List Char) : List Scope → List Char → Prop where
  | whole {s : List Char} : Skips text s → Opens text [{}] s
  | group {scopes : List Scope} {s s₁ : List Char} : Awaits text scopes ('(' :: s) → Skips s s₁ →
      Opens text ({} :: scopes) s₁
  | negation {scopes : List Scope} {s s₁ s₂ s₃ : List Char} : Awaits text scopes s →
      Spells "not" s s₁ → Skips s₁ ('(' :: s₂) → Skips s₂ s₃ →
      Opens text ({ negated := true } :: scopes) s₃

/-- A term of the innermost group starts here. -/
inductive Awaits (text : List Char) : List Scope → List Char → Prop where
  | first {scopes : List Scope} {s : List Char} : Opens text scopes s → Awaits text scopes s
  | next {negated : Bool} {outer : List Scope} {s s₁ s₂ s₃ s₄ : List Char} {l : Filter}
      (op : Connective) : Opens text ({ negated } :: outer) s → Derives .filter s l s₁ →
      Skips s₁ s₂ → Keyword (connectiveKeyword op) s₂ s₃ → Skips s₃ s₄ →
      Awaits text ({ pending := some (l, op), negated } :: outer) s₄

end

/-- The condition of the innermost group is a filter that ends here. -/
inductive Joined (text : List Char) : List Scope → List Char → Prop where
  | mk {negated : Bool} {outer : List Scope} {s rest : List Char} {l : Filter} :
      Opens text ({ negated } :: outer) s → Derives .filter s l rest →
      Joined text ({ condition := some l, negated } :: outer) rest

theorem not_awaits_nil : ¬ Awaits text [] s := by
  intro h
  cases h with
  | first h => cases h

theorem Awaits.attach {g : Scope} (h : Awaits text (g :: outer) s) (hf : Derives .term s f rest) :
    Joined text (g.attach f :: outer) rest := by
  cases h with
  | first h =>
    cases h with
    | whole h => exact .mk (.whole h) (.term hf)
    | group h h' => exact .mk (.group h h') (.term hf)
    | negation h h₁ h₂ h₃ => exact .mk (.negation h h₁ h₂ h₃) (.term hf)
  | next op h hl h₁ h₂ h₃ => exact .mk h (.connective op hl h₁ h₂ h₃ hf)

/-- What the scanner has read is part of a derivation, up to what it expects. -/
def Expects (text : List Char) (scan : Scan) : Prop :=
  match scan.expected with
  | .operand => Awaits text scan.scopes (trimLeft scan.rest)
  | .comparison name => ∃ s run, Awaits text scan.scopes s ∧ name = String.ofList run ∧
      Run isWord run s scan.rest
  | .value name op => ∃ s run s₁ s₂, Awaits text scan.scopes s ∧ name = String.ofList run ∧
      Run isWord run s s₁ ∧ Skips s₁ s₂ ∧ Keyword op.keyword s₂ scan.rest
  | .connective => Joined text scan.scopes scan.rest

structure Invariant (text : List Char) (scan : Scan) : Prop where
  expects : Expects text scan
  not_mem : '\u017F' ∉ scan.rest

namespace Scan
variable {scan last next : Scan}

theorem invariant_of_operand (ht : Takes ⟨s, scopes, .operand⟩ next) (hs : Awaits text scopes s)
    (hc : '\u017F' ∉ s) : Invariant text next := by
  cases ht with
  | leftParen =>
    exact ⟨.first (.group hs (skips_trimLeft _)), fun hm => hc (List.mem_cons_of_mem _ hm)⟩
  | negation _ hw hp =>
    exact ⟨.first (.negation hs hw hp (skips_trimLeft _)),
      fun hm => hp.not_mem (hw.not_mem hc) (List.mem_cons_of_mem _ hm)⟩
  | name _ hr => exact ⟨⟨s, _, hs, rfl, hr⟩, hr.not_mem hc⟩

theorem invariant_of_comparison {run : List Char}
    (ht : Takes ⟨s₂, scopes, .comparison (String.ofList run)⟩ next) (hs : Awaits text scopes s)
    (hr : Run isWord run s s₁) (hb : Skips s₁ s₂) (hc : '\u017F' ∉ s₂) :
    Invariant text next := by
  cases ht with
  | comparison _ op _ hk => exact ⟨⟨s, run, s₁, s₂, hs, rfl, hr, hb, hk⟩, hk.1.not_mem hc⟩

theorem invariant_of_value {run s₃ s₄ : List Char} {op : Comparison}
    (ht : Takes ⟨s₄, scopes, .value (String.ofList run) op⟩ next) (hs : Awaits text scopes s)
    (hr : Run isWord run s s₁) (hb : Skips s₁ s₂) (hk : Keyword op.keyword s₂ s₃)
    (hb' : Skips s₃ s₄) (hc : '\u017F' ∉ s₄) : Invariant text next := by
  cases ht with
  | value _ _ g outer hv =>
    have hd := denotes_of_readValue hv hc
    exact ⟨hs.attach (.comparison op hr hb hk hb' hd), hd.not_mem hc⟩

theorem invariant_of_connective (ht : Takes ⟨s₁, scopes, .connective⟩ next)
    (hj : Joined text scopes s) (hb : Skips s s₁) (hc : '\u017F' ∉ s₁) :
    Invariant text next := by
  cases ht with
  | rightParen rest outer others hf =>
    have hc' : '\u017F' ∉ rest := fun hm => hc (List.mem_cons_of_mem _ hm)
    cases hj with
    | mk ho hl =>
      cases hf
      cases ho with
      | group ha hs => exact ⟨ha.attach (.group hs hl hb), hc'⟩
      | negation ha hw hp hs => exact ⟨ha.attach (.negation hw hp hs hl hb), hc'⟩
  | connective op outer hk hl =>
    cases hj with
    | mk ho hd =>
      cases hl
      exact ⟨.next op ho hd hb hk (skips_trimLeft _), hk.1.not_mem hc⟩

/-- A step extends the derivation. -/
theorem invariant_of_advances (h : Advances scan next) (hi : Invariant text scan) :
    Invariant text next := by
  obtain ⟨rest, scopes, expected⟩ := scan
  obtain ⟨he, hc⟩ := hi
  have ht := takes_of_step h
  have hb := skips_trimLeft rest
  have hc' := not_mem_trimLeft hc
  cases expected with
  | operand => exact invariant_of_operand ht he hc'
  | comparison name =>
    obtain ⟨s, run, hs, rfl, hr⟩ := he
    exact invariant_of_comparison ht hs hr hb hc'
  | value name op =>
    obtain ⟨s, run, s₁, s₂, hs, rfl, hr, hb₁, hk⟩ := he
    exact invariant_of_value ht hs hr hb₁ hk hb hc'
  | connective => exact invariant_of_connective ht he hb hc'

theorem invariant_of_reaches (h : Relation.ReflTransGen Advances scan last)
    (hi : Invariant text scan) : Invariant text last := by
  induction h with
  | refl => exact hi
  | tail _ h ih => exact invariant_of_advances h ih

theorem filterText_of_finish (hi : Invariant text scan) (hb : Skips scan.rest [])
    (h : finish scan = .ok f) : FilterText text f := by
  obtain ⟨rest, g, rfl, hf⟩ := finish_eq_ok h
  obtain ⟨he, -⟩ := hi
  cases he with
  | mk ho hl =>
    cases hf
    cases ho with
    | whole hs => exact ⟨_, rest, hs, hl, hb⟩
    | group ha => exact absurd ha not_awaits_nil
    | negation ha => exact absurd ha not_awaits_nil

theorem filterText_of_run (hi : Invariant text scan) (h : run scan = .ok f) :
    FilterText text f := by
  obtain ⟨last, hr, hb, hf⟩ := exists_last_of_run h
  exact filterText_of_finish (invariant_of_reaches hr hi) hb hf

end Scan

/-- A text without the long s is read as a filter exactly when the grammar derives the filter. -/
theorem ofText_eq_ok_iff {text : String} (hs : '\u017F' ∉ text.toList) :
    ofText text = .ok f ↔ FilterText text.toList f := by
  refine ⟨fun h => ?_, ofText_of_filterText⟩
  refine Scan.filterText_of_run ⟨?_, hs⟩ h
  exact .first (.whole (skips_trimLeft _))

theorem ofText_eq_ok_iff_negation :
    ofText " NOT(A eq 1)or B eq'x'" = .ok
      (combine (not (compare (column "A") .eq (literal (.int 1)))) .or
        (compare (column "B") .eq (literal (.string "x")))) := by
  have hb : Derives .term ['B', ' ', 'e', 'q', '\'', 'x', '\''] (compare
      (column (String.ofList ['B'])) .eq (literal (.string (String.ofList ['x'])))) [] :=
    .comparison .eq ⟨by decide, by decide, rfl, by decide⟩ ⟨[' '], by decide, rfl⟩
      ⟨⟨['e', 'q'], by decide, rfl⟩, by decide⟩ (skips_self _) (.quoted ['x'] [])
  have ha : Derives .term ['A', ' ', 'e', 'q', ' ', '1', ')', 'o', 'r', ' ', 'B', ' ', 'e', 'q',
      '\'', 'x', '\''] (compare (column (String.ofList ['A'])) .eq (literal (.int 1)))
      [')', 'o', 'r', ' ', 'B', ' ', 'e', 'q', '\'', 'x', '\''] :=
    .comparison .eq ⟨by decide, by decide, rfl, by decide⟩ ⟨[' '], by decide, rfl⟩
      ⟨⟨['e', 'q'], by decide, rfl⟩, by decide⟩ ⟨[' '], by decide, rfl⟩
      (.integer false 1 (run_takeWhile (p := Char.isDigit) (by decide)) nofun (by decide))
  exact (ofText_eq_ok_iff (by decide)).2 ⟨_, _, ⟨[' '], by decide, rfl⟩,
    .connective .or (.term (.negation ⟨['N', 'O', 'T'], by decide, rfl⟩ (skips_self _)
      (skips_self _) (.term ha) (skips_self _))) (skips_self _)
      ⟨⟨['o', 'r'], by decide, rfl⟩, by decide⟩ ⟨[' '], by decide, rfl⟩ hb, skips_self _⟩

end GridQuery.Filter
