import GridQuery.Proofs.FilterText.Sound

/-! # What the tokens of a filter text spell

A text that is read as a filter is a row of comparisons with parentheses, negations and connectives
between them, and the filter is built from these comparisons in this order. The literal of a
comparison is the one that its token spells, with two exceptions: `false` with a long s is read as
null, and a decimal beyond the range of doubles as an infinite one. An integer beyond the range of
integers is refused. -/

namespace GridQuery.Filter
open Text Decimal
variable {s s₁ s₂ rest w : List Char} {v : Literal}

/-- The text starts with the token of the literal, and a double is within the range. -/
structure Faithful (s : List Char) (v : Literal) (rest : List Char) : Prop where
  denotes : Denotes s v rest
  finite : ∀ x, v = .float x → isFinite x = true

inductive ReadAs : List Char → Literal → List Char → Prop where
  | faithful {s rest : List Char} {v : Literal} : Faithful s v rest → ReadAs s v rest
  | longFalse {s rest : List Char} : LongFalse s rest → ReadAs s .null rest
  | infinite {s rest : List Char} {x : Float} : Denotes s (.float x) rest → isFinite x = false →
      ReadAs s (.float x) rest

section ReadAs

theorem readAs_of_denotes (h : Denotes s v rest) : ReadAs s v rest := by
  cases v with
  | float x =>
    cases hx : isFinite x
    · exact .infinite h hx
    · exact .faithful ⟨h, fun y hy => Literal.float.inj hy ▸ hx⟩
  | _ => exact .faithful ⟨h, nofun⟩

theorem ReadAs.suffix (h : ReadAs s v rest) : rest <:+ s := by
  cases h with
  | faithful h => exact h.denotes.suffix
  | longFalse h =>
    obtain ⟨w, -, -, rfl, -⟩ := h
    exact List.suffix_append w rest
  | infinite h => exact h.suffix

theorem readAs_of_readValue (h : readValue s = .ok (v, rest)) : ReadAs s v rest := by
  obtain hd | ⟨rfl, hl⟩ := denotes_or_longFalse_of_readValue h
  · exact readAs_of_denotes hd
  · exact .longFalse hl

end ReadAs

structure Entry where
  name : String
  op : Comparison
  value : Literal

/-- The filter is built from comparisons, from left to right. -/
inductive BuiltFrom : Filter → List Entry → Prop where
  | compare (name : String) (op : Comparison) (v : Literal) :
      BuiltFrom (compare (column name) op (literal v)) [⟨name, op, v⟩]
  | combine {l r : Filter} {es fs : List Entry} (op : Connective) : BuiltFrom l es →
      BuiltFrom r fs → BuiltFrom (combine l op r) (es ++ fs)
  | not {f : Filter} {es : List Entry} : BuiltFrom f es → BuiltFrom (not f) es

theorem BuiltFrom.unique {f : Filter} {es fs : List Entry} (h : BuiltFrom f es)
    (h' : BuiltFrom f fs) : es = fs := by
  induction h generalizing fs with
  | compare =>
    cases h'
    rfl
  | combine _ _ _ ihl ihr =>
    cases h' with
    | combine _ hl hr => rw [ihl hl, ihr hr]
  | not _ ih =>
    cases h' with
    | not h' => exact ih h'

/-- The text is a row of comparisons up to some rest. Their values are read in a certain way, and
between them are only white space, parentheses, negations and connectives. -/
inductive Written (values : List Char → Literal → List Char → Prop) (text : List Char) :
    List Entry → List Char → Prop where
  | start : Written values text [] text
  | blanks {es : List Entry} {s rest : List Char} : Written values text es s → Skips s rest →
      Written values text es rest
  | leftParen {es : List Entry} {rest : List Char} : Written values text es ('(' :: rest) →
      Written values text es rest
  | rightParen {es : List Entry} {rest : List Char} : Written values text es (')' :: rest) →
      Written values text es rest
  | negation {es : List Entry} {s s₁ rest : List Char} : Written values text es s →
      Spells "not" s s₁ → Skips s₁ ('(' :: rest) → Written values text es rest
  | connective {es : List Entry} {s rest : List Char} (op : Connective) :
      Written values text es s → Keyword (connectiveKeyword op) s rest →
      Written values text es rest
  | comparison {es : List Entry} {name s s₁ s₂ s₃ s₄ rest : List Char} {v : Literal}
      (op : Comparison) : Written values text es s → Run isWord name s s₁ → Skips s₁ s₂ →
      Keyword op.keyword s₂ s₃ → Skips s₃ s₄ → values s₄ v rest →
      Written values text (es ++ [⟨String.ofList name, op, v⟩]) rest

section Written
variable {text : List Char} {es fs : List Entry} {f : Filter}
  {values : List Char → Literal → List Char → Prop}

theorem Written.suffix (hv : ∀ s v rest, values s v rest → rest <:+ s)
    (h : Written values text es rest) : rest <:+ text := by
  induction h with
  | start => exact List.suffix_refl text
  | blanks _ hs ih => exact hs.suffix.trans ih
  | leftParen _ ih | rightParen _ ih => exact (List.suffix_cons _ _).trans ih
  | negation _ hn hs ih =>
    exact (List.suffix_cons _ _).trans ((hs.suffix.trans hn.suffix).trans ih)
  | connective op _ hk ih => exact hk.1.suffix.trans ih
  | comparison op _ hr hs hk hs' hd ih =>
    exact ((hv _ _ _ hd).trans (hs'.suffix.trans (hk.1.suffix.trans hs.suffix))).trans
      (hr.suffix.trans ih)

theorem Written.mono {others : List Char → Literal → List Char → Prop}
    (hv : ∀ s v rest, values s v rest → rest <:+ s) (h : Written values text es rest)
    (ho : ∀ e ∈ es, ∀ s rest, s <:+ text → values s e.value rest → others s e.value rest) :
    Written others text es rest := by
  induction h with
  | start => exact .start
  | blanks _ hs ih => exact .blanks (ih ho) hs
  | leftParen _ ih => exact .leftParen (ih ho)
  | rightParen _ ih => exact .rightParen (ih ho)
  | negation _ hn hs ih => exact .negation (ih ho) hn hs
  | connective op _ hk ih => exact .connective op (ih ho) hk
  | comparison op hw hr hs hk hs' hd ih =>
    have hsuffix := (hs'.suffix.trans (hk.1.suffix.trans hs.suffix)).trans
      (hr.suffix.trans (hw.suffix hv))
    obtain ⟨ho, ho'⟩ := List.forall_mem_append.1 ho
    exact .comparison op (ih ho) hr hs hk hs' (ho' _ (List.mem_singleton.2 rfl) _ _ hsuffix hd)

theorem Written.exists_token (hv : ∀ s v rest, values s v rest → rest <:+ s)
    (h : Written values text es rest) :
    ∀ e ∈ es, ∃ s rest, s <:+ text ∧ values s e.value rest := by
  induction h with
  | start => nofun
  | blanks _ _ ih | leftParen _ ih | rightParen _ ih | negation _ _ _ ih
  | connective _ _ _ ih => exact ih
  | comparison op hw hr hs hk hs' hd ih =>
    intro e he
    obtain he | he := List.mem_append.1 he
    · exact ih e he
    · obtain rfl := List.mem_singleton.1 he
      exact ⟨_, _, (hs'.suffix.trans (hk.1.suffix.trans hs.suffix)).trans
        (hr.suffix.trans (hw.suffix hv)), hd⟩

/-- A group that waits for its next operand, and the comparisons in it. -/
inductive Waits : Scope → List Entry → Prop where
  | fresh (negated : Bool) : Waits { negated } []
  | pending {l : Filter} {es : List Entry} (op : Connective) (negated : Bool) : BuiltFrom l es →
      Waits { pending := some (l, op), negated } es

inductive AllWait : List Scope → List Entry → Prop where
  | nil : AllWait [] []
  | cons {g : Scope} {outer : List Scope} {es fs : List Entry} : AllWait outer es → Waits g fs →
      AllWait (g :: outer) (es ++ fs)

/-- The innermost group has a condition, and the others wait for their next operand. -/
inductive Holds : List Scope → List Entry → Prop where
  | mk {f : Filter} {outer : List Scope} {es fs : List Entry} (negated : Bool) :
      AllWait outer es → BuiltFrom f fs →
      Holds ({ condition := some f, negated } :: outer) (es ++ fs)

theorem AllWait.attach {g : Scope} {outer : List Scope} (h : AllWait (g :: outer) es)
    (hf : BuiltFrom f fs) : Holds (g.attach f :: outer) (es ++ fs) := by
  cases h with
  | cons ho hg =>
    cases hg with
    | fresh negated =>
      rw [List.append_nil]
      exact .mk negated ho hf
    | pending op negated hl =>
      rw [List.append_assoc]
      exact .mk negated ho (.combine op hl hf)

theorem builtFrom_finish {negated : Bool} (hf : BuiltFrom f fs) :
    BuiltFrom (if negated then Filter.not f else f) fs := by
  cases negated
  · exact hf
  · exact .not hf

/-- What the scanner has read is a row of comparisons, and they are the ones of its groups. -/
def Lists (text : List Char) (scan : Scan) : Prop :=
  match scan.expected with
  | .operand => ∃ es, AllWait scan.scopes es ∧ Written ReadAs text es scan.rest
  | .comparison name => ∃ es s run, AllWait scan.scopes es ∧ Written ReadAs text es s ∧
      name = String.ofList run ∧ Run isWord run s scan.rest
  | .value name op => ∃ es s run s₁ s₂, AllWait scan.scopes es ∧ Written ReadAs text es s ∧
      name = String.ofList run ∧ Run isWord run s s₁ ∧ Skips s₁ s₂ ∧
      Keyword op.keyword s₂ scan.rest
  | .connective => ∃ es, Holds scan.scopes es ∧ Written ReadAs text es scan.rest

end Written

namespace Scan
variable {text s₃ s₄ : List Char} {scan last next : Scan} {scopes : List Scope} {op : Comparison}
  {es : List Entry} {f : Filter}

theorem lists_of_operand (ht : Takes ⟨s, scopes, .operand⟩ next) (hs : AllWait scopes es)
    (hw : Written ReadAs text es s) : Lists text next := by
  have hopen (negated : Bool) : AllWait ({ negated } :: scopes) es := by
    simpa using AllWait.cons hs (.fresh negated)
  cases ht with
  | leftParen => exact ⟨es, hopen false, .leftParen hw⟩
  | negation _ hn hp => exact ⟨es, hopen true, .negation hw hn hp⟩
  | name _ hr => exact ⟨es, s, _, hs, hw, rfl, hr⟩

theorem lists_of_comparison {run : List Char}
    (ht : Takes ⟨s₂, scopes, .comparison (String.ofList run)⟩ next) (hs : AllWait scopes es)
    (hw : Written ReadAs text es s) (hr : Run isWord run s s₁) (hb : Skips s₁ s₂) :
    Lists text next := by
  cases ht with
  | comparison _ op _ hk => exact ⟨es, s, run, s₁, s₂, hs, hw, rfl, hr, hb, hk⟩

theorem lists_of_value {run : List Char}
    (ht : Takes ⟨s₄, scopes, .value (String.ofList run) op⟩ next) (hs : AllWait scopes es)
    (hw : Written ReadAs text es s) (hr : Run isWord run s s₁) (hb : Skips s₁ s₂)
    (hk : Keyword op.keyword s₂ s₃) (hb' : Skips s₃ s₄) : Lists text next := by
  cases ht with
  | value _ _ g outer hv =>
    have hw' := hw.comparison op hr hb hk hb' (readAs_of_readValue hv)
    exact ⟨_, hs.attach (.compare _ op _), hw'⟩

theorem lists_of_connective (ht : Takes ⟨s, scopes, .connective⟩ next) (hs : Holds scopes es)
    (hw : Written ReadAs text es s) : Lists text next := by
  cases ht with
  | rightParen rest outer others hf =>
    cases hs with
    | mk negated ho hb =>
      cases hf
      exact ⟨_, ho.attach (builtFrom_finish hb), .rightParen hw⟩
  | connective op outer hk hl =>
    cases hs with
    | mk negated ho hb =>
      cases hl
      exact ⟨_, .cons ho (.pending op negated hb), .connective op hw hk⟩

theorem lists_of_advances (h : Advances scan next) (hi : Lists text scan) : Lists text next := by
  obtain ⟨rest, scopes, expected⟩ := scan
  have ht := takes_of_step h
  have hb := skips_trimLeft rest
  cases expected with
  | operand =>
    obtain ⟨es, hs, hw⟩ := hi
    exact lists_of_operand ht hs (.blanks hw hb)
  | comparison name =>
    obtain ⟨es, s, run, hs, hw, rfl, hr⟩ := hi
    exact lists_of_comparison ht hs hw hr hb
  | value name op =>
    obtain ⟨es, s, run, s₁, s₂, hs, hw, rfl, hr, hb₁, hk⟩ := hi
    exact lists_of_value ht hs hw hr hb₁ hk hb
  | connective =>
    obtain ⟨es, hs, hw⟩ := hi
    exact lists_of_connective ht hs (.blanks hw hb)

theorem lists_of_reaches (h : Relation.ReflTransGen Advances scan last) (hi : Lists text scan) :
    Lists text last := by
  induction h with
  | refl => exact hi
  | tail _ h ih => exact lists_of_advances h ih

theorem written_of_finish (hi : Lists text scan) (hb : Skips scan.rest [])
    (h : finish scan = .ok f) : ∃ es, BuiltFrom f es ∧ Written ReadAs text es [] := by
  obtain ⟨rest, g, rfl, hf⟩ := finish_eq_ok h
  obtain ⟨es, hs, hw⟩ := hi
  cases hs with
  | mk negated ho hb' =>
    cases ho
    cases hf
    exact ⟨_, builtFrom_finish hb', .blanks hw hb⟩

theorem written_of_run (hi : Lists text scan) (h : run scan = .ok f) :
    ∃ es, BuiltFrom f es ∧ Written ReadAs text es [] := by
  obtain ⟨last, hr, hb, hf⟩ := exists_last_of_run h
  exact written_of_finish (lists_of_reaches hr hi) hb hf

theorem run_of_outOfRange {name : String} {digits : List Char} (negative : Bool)
    (hs : Skips s (sign negative ++ s₁)) (hr : Run Char.isDigit digits s₁ rest)
    (hf : NoFraction rest)
    (hn : signed? (if negative then -digitsValue digits else digitsValue digits) = none) :
    run ⟨s, scopes, .value name op⟩ = failAt .numberOutOfRange (sign negative ++ s₁) := by
  have hstart := startsToken_sign negative hr
  have ht : trimLeft (sign negative ++ s₁) = sign negative ++ s₁ :=
    (skips_self _).trimLeft_eq hstart.not_isBlank
  have hne : (sign negative ++ s₁).isEmpty = false := by
    obtain ⟨c, hc, -⟩ := hstart
    obtain ⟨t, ht⟩ := List.head?_eq_some_iff.1 hc
    rw [ht]
    rfl
  have hv : readValue (sign negative ++ s₁) = .error .numberOutOfRange := by
    rw [readValue_sign hr, readFraction_of_noFraction hf]
    simp [NumberToken.literal?, hn]
  rw [run_skips hs, run_eq]
  simp only [ht, hne, Bool.false_eq_true, if_false, step, readOperandValue, hv]
  rfl

end Scan

theorem ofText_of_readValue {text : String} {name s₃ s₄ : List Char} {op : Comparison}
    (hn : Run isWord name text.toList s₁) (hs : Skips s₁ s₂) (hk : Keyword op.keyword s₂ s₃)
    (hs' : Skips s₃ s₄) (ht : StartsToken s₄) (hv : readValue s₄ = .ok (v, [])) :
    ofText text = .ok (compare (column (String.ofList name)) op (literal v)) := by
  have hstep : Scan.step ⟨s₄, [{}], .value (String.ofList name) op⟩ =
      .ok ⟨[], [{ condition := some (compare (column (String.ofList name)) op (literal v)) }],
        .connective⟩ := by
    simp [Scan.step, Scan.readOperandValue, hv, Scope.attach]
  rw [ofText, Scan.run_step (.of_startsWord hn.startsWord) (Scan.step_name hn hs hk),
    Scan.run_skips hs, Scan.run_step (.of_startsWord (startsWord_of_keyword hk))
      (Scan.step_comparison hk (hs'.unfolded ht.unfolded)),
    Scan.run_skips hs', Scan.run_step ht hstep, Scan.run_eq]
  rfl

def valueText (value : List Char) : String :=
  String.ofList ('A' :: ' ' :: 'e' :: 'q' :: ' ' :: value)

theorem ofText_valueText {value : List Char} (ht : StartsToken value)
    (hv : readValue value = .ok (v, [])) :
    ofText (valueText value) = .ok (compare (column "A") .eq (literal v)) := by
  have hn : Run isWord ['A'] (valueText value).toList (' ' :: 'e' :: 'q' :: ' ' :: value) :=
    ⟨by decide, by decide, by simp [valueText], by simp; decide⟩
  have hk : Keyword Comparison.eq.keyword ('e' :: 'q' :: ' ' :: value) (' ' :: value) :=
    ⟨⟨['e', 'q'], by decide, rfl⟩, by simp; decide⟩
  have hs (s : List Char) : Skips (' ' :: s) s := ⟨[' '], by decide, rfl⟩
  exact ofText_of_readValue hn (hs _) hk (hs _) ht hv

/-- The filter is built from the comparisons of the text, each with the literal that is spelled. -/
def Spelled (text : String) (f : Filter) : Prop :=
  ∃ es, BuiltFrom f es ∧ Written Faithful text.toList es []

theorem Spelled.exists_token {text : String} {f : Filter} {es : List Entry} (h : Spelled text f)
    (hf : BuiltFrom f es) : ∀ e ∈ es, ∃ s rest, s <:+ text.toList ∧ Faithful s e.value rest := by
  obtain ⟨es', hf', hw⟩ := h
  rw [hf.unique hf']
  exact hw.exists_token fun _ _ _ h => h.denotes.suffix

theorem spelled_iff {text : String} {f : Filter} {es : List Entry} (hf : BuiltFrom f es)
    (hw : Written ReadAs text.toList es [])
    (hnull : ∀ e ∈ es, e.value = .null → '\u017F' ∉ text.toList) :
    Spelled text f ↔ ∀ e ∈ es, ∀ x, e.value = .float x → isFinite x = true := by
  constructor
  · intro hs e he x hex
    obtain ⟨_, _, -, -, hfinite⟩ := hs.exists_token hf e he
    exact hfinite x hex
  · intro hx
    refine ⟨es, hf, hw.mono (fun _ _ _ h => h.suffix) fun e he s rest hsuffix hv => ?_⟩
    generalize hev : e.value = v at hv
    cases hv with
    | faithful h => exact h
    | longFalse h =>
      -- the token would bring its letter into the text
      obtain ⟨w, -, hl, rfl, -⟩ := h
      exact absurd (hsuffix.subset (List.mem_append_left _ hl)) (hnull e he hev)
    | infinite _ hi =>
      rw [hx e he _ hev] at hi
      cases hi

/-- A filter that is read is built from the comparisons of its text. They are spelled as they are
read but for a `false` with a long s and for decimals beyond the doubles: if no null is read from a
text with this letter, all of them are exactly if the doubles are finite. A text is refused when the
scanner comes to an integer beyond the range where it expects a value. -/
theorem spelled_ofText (text : String) :
    (∀ f, ofText text = .ok f →
      ∃ es, BuiltFrom f es ∧ Written ReadAs text.toList es [] ∧
        ((∀ e ∈ es, e.value = .null → '\u017F' ∉ text.toList) →
          (Spelled text f ↔ ∀ e ∈ es, ∀ x, e.value = .float x → isFinite x = true))) ∧
    ∀ (name : String) (op : Comparison) (scopes : List Scope) (negative : Bool)
      (digits s s₁ rest : List Char),
      Relation.ReflTransGen Scan.Advances ⟨text.toList, [{}], .operand⟩
        ⟨s, scopes, .value name op⟩ →
      Skips s (sign negative ++ s₁) → Run Char.isDigit digits s₁ rest → NoFraction rest →
      signed? (if negative then -digitsValue digits else digitsValue digits) = none →
      ofText text = failAt .numberOutOfRange (sign negative ++ s₁) := by
  constructor
  · intro f h
    have hstart : Lists text.toList ⟨text.toList, [{}], .operand⟩ :=
      ⟨[], .cons .nil (.fresh false), .start⟩
    obtain ⟨es, hf, hw⟩ := Scan.written_of_run hstart h
    exact ⟨es, hf, hw, spelled_iff hf hw⟩
  · intro name op scopes negative digits s s₁ rest hreached hs hr hf hn
    rw [ofText, Scan.run_of_reaches hreached]
    exact Scan.run_of_outOfRange negative hs hr hf hn

theorem spelled_ofText_nullKeyword :
    ofText (valueText ['n', 'U', 'L', 'L']) = .ok (compare (column "A") .eq (literal .null)) ∧
      Spelled (valueText ['n', 'U', 'L', 'L']) (compare (column "A") .eq (literal .null)) ∧
      signed? (-9223372036854775809) = none ∧
      ofText "(A eq -9223372036854775809)" =
        failAt .numberOutOfRange "-9223372036854775809)".toList := by
  have hf : ofText (valueText ['n', 'U', 'L', 'L']) =
      .ok (compare (column "A") .eq (literal .null)) :=
    ofText_valueText ⟨'n', rfl, by decide, by decide⟩ rfl
  refine ⟨hf, ?_, by decide, ?_⟩
  · obtain ⟨es, hb, -, hs⟩ := (spelled_ofText _).1 _ hf
    obtain rfl := hb.unique (.compare _ _ _)
    exact (hs fun _ _ _ => by decide).2 (by simp)
  · have hr : Run Char.isDigit "9223372036854775809".toList "9223372036854775809)".toList [')'] :=
      ⟨by decide, by decide, by decide, by decide⟩
    have hreached : Relation.ReflTransGen Scan.Advances
        ⟨"(A eq -9223372036854775809)".toList, [{}], .operand⟩
        ⟨" -9223372036854775809)".toList, [{}, {}], .value "A" .eq⟩ :=
      .head rfl (.head rfl (.single rfl))
    exact (spelled_ofText _).2 "A" .eq [{}, {}] true _ _ _ [')'] hreached
      ⟨[' '], by decide, rfl⟩ hr nofun (by decide)

theorem exists_of_spells_null (h : Spells "null" s rest) : ∃ c ∈ s, c.toLower = 'n' := by
  obtain ⟨w, hl, rfl⟩ := h
  have hm : w.map Char.toLower = ['n', 'u', 'l', 'l'] := by
    simpa [lowerAscii] using congrArg String.toList hl
  obtain ⟨c, w, rfl, hc, -⟩ := List.map_eq_cons_iff.1 hm
  exact ⟨c, by simp, hc⟩

def longFalse : List Char := ['f', 'a', 'l', '\u017F', 'e']

def overlargeDigits : List Char := '1' :: List.replicate 309 '0'

theorem readValue_overlargeDigits :
    StartsToken (overlargeDigits ++ ['.', '0']) ∧
      ∃ x, isFinite x = false ∧ readValue (overlargeDigits ++ ['.', '0']) = .ok (.float x, []) := by
  have hdigits : ∀ c ∈ overlargeDigits, c.isDigit = true := by
    intro c hc
    obtain rfl | hc := List.mem_cons.1 hc
    · rfl
    · rw [List.eq_of_mem_replicate hc]
      rfl
  have hw : Run Char.isDigit overlargeDigits (overlargeDigits ++ ['.', '0']) ['.', '0'] :=
    ⟨nofun, hdigits, rfl, by decide⟩
  have hf : Run Char.isDigit ['0'] ['0'] [] := ⟨by decide, by decide, rfl, by decide⟩
  have hx : isFinite (Numeral.ofDigits false overlargeDigits ['0'] 0).toFloat = false := by
    decide +kernel
  have hend : EndsValue [] := ⟨by simp [Unfolded], by simp⟩
  exact ⟨startsToken_sign false hw, _, hx, readValue_of_denotes (.decimal false hw hf) hend⟩

/-- The word with a long s is read as null, and the number as an infinite double. -/
theorem not_spelled_longFalse :
    (∃ f, ofText (valueText longFalse) = .ok f ∧ ¬ Spelled (valueText longFalse) f) ∧
    ∃ f, ofText (valueText (overlargeDigits ++ ['.', '0'])) = .ok f ∧
      ¬ Spelled (valueText (overlargeDigits ++ ['.', '0'])) f := by
  constructor
  · refine ⟨_, ofText_valueText ⟨'f', rfl, by decide, by decide⟩ rfl, fun h => ?_⟩
    obtain ⟨s, rest, hs, hd, -⟩ := h.exists_token (.compare _ _ _) _ (List.mem_singleton.2 rfl)
    cases hd with
    | null hk =>
      -- no letter of the text could be the first one of `null`
      have hno : ∀ c ∈ (valueText longFalse).toList, c.toLower ≠ 'n' := by decide
      obtain ⟨c, hc, hn⟩ := exists_of_spells_null hk.1
      exact hno c (hs.subset hc) hn
  · obtain ⟨ht, x, hx, hv⟩ := readValue_overlargeDigits
    refine ⟨_, ofText_valueText ht hv, fun h => ?_⟩
    obtain ⟨_, _, -, -, hfinite⟩ := h.exists_token (.compare _ _ _) _ (List.mem_singleton.2 rfl)
    exact absurd ((hfinite x rfl).symm.trans hx) (by decide)

end GridQuery.Filter
