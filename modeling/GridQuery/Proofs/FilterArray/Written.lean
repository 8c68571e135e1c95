import GridQuery.Filter.Array

/-! # Filters written as arrays

A filter that compares columns with scalars is written as an array, with every operand of a
connective or negation as an array of its own. Reading the array gives the filter back, however
its operators are spelled. -/

namespace GridQuery
open Text

def Literal.isScalar : Literal → Bool
  | null | bool _ | int _ | string _ => true
  | _ => false

theorem Literal.ofJson_toJson {v : Literal} (hv : v.isScalar = true) : ofJson v.toJson = .ok v := by
  cases v with
  | int n => simp [toJson, ofJson, signed?_toInt]
  | null | bool | string => rfl
  | _ => cases hv

namespace Filter

/-- The filter joins and negates comparisons, each between a column with such a name and a
scalar. -/
inductive Plain (isName : String → Prop) : Filter → Prop where
  | compare {name : String} {v : Literal} (op : Comparison) :
      isName name → v.isScalar = true → Plain isName (compare (column name) op (literal v))
  | combine {left right : Filter} (op : Connective) :
      Plain isName left → Plain isName right → Plain isName (combine left op right)
  | not {inner : Filter} : Plain isName inner → Plain isName (not inner)

theorem Plain.mono {isName isName' : String → Prop} {f : Filter}
    (hn : ∀ name, isName name → isName' name) (h : Plain isName f) : Plain isName' f := by
  induction h with
  | compare op h hv => exact .compare op (hn _ h) hv
  | combine op _ _ ihl ihr => exact .combine op ihl ihr
  | not _ ih => exact .not ih

structure Spelling where
  comparison : Comparison → String
  connective : Connective → String
  ofToken?_comparison : ∀ op, Comparison.ofToken? (comparison op) = some op
  ofKeyword?_connective : ∀ op, Connective.ofKeyword? (connective op) = some op

namespace Spelling

def keywords : Spelling where
  comparison := Comparison.keyword
  connective
    | .and => "and"
    | .or => "or"
  ofToken?_comparison op := by cases op <;> decide
  ofKeyword?_connective op := by cases op <;> decide

/-- Symbols for the comparisons that have one, and keywords of statements for connectives. -/
def symbols : Spelling where
  comparison op := if op.isPattern then op.keyword else op.sqlOperator
  connective := Connective.sqlKeyword
  ofToken?_comparison op := by cases op <;> decide
  ofKeyword?_connective op := by cases op <;> decide

end Spelling

def array (sp : Spelling) : Filter → Json
  | column name => .string name
  | literal v => v.toJson
  | compare left op right =>
    .array [left.array sp, .string (sp.comparison op), right.array sp]
  | combine left op right =>
    .array [left.array sp, .string (sp.connective op), right.array sp]
  | not inner => .array [.string "!", inner.array sp]

section Reading
variable {sp : Spelling} {f : Filter} {v : Literal}

theorem ofToken?_of_connective {text : String} {op : Connective}
    (h : Connective.ofKeyword? text = some op) : Comparison.ofToken? text = none := by
  have hl : lowerAscii text = lowerAscii "and" ∨ lowerAscii text = lowerAscii "or" := by
    unfold Connective.ofKeyword? equalIgnoringCase at h
    split at h
    · rename_i ha
      exact .inl (eq_of_beq ha)
    · split at h
      · rename_i ho
        exact .inr (eq_of_beq ho)
      · cases h
  unfold Comparison.ofToken?
  split
  -- no symbol is a connective in lower case, and neither is a keyword
  case h_7 => rcases hl with hl | hl <;> rw [Comparison.ofKeyword?, hl] <;> decide
  all_goals exact absurd hl (by decide)

theorem ofKeyword?_comparison (sp : Spelling) (op : Comparison) :
    Connective.ofKeyword? (sp.comparison op) = none := by
  refine Option.eq_none_iff_forall_ne_some.2 fun c hc => ?_
  exact absurd ((sp.ofToken?_comparison op).symm.trans (ofToken?_of_connective hc)) nofun

theorem literalOf_toJson (hv : v.isScalar = true) : literalOf v.toJson = .ok (literal v) := by
  rw [literalOf, Literal.ofJson_toJson hv]

theorem ofRest_scalar {left : Filter} {op : Comparison} {j : Json}
    (hl : literalOf j = .ok (literal v)) :
    ofRest left [.string (sp.comparison op), j] = .ok (compare left op (literal v)) := by
  have hc := ofKeyword?_comparison sp op
  have ho := sp.ofToken?_comparison op
  cases j with
  | array => cases hl
  | _ =>
    simp only [ofRest, hc, ho, hl]
    rfl

/-- The array of a filter is a group that reads as the filter. -/
theorem ofItems_array (h : Plain (· ≠ "!") f) (sp : Spelling) :
    ∃ items, f.array sp = .array items ∧ ofItems items = .ok f := by
  induction h with
  | @compare name v op hn hv =>
    refine ⟨_, rfl, ?_⟩
    rw [array, array, ofItems]
    · exact ofRest_scalar (literalOf_toJson hv)
    · exact fun h => hn h
    · simp
  | combine op _ _ ihl ihr =>
    obtain ⟨l, hl, hlf⟩ := ihl
    obtain ⟨r, hr, hrf⟩ := ihr
    refine ⟨_, rfl, ?_⟩
    rw [hl, hr, ofItems, hlf]
    show ofRest _ [_, _] = _
    rw [ofRest, sp.ofKeyword?_connective]
    simp only
    rw [ofGroup, hrf]
    rfl
  | not _ ih =>
    obtain ⟨items, hi, hf⟩ := ih
    refine ⟨_, rfl, ?_⟩
    rw [hi, ofItems, ofGroup, hf]
    rfl

theorem ofJson_array (h : Plain (· ≠ "!") f) (sp : Spelling) : ofJson (f.array sp) = .ok f := by
  obtain ⟨items, hi, hf⟩ := ofItems_array h sp
  rw [ofJson, hi, ofGroup, hf]

end Reading
end Filter
end GridQuery
