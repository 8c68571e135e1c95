import GridQuery.Filter.Scanner
import GridQuery.Proofs.Text.Marks

/-! # The grammar of filter texts

A filter text is a term, or a filter text joined to one more term by `and` or `or`. A term is a
comparison, a group or a negated group. Every relation leads from a text, over what is read at its
start, to the rest. -/

namespace GridQuery.Filter
open Text Decimal

/-- White space at the start of the text is passed over, as much of it as one likes. -/
def Skips (s rest : List Char) : Prop := ∃ w, (∀ c ∈ w, isBlank c = true) ∧ s = w ++ rest

/-- The text starts with a word, in any ASCII case. -/
def Spells (word : String) (s rest : List Char) : Prop :=
  ∃ w, lowerAscii (String.ofList w) = word ∧ s = w ++ rest

/-- The text starts with a keyword, and no word goes on behind it. -/
def Keyword (keyword : String) (s rest : List Char) : Prop :=
  Spells keyword s rest ∧ EndsWord rest

/-- The text starts with a run of some characters that is as long as it can be. -/
structure Run (p : Char → Bool) (run s rest : List Char) : Prop where
  ne_nil : run ≠ []
  all : ∀ c ∈ run, p c = true
  eq : s = run ++ rest
  ends : ∀ c ∈ rest.head?, p c = false

def sign (negative : Bool) : List Char := if negative then ['-'] else []

def NoFraction (rest : List Char) : Prop :=
  ∀ fraction s' rest', rest = '.' :: s' → ¬ Run Char.isDigit fraction s' rest'

/-- The text starts with a value. -/
inductive Denotes : List Char → Literal → List Char → Prop where
  | quoted (text rest : List Char) :
      Denotes ('\'' :: (doubled '\'' text ++ '\'' :: rest)) (.string (String.ofList text)) rest
  | null {s rest : List Char} : Keyword "null" s rest → Denotes s .null rest
  | bool {s rest : List Char} (b : Bool) : Keyword (if b then "true" else "false") s rest →
      Denotes s (.bool b) rest
  | integer {digits s rest : List Char} (negative : Bool) (n : Int64) :
      Run Char.isDigit digits s rest →
      NoFraction rest →
      n.toInt = (if negative then -(digitsValue digits : Int) else digitsValue digits) →
      Denotes (sign negative ++ s) (.int n) rest
  | decimal {whole fraction s s' rest : List Char} (negative : Bool) :
      Run Char.isDigit whole s ('.' :: s') → Run Char.isDigit fraction s' rest →
      Denotes (sign negative ++ s)
        (.float (Numeral.ofDigits negative whole fraction 0).toFloat) rest

def connectiveKeyword : Connective → String
  | .and => "and"
  | .or => "or"

inductive Part where
  | term
  | filter

/-- The text starts with a term or a filter. -/
inductive Derives : Part → List Char → Filter → List Char → Prop where
  | comparison {name s s₁ s₂ s₃ s₄ rest : List Char} {v : Literal} (op : Comparison) :
      Run isWord name s s₁ → Skips s₁ s₂ → Keyword op.keyword s₂ s₃ → Skips s₃ s₄ →
      Denotes s₄ v rest →
      Derives .term s (compare (column (String.ofList name)) op (literal v)) rest
  | group {s s₁ s₂ rest : List Char} {f : Filter} : Skips s s₁ → Derives .filter s₁ f s₂ →
      Skips s₂ (')' :: rest) → Derives .term ('(' :: s) f rest
  | negation {s s₁ s₂ s₃ s₄ rest : List Char} {f : Filter} : Spells "not" s s₁ →
      Skips s₁ ('(' :: s₂) → Skips s₂ s₃ → Derives .filter s₃ f s₄ → Skips s₄ (')' :: rest) →
      Derives .term s (not f) rest
  | term {s rest : List Char} {f : Filter} : Derives .term s f rest → Derives .filter s f rest
  | connective {s s₁ s₂ s₃ s₄ rest : List Char} {l r : Filter} (op : Connective) :
      Derives .filter s l s₁ → Skips s₁ s₂ → Keyword (connectiveKeyword op) s₂ s₃ →
      Skips s₃ s₄ → Derives .term s₄ r rest → Derives .filter s (combine l op r) rest

end GridQuery.Filter
