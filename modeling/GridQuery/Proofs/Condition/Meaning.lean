import GridQuery.Proofs.Condition.Text
import GridQuery.Proofs.Expression.Grammar

/-! # The meaning of a condition

The text of a condition is read as exactly one expression, and this expression has the form of
the filter: parentheses stand wherever a reader would otherwise join operands differently. -/

namespace GridQuery

namespace Expression
open Text
variable {s : List Char} {ts : List Token} {e : Expression}

/-- The text is read as an expression. -/
def ReadAs (text : String) (e : Expression) : Prop :=
  ∃ ts, tokens? text.toList = some ts ∧ Reads .disjunction ts e

def Operator.text : Operator → String
  | eq => "="
  | ne => "<>"
  | lt => "<"
  | le => "<="
  | gt => ">"
  | ge => ">="
  | is => "IS"
  | isNot => "IS NOT"
  | like => "LIKE"
  | notLike => "NOT LIKE"

def connectiveToken : Connective → Token
  | .and => .and
  | .or => .or

theorem tokens?_blanks {w : List Char} (h : ∀ c ∈ w, isBlank c = true) :
    tokens? (w ++ s) = tokens? s := by
  induction w with
  | nil => rfl
  | cons c w ih =>
    rw [List.cons_append, tokens?_of_isBlank (h c (by simp)),
      ih fun d hd => h d (List.mem_cons_of_mem c hd)]

theorem tokens?_space : tokens? (' ' :: s) = tokens? s := tokens?_of_isBlank (by decide)

theorem tokens?_word {w : List Char} {t : Token} (hw : ∀ c ∈ w, isWord c = true)
    (hk : keyword? w = some t) : tokens? (w ++ ' ' :: s) = (tokens? s).map (t :: ·) := by
  rw [tokens?_keyword hw hk (endsWord_cons.2 (by decide)), tokens?_space]

theorem tokens?_symbol {c : Char} {rest : List Char} {t : Token} (hc : isBlank c = false)
    (h : nextToken? (c :: s) = some (t, ' ' :: rest)) :
    tokens? (c :: s) = (tokens? rest).map (t :: ·) := by
  rw [tokens?_of_nextToken? hc h, tokens?_space]

theorem tokens?_operator (op : Operator) :
    tokens? ((" " ++ op.text ++ " ").toList ++ s) = (tokens? s).map (op.tokens ++ ·) := by
  have his (s : List Char) : tokens? ("IS".toList ++ ' ' :: s) = (tokens? s).map (.is :: ·) :=
    tokens?_word (by decide) (by decide)
  have hnot (s : List Char) : tokens? ("NOT".toList ++ ' ' :: s) = (tokens? s).map (.not :: ·) :=
    tokens?_word (by decide) (by decide)
  have hlike : tokens? ("LIKE".toList ++ ' ' :: s) = (tokens? s).map (.like :: ·) :=
    tokens?_word (by decide) (by decide)
  cases op with
  | eq | ne | lt | le | gt | ge => exact tokens?_space.trans (tokens?_symbol (by decide) rfl)
  | is => exact tokens?_space.trans (his s)
  | like => exact tokens?_space.trans hlike
  | isNot =>
    refine tokens?_space.trans ((his ("NOT".toList ++ ' ' :: s)).trans ?_)
    rw [hnot, Option.map_map]
    rfl
  | notLike =>
    refine tokens?_space.trans ((hnot ("LIKE".toList ++ ' ' :: s)).trans ?_)
    rw [hlike, Option.map_map]
    rfl

theorem tokens?_connective (op : Connective) :
    tokens? (op.sqlKeyword.toList ++ '\n' :: s) = (tokens? s).map (connectiveToken op :: ·) := by
  have hn : tokens? ('\n' :: s) = tokens? s := tokens?_of_isBlank (by decide)
  have hs : EndsWord ('\n' :: s) := endsWord_cons.2 (by decide)
  have hw : ∀ c ∈ op.sqlKeyword.toList, isWord c = true := by cases op <;> decide
  have hk : keyword? op.sqlKeyword.toList = some (connectiveToken op) := by cases op <;> decide
  rw [tokens?_keyword hw hk hs, hn]

theorem tokens?_leftParen : tokens? ('(' :: s) = (tokens? s).map (.leftParen :: ·) :=
  tokens?_of_nextToken? (by decide) rfl

theorem tokens?_rightParen : tokens? (')' :: s) = (tokens? s).map (.rightParen :: ·) :=
  tokens?_of_nextToken? (by decide) rfl

/-- The text is read as the tokens wherever a token may end behind it. -/
def Lexes (text : String) (ts : List Token) : Prop :=
  ∀ s, EndsToken s → tokens? (text.toList ++ s) = (tokens? s).map (ts ++ ·)

theorem lexes_identifier (name : String) : Lexes (identifier name) [.name (sanitize name)] := by
  intro s hs
  have hm : MadeOf [] (sanitize name) := madeOf_sanitize name
  have hn : ']' ∉ (sanitize name).toList := hm.not_mem (by decide) (by simp)
  have hi : (identifier name).toList ++ s = '[' :: ((sanitize name).toList ++ ']' :: s) := by
    simp [identifier_eq]
  rw [hi]
  refine tokens?_of_nextToken? (by decide) ?_
  simp [nextToken?, bracketedName?_append hn hs]

theorem lexes_placeholder (n : Nat) :
    Lexes (GridQuery.placeholder n) [.placeholder (GridQuery.placeholder n)] := by
  intro s hs
  have hw : ∀ c ∈ (toString n).toList, isWord c = true := fun c hc => isWord_of_mem_toString hc
  have hp : (GridQuery.placeholder n).toList = '@' :: (toString n).toList := by
    simp [GridQuery.placeholder]
  obtain ⟨ht, hd⟩ := takeWhile_append_of_ends hw hs.endsWord
  rw [hp, List.cons_append]
  refine tokens?_of_nextToken? (by decide) ?_
  rw [nextToken?, ht, hd, ← hp, String.ofList_toList]

theorem lexes_null : Lexes "NULL" [.null] :=
  fun _ hs => tokens?_keyword (by decide) (by decide) hs.endsWord

theorem Lexes.group {text : String} (h : Lexes text ts) :
    Lexes ("(" ++ text ++ ")") (.leftParen :: (ts ++ [.rightParen])) := by
  intro s hs
  have hp : ("(" ++ text ++ ")").toList ++ s = '(' :: (text.toList ++ ')' :: s) := by simp
  rw [hp, tokens?_leftParen, h _ (endsToken_cons.2 (by decide)), tokens?_rightParen]
  simp [Function.comp_def]

theorem Lexes.compare {left right : String} {ls rs : List Token} (hl : Lexes left ls)
    (op : Operator) (hr : Lexes right rs) :
    Lexes (left ++ (" " ++ op.text ++ " " ++ right)) (ls ++ (op.tokens ++ rs)) := by
  intro s hs
  have ho : (left ++ (" " ++ op.text ++ " " ++ right)).toList ++ s =
      left.toList ++ ((" " ++ op.text ++ " ").toList ++ (right.toList ++ s)) := by simp
  rw [ho, hl _ (by simp; decide), tokens?_operator, hr s hs]
  simp [Function.comp_def]

theorem Lexes.combine {left right : String} {ls rs : List Token} (hl : Lexes left ls)
    (op : Connective) (d : Nat) (hr : Lexes right rs) :
    Lexes (left ++ ("\n" ++ Script.indentation d ++ op.sqlKeyword ++ "\n" ++
      Script.indentation d ++ right)) (ls ++ connectiveToken op :: rs) := by
  intro s hs
  have hi : ∀ c ∈ (Script.indentation d).toList, isBlank c = true := by
    intro c hc
    simp only [Script.indentation, String.toList_ofList, List.mem_replicate] at hc
    exact hc.2 ▸ by decide
  have ho : (left ++ ("\n" ++ Script.indentation d ++ op.sqlKeyword ++ "\n" ++
      Script.indentation d ++ right)).toList ++ s =
      left.toList ++ '\n' :: ((Script.indentation d).toList ++ (op.sqlKeyword.toList ++
        '\n' :: ((Script.indentation d).toList ++ (right.toList ++ s)))) := by simp
  rw [ho, hl _ (endsToken_cons.2 (by decide)), tokens?_of_isBlank (by decide), tokens?_blanks hi,
    tokens?_connective, tokens?_blanks hi, hr s hs]
  simp [Function.comp_def]

theorem Lexes.not {text : String} (h : Lexes text ts) :
    Lexes ("NOT (" ++ text ++ ")") (.not :: .leftParen :: (ts ++ [.rightParen])) := by
  intro s hs
  have hp : ("NOT (" ++ text ++ ")").toList ++ s =
      "NOT".toList ++ ' ' :: (("(" ++ text ++ ")").toList ++ s) := by simp
  rw [hp, tokens?_word (t := .not) (by decide) (by decide), h.group s hs]
  simp [Function.comp_def]

end Expression

namespace Filter
open Binding Text
open Expression hiding name placeholder null compare combine not

/-- The operator by which a comparison is written; null on the right is compared by `IS`. -/
def operator (op : Comparison) (right : Filter) : Operator :=
  match op with
  | .eq => if right.isNull then .is else .eq
  | .ne => if right.isNull then .isNot else .ne
  | .lt => .lt
  | .le => .le
  | .gt => .gt
  | .ge => .ge
  | .contains | .startsWith | .endsWith => .like
  | .notContains => .notLike

/-- The expression of the same form as the filter, its placeholders from some number on. -/
def expression : Filter → Nat → Expression
  | column name, _ => .name (sanitize name)
  | literal v, number => if v.isNull then .null else .placeholder (placeholder number)
  | compare left op right, number =>
    .compare (left.expression number) (operator op right)
      (right.expression (number + left.literalCount))
  | combine left op right, number =>
    .combine (left.expression number) op (right.expression (number + left.literalCount))
  | not inner, number => .not (inner.expression number)

def encloseTokens (grouped : Bool) (ts : List Token) : List Token :=
  if grouped then .leftParen :: (ts ++ [.rightParen]) else ts

def tokens : Filter → Nat → List Token
  | column name, _ => [.name (sanitize name)]
  | literal v, number => if v.isNull then [.null] else [.placeholder (placeholder number)]
  | compare left op right, number =>
    encloseTokens (!left.isLeaf) (left.tokens number) ++ ((operator op right).tokens ++
      encloseTokens (!right.isLeaf) (right.tokens (number + left.literalCount)))
  | combine left op right, number =>
    encloseTokens left.isCombination (left.tokens number) ++ connectiveToken op ::
      encloseTokens right.isCombination (right.tokens (number + left.literalCount))
  | not inner, number => .not :: encloseTokens true (inner.tokens number)

theorem operatorText_eq (op : Comparison) (right : Filter) :
    operatorText op right = (operator op right).text := by
  cases hr : right.isNull <;> cases op <;> simp [operatorText, operator, hr] <;> rfl

theorem lexes_enclose {t : Nat → String} {ts : List Token} (h : ∀ d, Lexes (t d) ts)
    (grouped : Bool) (d : Nat) : Lexes (enclose grouped t d) (encloseTokens grouped ts) := by
  cases grouped
  · exact h d
  · exact (h (d + 1)).group

theorem lexes_conditionText (f : Filter) (d n : Nat) :
    Lexes (f.conditionText d n) (f.tokens n) := by
  induction f generalizing d n with
  | column name => exact lexes_identifier name
  | literal v =>
    cases hv : v.isNull
    · simpa [conditionText, tokens, hv] using lexes_placeholder n
    · simpa [conditionText, tokens, hv] using lexes_null
  | compare left op right ihl ihr =>
    rw [conditionText, tokens, operatorText_eq]
    exact (lexes_enclose (ihl · n) _ d).compare _ (lexes_enclose (ihr · _) _ d)
  | combine left op right ihl ihr =>
    exact (lexes_enclose (ihl · n) _ d).combine op d (lexes_enclose (ihr · _) _ d)
  | not inner ih => exact (ih d n).not

def level : Filter → Level
  | column _ | literal _ => .operand
  | compare .. => .comparison
  | combine _ .and _ => .conjunction
  | combine _ .or _ => .disjunction
  | not _ => .negation

theorem reads_operand {f : Filter} {n : Nat} (h : Reads f.level (f.tokens n) (f.expression n)) :
    Reads .operand (encloseTokens (!f.isLeaf) (f.tokens n)) (f.expression n) := by
  cases f with
  | column | literal => exact h
  | compare | combine | not => exact .group h.disjunction_of

theorem reads_negation {f : Filter} {n : Nat} (h : Reads f.level (f.tokens n) (f.expression n)) :
    Reads .negation (encloseTokens f.isCombination (f.tokens n)) (f.expression n) := by
  cases f with
  | column | literal => exact .comparison (.operand h)
  | compare => exact .comparison h
  | combine => exact .comparison (.operand (.group h.disjunction_of))
  | not => exact h

theorem reads_tokens (f : Filter) (n : Nat) : Reads f.level (f.tokens n) (f.expression n) := by
  induction f generalizing n with
  | column name => exact .name _
  | literal v =>
    cases hv : v.isNull
    · simpa [tokens, expression, hv] using .placeholder _
    · simpa [tokens, expression, hv] using .null
  | compare left op right ihl ihr =>
    exact .compare _ (reads_operand (ihl n)) (reads_operand (ihr _))
  | combine left op right ihl ihr =>
    cases op
    · exact .and (.negation (reads_negation (ihl n))) (reads_negation (ihr _))
    · exact .or (.conjunction (.negation (reads_negation (ihl n))))
        (.negation (reads_negation (ihr _)))
  | not inner ih => exact .not (.comparison (.operand (.group (ih n).disjunction_of)))

/-- The text of a condition is read as exactly one expression, that of the form of the filter,
and its placeholders are bound behind those bound before. -/
theorem readAs_condition {f : Filter} {b b' : Bindings} {text : String}
    (h : f.condition b = (.ok text, b')) :
    (∀ e, ReadAs text e ↔ e = f.expression b.size) ∧
      b'.values = b.values ++ f.boundLiterals := by
  obtain ⟨-, rfl, rfl⟩ := condition_eq_ok_iff.1 h
  have ht : tokens? (f.conditionText 0 b.size).toList = some (f.tokens b.size) := by
    simpa using lexes_conditionText f 0 b.size [] endsToken_nil
  have hr := (reads_tokens f b.size).disjunction_of
  refine ⟨fun e => ⟨?_, ?_⟩, rfl⟩
  · rintro ⟨ts, hts, he⟩
    obtain rfl : f.tokens b.size = ts := Option.some.inj (ht.symm.trans hts)
    exact he.unique hr
  · rintro rfl
    exact ⟨f.tokens b.size, ht, hr⟩

def nested : Filter :=
  .not (.combine (.combine (.column "A B") .or (.compare (.column "C") .ne (.literal .null))) .and
    (.compare (.column "D") .contains (.literal (.string "x"))))

theorem readAs_condition_nested :
    ∃ text b', nested.condition ⟨[.bool true]⟩ = (.ok text, b') ∧
      (∀ e, ReadAs text e ↔
        e = .not (.combine (.combine (.name "A_B") .or (.compare (.name "C") .isNot .null)) .and
          (.compare (.name "D") .like (.placeholder "@1")))) ∧
      b'.values = [.bool true, .string "%x%"] := by
  have h : nested.condition ⟨[.bool true]⟩ = (.ok (nested.conditionText 0 1), ⟨_⟩) :=
    condition_eq_ok_iff.2 ⟨rfl, rfl, rfl⟩
  have he : nested.expression 1 =
      .not (.combine (.combine (.name "A_B") .or (.compare (.name "C") .isNot .null)) .and
        (.compare (.name "D") .like (.placeholder "@1"))) := by decide
  obtain ⟨hr, hb⟩ := readAs_condition h
  exact ⟨_, _, h, he ▸ hr, hb⟩

end Filter

end GridQuery
