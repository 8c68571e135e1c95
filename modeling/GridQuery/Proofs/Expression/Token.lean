import GridQuery.Filter.Token
import GridQuery.Proofs.Placeholder

/-! # Tokens of expressions

The text of an expression is read as tokens. White space parts tokens and is dropped, keywords
are read in any ASCII case, and a word, an operator or a name between brackets ends as late as it
can. -/

namespace GridQuery.Expression
open Text

inductive Token where
  | name (n : String)
  | placeholder (n : String)
  | null
  | and
  | or
  | not
  | is
  | like
  | equal
  | unequal
  | less
  | lessEqual
  | greater
  | greaterEqual
  | leftParen
  | rightParen
  deriving DecidableEq

def keyword? (word : List Char) : Option Token :=
  match lowerAscii (String.ofList word) with
  | "null" => some .null
  | "and" => some .and
  | "or" => some .or
  | "not" => some .not
  | "is" => some .is
  | "like" => some .like
  | _ => none

/-- Reads a name behind its opening bracket. Two closing brackets stand for one in the name. -/
def bracketedName? : List Char → Option (List Char × List Char)
  | [] => none
  | ']' :: ']' :: s => (bracketedName? s).map fun (name, rest) => (']' :: name, rest)
  | ']' :: s => some ([], s)
  | c :: s => (bracketedName? s).map fun (name, rest) => (c :: name, rest)

def nextToken? : List Char → Option (Token × List Char)
  | '(' :: s => some (.leftParen, s)
  | ')' :: s => some (.rightParen, s)
  | '=' :: s => some (.equal, s)
  | '<' :: '>' :: s => some (.unequal, s)
  | '<' :: '=' :: s => some (.lessEqual, s)
  | '<' :: s => some (.less, s)
  | '>' :: '=' :: s => some (.greaterEqual, s)
  | '>' :: s => some (.greater, s)
  | '[' :: s => (bracketedName? s).map fun (name, rest) => (.name (String.ofList name), rest)
  | '@' :: s => some (.placeholder (String.ofList ('@' :: s.takeWhile isWord)), s.dropWhile isWord)
  | s => (keyword? (s.takeWhile isWord)).map (·, s.dropWhile isWord)

section Length
variable {s rest : List Char}

theorem length_lt_of_bracketedName? {name : List Char}
    (h : bracketedName? s = some (name, rest)) : rest.length < s.length := by
  fun_induction bracketedName? s generalizing name with
  | case1 => simp at h
  | case2 s ih =>
    obtain ⟨⟨n, r⟩, hn, he⟩ := Option.map_eq_some_iff.1 h
    cases he
    have := ih hn
    simp only [List.length_cons]
    omega
  | case3 s =>
    cases h
    simp
  | case4 c s _ _ ih =>
    obtain ⟨⟨n, r⟩, hn, he⟩ := Option.map_eq_some_iff.1 h
    cases he
    exact Nat.lt_succ_of_lt (ih hn)

theorem length_lt_of_nextToken? {t : Token} (h : nextToken? s = some (t, rest)) :
    rest.length < s.length := by
  unfold nextToken? at h
  split at h
  case h_9 =>
    obtain ⟨⟨n, r⟩, hn, he⟩ := Option.map_eq_some_iff.1 h
    cases he
    exact Nat.lt_succ_of_lt (length_lt_of_bracketedName? hn)
  case h_10 s =>
    cases h
    exact Nat.lt_succ_of_le (Filter.length_dropWhile_le s)
  case h_11 =>
    obtain ⟨t, hk, he⟩ := Option.map_eq_some_iff.1 h
    cases he
    refine Filter.length_lt_of_takeWhile fun hw => ?_
    simp [hw, keyword?, lowerAscii] at hk
  all_goals
    cases h
    simp only [List.length_cons]
    omega

end Length

def tokens? : List Char → Option (List Token)
  | [] => some []
  | c :: s =>
    if isBlank c then tokens? s
    else
      match _h : nextToken? (c :: s) with
      | some (t, rest) => (tokens? rest).map (t :: ·)
      | none => none
termination_by s => s.length
decreasing_by
  · simp
  · exact length_lt_of_nextToken? _h

section Reading
variable {c : Char} {s rest w : List Char} {t : Token}

/-- No token goes on with the text. -/
def EndsToken (s : List Char) : Prop := ∀ c ∈ s.head?, isWord c = false ∧ c ≠ ']'

@[simp] theorem endsToken_nil : EndsToken [] := by simp [EndsToken]

@[simp] theorem endsToken_cons : EndsToken (c :: s) ↔ isWord c = false ∧ c ≠ ']' := by
  simp [EndsToken]

theorem EndsToken.endsWord (h : EndsToken s) : EndsWord s := fun c hc => (h c hc).1

@[simp] theorem tokens?_nil : tokens? [] = some [] := by rw [tokens?]

theorem tokens?_of_isBlank (h : isBlank c = true) : tokens? (c :: s) = tokens? s := by
  rw [tokens?, if_pos h]

theorem tokens?_of_nextToken? (hc : isBlank c = false) (h : nextToken? (c :: s) = some (t, rest)) :
    tokens? (c :: s) = (tokens? rest).map (t :: ·) := by
  rw [tokens?, if_neg (by simp [hc])]
  split <;> simp_all

theorem tokens?_keyword (hw : ∀ c ∈ w, isWord c = true) (hk : keyword? w = some t)
    (hs : EndsWord s) : tokens? (w ++ s) = (tokens? s).map (t :: ·) := by
  obtain ⟨ht, hd⟩ := takeWhile_append_of_ends hw hs
  cases w with
  | nil => simp [keyword?, lowerAscii] at hk
  | cons c w =>
    have hc := hw c (by simp)
    rw [List.cons_append] at ht hd ⊢
    refine tokens?_of_nextToken? (isBlank_of_isWord hc) ?_
    unfold nextToken?
    split
    case h_11 => rw [ht, hd, hk]; rfl
    all_goals simp_all [isWord]

theorem bracketedName?_append (hw : ']' ∉ w) (hs : EndsToken s) :
    bracketedName? (w ++ ']' :: s) = some (w, s) := by
  induction w with
  | nil =>
    rw [List.nil_append, bracketedName?]
    rintro rest rfl
    simp at hs
  | cons c w ih =>
    rw [List.mem_cons, not_or] at hw
    rw [List.cons_append, bracketedName?, ih hw.2]
    · rfl
    · exact fun _ h => absurd h.symm hw.1
    · exact fun h => absurd h.symm hw.1

end Reading

end GridQuery.Expression
