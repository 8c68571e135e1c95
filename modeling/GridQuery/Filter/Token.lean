import GridQuery.Decimal.Numeral
import GridQuery.Filter.Error
import GridQuery.Text.Basic

/-! # Tokens of filter texts

Each reader takes a token from the start of a text and leaves the rest, which is shorter.
Keywords are read in any case, also with the long s in place of an s. -/

namespace GridQuery.Filter
open Text Decimal

/-- The letter that a character stands for in a keyword. -/
def foldedLetter (c : Char) : Char :=
  if c.toNat = 0x17F then 's' else if c.toNat = 0x212A then 'k' else c.toLower

/-- Whether a keyword cannot end before the character. -/
def continuesWord (c : Char) : Bool := isWord (foldedLetter c)

/-- Reads one of some keywords, as it is spelled, up to its last letter. -/
def readKeyword? (keywords : List String) (s : List Char) : Option (List Char × List Char) :=
  let run := s.takeWhile continuesWord
  if keywords.contains (String.ofList (run.map foldedLetter)) then
    some (run, s.dropWhile continuesWord)
  else none

def readName? (s : List Char) : Option (List Char × List Char) :=
  let run := s.takeWhile isWord
  if run.isEmpty then none else some (run, s.dropWhile isWord)

/-- Reads the start of a negated group. -/
def readNegation? : List Char → Option (List Char)
  | n :: o :: t :: rest =>
    if n.toLower = 'n' ∧ o.toLower = 'o' ∧ t.toLower = 't' then
      match trimLeft rest with
      | '(' :: rest => some rest
      | _ => none
    else none
  | _ => none

/-- Reads quoted text behind its opening quote. Two quotes stand for one if a closing quote comes
after them. -/
def readQuoted? : List Char → Option (List Char × List Char)
  | [] => none
  | '\'' :: '\'' :: rest =>
    match readQuoted? rest with
    | some (text, rest) => some ('\'' :: text, rest)
    | none => some ([], '\'' :: rest)
  | '\'' :: rest => some ([], rest)
  | c :: rest =>
    match readQuoted? rest with
    | some (text, rest) => some (c :: text, rest)
    | none => none

structure NumberToken where
  negative : Bool
  whole : List Char
  /-- The digits behind a point; empty for an integer. -/
  fraction : List Char

def readFraction (s : List Char) : List Char × List Char :=
  match s with
  | '.' :: rest =>
    if (rest.takeWhile Char.isDigit).isEmpty then ([], s)
    else (rest.takeWhile Char.isDigit, rest.dropWhile Char.isDigit)
  | s => ([], s)

def splitMinus : List Char → Bool × List Char
  | '-' :: rest => (true, rest)
  | s => (false, s)

/-- Reads an optional minus sign, digits and an optional fraction. -/
def readNumber? (s : List Char) : Option (NumberToken × List Char) :=
  let digits := (splitMinus s).2
  let whole := digits.takeWhile Char.isDigit
  if whole.isEmpty then none
  else
    let (fraction, rest) := readFraction (digits.dropWhile Char.isDigit)
    some (⟨(splitMinus s).1, whole, fraction⟩, rest)

/-- The literal of a number; an integer must fit 64 bits. -/
def NumberToken.literal? (n : NumberToken) : Option Literal :=
  if n.fraction.isEmpty then
    (signed? (if n.negative then -digitsValue n.whole else digitsValue n.whole)).map .int
  else some (.float (Numeral.ofDigits n.negative n.whole n.fraction 0).toFloat)

def keywordLiteral (keyword : List Char) : Literal :=
  match lowerAscii (String.ofList keyword) with
  | "true" => .bool true
  | "false" => .bool false
  | _ => .null

def readBareValue (s : List Char) : Except ScanCause (Literal × List Char) :=
  match readKeyword? ["null", "true", "false"] s with
  | some (keyword, rest) => .ok (keywordLiteral keyword, rest)
  | none =>
    match readNumber? s with
    | some (number, rest) =>
      match number.literal? with
      | some v => .ok (v, rest)
      | none => .error .numberOutOfRange
    | none => .error .expectedValue

def readValue (s : List Char) : Except ScanCause (Literal × List Char) :=
  match s with
  | '\'' :: quotedRest =>
    match readQuoted? quotedRest with
    | some (text, rest) => .ok (.string (String.ofList text), rest)
    | none => readBareValue s
  | s => readBareValue s

section Length
variable {s rest : List Char}

theorem length_dropWhile_le {p : Char → Bool} (s : List Char) :
    (s.dropWhile p).length ≤ s.length := (List.dropWhile_suffix p).length_le

theorem length_trimLeft_le (s : List Char) : (trimLeft s).length ≤ s.length :=
  length_dropWhile_le s

theorem length_lt_of_takeWhile {p : Char → Bool} (h : s.takeWhile p ≠ []) :
    (s.dropWhile p).length < s.length := by
  have hs := congrArg List.length (@List.takeWhile_append_dropWhile _ p s)
  have := List.length_pos_iff.2 h
  rw [List.length_append] at hs
  omega

theorem length_lt_of_readKeyword? {keywords : List String} {keyword : List Char}
    (hk : "" ∉ keywords) (h : readKeyword? keywords s = some (keyword, rest)) :
    rest.length < s.length := by
  simp only [readKeyword?] at h
  split at h
  · rename_i hc
    obtain ⟨rfl, rfl⟩ := Prod.mk.inj (Option.some.inj h)
    refine length_lt_of_takeWhile fun he => hk ?_
    simpa [he] using hc
  · simp at h

theorem length_lt_of_readName? {name : List Char} (h : readName? s = some (name, rest)) :
    rest.length < s.length := by
  simp only [readName?] at h
  split at h
  · simp at h
  · rename_i hc
    obtain ⟨rfl, rfl⟩ := Prod.mk.inj (Option.some.inj h)
    exact length_lt_of_takeWhile (by simpa using hc)

theorem length_lt_of_readNegation? (h : readNegation? s = some rest) :
    rest.length < s.length := by
  match s with
  | n :: o :: t :: r =>
    simp only [readNegation?] at h
    split at h
    · split at h
      · rename_i hr
        have := length_trimLeft_le r
        cases h
        simp only [hr, List.length_cons] at this ⊢
        omega
      · simp at h
    · simp at h
  | [] | [_] | [_, _] => simp [readNegation?] at h

theorem length_le_of_readQuoted? {text : List Char} (h : readQuoted? s = some (text, rest)) :
    rest.length ≤ s.length := by
  fun_induction readQuoted? s generalizing text with
  | case1 => simp at h
  | case2 r t r' hr ih =>
    cases h
    have := ih hr
    simp only [List.length_cons]
    omega
  | case3 r _ _ =>
    cases h
    simp
  | case4 r _ =>
    cases h
    simp
  | case5 c r _ _ t r' hr ih =>
    cases h
    have := ih hr
    simp only [List.length_cons]
    omega
  | case6 => simp at h

theorem length_readFraction_le (s : List Char) : (readFraction s).2.length ≤ s.length := by
  unfold readFraction
  split
  · split
    · simp
    · rename_i r _
      have : (r.dropWhile Char.isDigit).length ≤ r.length := length_dropWhile_le r
      simp only [List.length_cons]
      omega
  · simp

theorem length_splitMinus_le (s : List Char) : (splitMinus s).2.length ≤ s.length := by
  unfold splitMinus
  split <;> simp

theorem length_lt_of_readNumber? {number : NumberToken}
    (h : readNumber? s = some (number, rest)) : rest.length < s.length := by
  simp only [readNumber?] at h
  split at h
  · simp at h
  · rename_i hw
    cases h
    have := length_splitMinus_le s
    have := length_readFraction_le ((splitMinus s).2.dropWhile Char.isDigit)
    have := length_lt_of_takeWhile (show (splitMinus s).2.takeWhile Char.isDigit ≠ [] by
      simpa using hw)
    omega

theorem length_lt_of_readBareValue {v : Literal} (h : readBareValue s = .ok (v, rest)) :
    rest.length < s.length := by
  unfold readBareValue at h
  split at h
  · rename_i hk
    cases h
    exact length_lt_of_readKeyword? (by decide) hk
  · split at h
    · rename_i hn
      split at h
      · cases h
        exact length_lt_of_readNumber? hn
      · simp at h
    · simp at h

theorem length_lt_of_readValue {v : Literal} (h : readValue s = .ok (v, rest)) :
    rest.length < s.length := by
  unfold readValue at h
  split at h
  · split at h
    · rename_i hq
      cases h
      exact Nat.lt_succ_of_le (length_le_of_readQuoted? hq)
    · exact length_lt_of_readBareValue h
  · exact length_lt_of_readBareValue h

end Length

end GridQuery.Filter
