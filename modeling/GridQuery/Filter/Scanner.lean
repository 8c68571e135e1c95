import GridQuery.Filter.Token

/-! # Filters as text

A filter text is scanned once from left to right, with a stack of open groups. Connectives join
from the left with equal strength, and parentheses group. Every step of the scanner shortens the
rest of the text (`length_lt_of_step`). -/

namespace GridQuery.Filter
open Text

/-- What the scanner reads next. -/
inductive Expected where
  | operand
  | comparison (name : String)
  | value (name : String) (op : Comparison)
  | connective

/-- An open group: its condition so far, or the condition and connective that wait for a right
operand. -/
structure Scope where
  condition : Option Filter := none
  pending : Option (Filter × Connective) := none
  negated : Bool := false

namespace Scope

def attach (g : Scope) (operand : Filter) : Scope :=
  match g.pending with
  | some (left, op) => { g with condition := some (combine left op operand), pending := none }
  | none => { g with condition := some operand }

def finish? (g : Scope) : Option Filter :=
  g.condition.map fun condition => if g.negated then not condition else condition

end Scope

/-- The state of the scanner: the rest of the text, the open groups from the innermost on, and
what is read next. -/
structure Scan where
  rest : List Char
  scopes : List Scope := [{}]
  expected : Expected := .operand

/-- A failure at a rest of the text, which is shown by at most ten characters. -/
def failAt {α : Type} (cause : ScanCause) (rest : List Char) : Except FilterError α :=
  .error (.scan cause (String.ofList (rest.take 10)))

def comparisonKeywords : List String := Comparison.all.map Comparison.keyword

namespace Scan

/-- Reads an opening parenthesis, a negation or a column name. -/
def readOperand (s : List Char) (scopes : List Scope) : Except FilterError Scan :=
  match s with
  | '(' :: rest => .ok ⟨rest, {} :: scopes, .operand⟩
  | s =>
    match readNegation? s with
    | some rest => .ok ⟨rest, { negated := true } :: scopes, .operand⟩
    | none =>
      match readName? s with
      | some (name, rest) => .ok ⟨rest, scopes, .comparison (String.ofList name)⟩
      | none => failAt .expectedOperand s

def readComparison (s : List Char) (scopes : List Scope) (name : String) :
    Except FilterError Scan :=
  match readKeyword? comparisonKeywords s with
  | some (keyword, rest) =>
    match Comparison.ofKeyword? (String.ofList keyword) with
    | some op => .ok ⟨rest, scopes, .value name op⟩
    | none => failAt .expectedComparison rest
  | none => failAt .expectedComparison s

def readOperandValue (s : List Char) (scopes : List Scope) (name : String) (op : Comparison) :
    Except FilterError Scan :=
  match readValue s with
  | .ok (v, rest) =>
    match scopes with
    | g :: outer =>
      let comparison := compare (column name) op (literal v)
      .ok ⟨rest, g.attach comparison :: outer, .connective⟩
    | [] => .error (.scan .noOpenGroup "")
  | .error cause => failAt cause s

def closeGroup (rest : List Char) : List Scope → Except FilterError Scan
  | g :: outer :: others =>
    match g.finish? with
    | some condition => .ok ⟨rest, outer.attach condition :: others, .connective⟩
    | none => failAt .emptyGroup rest
  | _ => failAt .unbalancedClose rest

/-- Lets the condition of the innermost group wait for a right operand. -/
def openConnective (rest : List Char) (op : Connective) : List Scope → Except FilterError Scan
  | [] => .error (.scan .noOpenGroup "")
  | g :: outer =>
    match g.condition with
    | some left =>
      .ok ⟨rest, { g with condition := none, pending := some (left, op) } :: outer, .operand⟩
    | none => failAt .noLeftOperand rest

def readConnective (s : List Char) (scopes : List Scope) : Except FilterError Scan :=
  match s with
  | ')' :: rest => closeGroup rest scopes
  | s =>
    match readKeyword? ["and", "or"] s with
    | some (keyword, rest) =>
      match Connective.ofKeyword? (String.ofList keyword) with
      | some op => openConnective rest op scopes
      | none => failAt .expectedConnective rest
    | none => failAt .expectedConnective s

/-- Reads the next token of a text that does not start with white space. -/
def step (scan : Scan) : Except FilterError Scan :=
  match scan.expected with
  | .operand => readOperand scan.rest scan.scopes
  | .comparison name => readComparison scan.rest scan.scopes name
  | .value name op => readOperandValue scan.rest scan.scopes name op
  | .connective => readConnective scan.rest scan.scopes

def finish (scan : Scan) : Except FilterError Filter :=
  match scan.scopes, scan.expected with
  | _ :: _ :: _, _ => failAt .unbalancedOpen []
  | [g], .connective =>
    match g.finish? with
    | some condition => .ok condition
    | none => failAt .emptyFilter []
  | [], .connective => failAt .emptyFilter []
  | _, _ => failAt .unexpectedEnd []

section Length
variable {s : List Char} {scopes : List Scope} {next : Scan}

theorem length_lt_of_readOperand (h : readOperand s scopes = .ok next) :
    next.rest.length < s.length := by
  unfold readOperand at h
  split at h
  · cases h
    simp
  · split at h
    · rename_i hn
      cases h
      exact length_lt_of_readNegation? hn
    · split at h
      · rename_i hn
        cases h
        exact length_lt_of_readName? hn
      · simp [failAt] at h

theorem length_lt_of_readComparison {name : String}
    (h : readComparison s scopes name = .ok next) : next.rest.length < s.length := by
  unfold readComparison at h
  split at h
  · rename_i hk
    split at h
    · cases h
      exact length_lt_of_readKeyword? (by decide) hk
    · simp [failAt] at h
  · simp [failAt] at h

theorem length_lt_of_readOperandValue {name : String} {op : Comparison}
    (h : readOperandValue s scopes name op = .ok next) : next.rest.length < s.length := by
  unfold readOperandValue at h
  split at h
  · rename_i hv
    split at h
    · cases h
      exact length_lt_of_readValue hv
    · simp at h
  · simp [failAt] at h

theorem rest_of_closeGroup {rest : List Char} (h : closeGroup rest scopes = .ok next) :
    next.rest = rest := by
  unfold closeGroup at h
  split at h
  · split at h
    · cases h
      rfl
    · simp [failAt] at h
  · simp [failAt] at h

theorem rest_of_openConnective {rest : List Char} {op : Connective}
    (h : openConnective rest op scopes = .ok next) : next.rest = rest := by
  unfold openConnective at h
  split at h
  · simp at h
  · split at h
    · cases h
      rfl
    · simp [failAt] at h

theorem length_lt_of_readConnective (h : readConnective s scopes = .ok next) :
    next.rest.length < s.length := by
  unfold readConnective at h
  split at h
  · rw [rest_of_closeGroup h]
    simp
  · split at h
    · rename_i hk
      split at h
      · rw [rest_of_openConnective h]
        exact length_lt_of_readKeyword? (by decide) hk
      · simp [failAt] at h
    · simp [failAt] at h

end Length

theorem length_lt_of_step {scan next : Scan} (h : scan.step = .ok next) :
    next.rest.length < scan.rest.length := by
  unfold step at h
  split at h
  · exact length_lt_of_readOperand h
  · exact length_lt_of_readComparison h
  · exact length_lt_of_readOperandValue h
  · exact length_lt_of_readConnective h

def run (scan : Scan) : Except FilterError Filter :=
  let rest := trimLeft scan.rest
  if rest.isEmpty then scan.finish
  else
    match _h : step { scan with rest := rest } with
    | .ok next => run next
    | .error e => .error e
termination_by scan.rest.length
decreasing_by exact Nat.lt_of_lt_of_le (length_lt_of_step _h) (length_trimLeft_le scan.rest)

end Scan

def ofText (text : String) : Except FilterError Filter := Scan.run ⟨text.toList, [{}], .operand⟩

end GridQuery.Filter
