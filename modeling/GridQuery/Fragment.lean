import GridQuery.Literal.Basic

/-! # Identifiers and fragments

A clause is put together from fragments. A caller's name enters it only as an identifier: between
brackets, and with every character outside `[A-Za-z0-9_]` replaced. -/

namespace GridQuery
open Text

/-- Replaces every character that may not stand in a plain identifier. -/
def sanitize (name : String) : String :=
  String.ofList (name.toList.map fun c => if isWord c then c else '_')

/-- Puts a name between square brackets, its closing brackets doubled. -/
def bracketed (name : String) : String :=
  "[" ++ String.ofList (doubled ']' name.toList) ++ "]"

/-- A name as a statement writes it. -/
def identifier (name : String) : String := bracketed (sanitize name)

def qualified (schema name : String) : String := identifier schema ++ "." ++ identifier name

theorem isWord_of_mem_sanitize {name : String} {c : Char} (h : c ∈ (sanitize name).toList) :
    isWord c = true := by
  simp only [sanitize, String.toList_ofList, List.mem_map] at h
  obtain ⟨d, -, rfl⟩ := h
  split
  · assumption
  · decide

theorem bracketed_of_not_mem {name : String} (h : ']' ∉ name.toList) :
    bracketed name = "[" ++ name ++ "]" := by
  rw [bracketed, doubled_of_not_mem h, String.ofList_toList]

/-- A sanitized name has no bracket to double. -/
theorem identifier_eq (name : String) : identifier name = "[" ++ sanitize name ++ "]" :=
  bracketed_of_not_mem fun h => absurd (isWord_of_mem_sanitize h) (by decide)

theorem sanitize_sanitize (name : String) : sanitize (sanitize name) = sanitize name := by
  have h (c : Char) : (if isWord (if isWord c then c else '_') then if isWord c then c else '_'
      else '_') = if isWord c then c else '_' := by
    by_cases hc : isWord c <;> simp [hc]
  simp only [sanitize, String.toList_ofList, List.map_map]
  exact congrArg String.ofList (List.map_congr_left fun c _ => h c)

/-- A smallest piece of a clause. -/
inductive Fragment where
  | select
  | groupBy
  | asc
  | desc
  | offset
  | fetch
  | next
  | rows
  | only
  | null
  | default
  | count
  | comma
  | dot
  | star
  | leftParen
  | rightParen
  | equals
  | space
  | name (n : String)
  | qualifiedName (schema n : String)
  | placeholder (n : String)
  | number (n : Int)
  | string (s : String)
  /-- Text that is written as it stands. -/
  | raw (s : String)
  deriving DecidableEq

def Fragment.text : Fragment → String
  | select => "SELECT"
  | groupBy => "GROUP BY"
  | asc => "ASC"
  | desc => "DESC"
  | offset => "OFFSET"
  | fetch => "FETCH"
  | next => "NEXT"
  | rows => "ROWS"
  | only => "ONLY"
  | null => "NULL"
  | default => "DEFAULT"
  | count => "COUNT"
  | comma => ","
  | dot => "."
  | star => "*"
  | leftParen => "("
  | rightParen => ")"
  | equals => "="
  | space => " "
  | name n => identifier n
  | qualifiedName schema n => qualified schema n
  | placeholder n => n
  | number n => toString n
  | string s => quoteString s
  | raw s => s

abbrev Fragments := List Fragment

namespace Fragments

def text (fragments : Fragments) : String := String.join (fragments.map Fragment.text)

def commaSeparated : List Fragments → Fragments
  | [] => []
  | [item] => item
  | item :: rest => item ++ [.comma, .space] ++ commaSeparated rest

@[simp] theorem text_nil : text [] = "" := rfl

@[simp] theorem text_cons (f : Fragment) (rest : Fragments) :
    text (f :: rest) = f.text ++ text rest := by simp [text]

@[simp] theorem text_append (first rest : Fragments) :
    text (first ++ rest) = text first ++ text rest := by simp [text]

end Fragments

end GridQuery
