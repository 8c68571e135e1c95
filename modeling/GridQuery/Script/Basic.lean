import GridQuery.Text.Basic

/-! # Scripts

A script is text that grows line by line. It knows how deep the next line is indented and
whether its last line is still open. -/

namespace GridQuery

structure Script where
  text : String := ""
  depth : Nat := 0
  lineOpen : Bool := false
  deriving DecidableEq

namespace Script
variable (s : Script)

def indentation (depth : Nat) : String := String.ofList (List.replicate (2 * depth) ' ')

/-- Appends text to the open line. -/
def literal (t : String) : Script := { s with text := s.text ++ t, lineOpen := true }

/-- Ends the open line, if any. -/
def endLine : Script :=
  if s.lineOpen then { s with text := s.text ++ "\n", lineOpen := false } else s

/-- Begins an indented line and leaves it open. -/
def startLine (t : String) : Script :=
  { s.endLine with text := s.endLine.text ++ indentation s.depth ++ t, lineOpen := true }

def line (t : String) : Script := (s.startLine t).endLine

/-- Writes each line of a text as a line of its own. -/
def lines (t : String) : Script :=
  (Text.lines t.toList).foldl (fun s l => s.line (String.ofList l)) s

/-- Ends the open line and adds an empty one. -/
def blankLine : Script := { s.endLine with text := s.endLine.text ++ "\n" }

@[simp] theorem depth_literal (t : String) : (s.literal t).depth = s.depth := rfl

@[simp] theorem depth_endLine : s.endLine.depth = s.depth := by
  unfold endLine; split <;> rfl

@[simp] theorem depth_startLine (t : String) : (s.startLine t).depth = s.depth := by
  simp [startLine]

@[simp] theorem depth_line (t : String) : (s.line t).depth = s.depth := by simp [line]

@[simp] theorem depth_blankLine : s.blankLine.depth = s.depth := by simp [blankLine]

@[simp] theorem lineOpen_literal (t : String) : (s.literal t).lineOpen = true := rfl

@[simp] theorem lineOpen_endLine : s.endLine.lineOpen = false := by
  unfold endLine; split <;> simp_all

@[simp] theorem lineOpen_startLine (t : String) : (s.startLine t).lineOpen = true := rfl

@[simp] theorem lineOpen_line (t : String) : (s.line t).lineOpen = false := lineOpen_endLine _

@[simp] theorem lineOpen_blankLine : s.blankLine.lineOpen = false := lineOpen_endLine s

@[simp] theorem text_literal (t : String) : (s.literal t).text = s.text ++ t := rfl

theorem text_endLine : s.endLine.text = s.text ++ if s.lineOpen then "\n" else "" := by
  unfold endLine; split <;> simp

theorem text_startLine (t : String) :
    (s.startLine t).text = s.endLine.text ++ indentation s.depth ++ t := rfl

theorem text_line (t : String) :
    (s.line t).text = s.endLine.text ++ indentation s.depth ++ t ++ "\n" := by
  simp [line, text_endLine, text_startLine]

theorem text_blankLine : s.blankLine.text = s.endLine.text ++ "\n" := rfl

end Script
end GridQuery
