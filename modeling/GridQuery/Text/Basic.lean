/-! # Characters and texts

Classes of characters, given by ranges of code points, and the parts of a text: its lines, its words
and its items between commas. Keywords and names are compared without regard to the case of ASCII
letters; every other character only equals itself. -/

namespace GridQuery.Text

/-- A reader of the start of a text; it leaves the rest. -/
abbrev Reader (α : Type) := List Char → Option (α × List Char)

/-- Whether the character may stand in a plain identifier: an ASCII letter, a digit or `_`. -/
def isWord (c : Char) : Bool := c.isAlphanum || c == '_'

def lowerAscii (s : String) : String := String.ofList (s.toList.map Char.toLower)

/-- Equality up to the case of ASCII letters. -/
def equalIgnoringCase (s t : String) : Bool := lowerAscii s == lowerAscii t

def isAscii (s : String) : Bool := s.toList.all fun c => c.toNat < 128

abbrev Ranges := List (Nat × Nat)

def Ranges.contains (ranges : Ranges) (code : Nat) : Bool :=
  ranges.any fun (low, high) => low ≤ code && code ≤ high

def Ranges.has (ranges : Ranges) (c : Char) : Bool := ranges.contains c.toNat

/-- The code points with the property `White_Space`. -/
def blanks : Ranges :=
  [(0x09, 0x0D), (0x20, 0x20), (0x85, 0x85), (0xA0, 0xA0), (0x1680, 0x1680), (0x2000, 0x200A),
    (0x2028, 0x2029), (0x202F, 0x202F), (0x205F, 0x205F), (0x3000, 0x3000)]

def isBlank (c : Char) : Bool := blanks.has c

def trimLeft (s : List Char) : List Char := s.dropWhile isBlank

def trimRight (s : List Char) : List Char := (s.reverse.dropWhile isBlank).reverse

def trim (s : List Char) : List Char := trimRight (trimLeft s)

/-- The maximal runs of characters that are not white space. -/
def words (s : List Char) : List (List Char) := (s.splitOnP isBlank).filter (!·.isEmpty)

/-- The items between commas, trimmed, without the empty ones. -/
def commaItems (s : List Char) : List (List Char) :=
  ((s.splitOn ',').map trim).filter (!·.isEmpty)

def doubled (mark : Char) (s : List Char) : List Char :=
  s.flatMap fun c => if c = mark then [c, c] else [c]

theorem doubled_cons (mark c : Char) (s : List Char) :
    doubled mark (c :: s) = (if c = mark then [c, c] else [c]) ++ doubled mark s := rfl

theorem doubled_of_not_mem {mark : Char} {s : List Char} (h : mark ∉ s) : doubled mark s = s := by
  induction s with
  | nil => rfl
  | cons c s ih =>
    simp only [List.mem_cons, not_or] at h
    rw [doubled_cons, if_neg (Ne.symm h.1), ih h.2]
    rfl

/-- The lines of a text, without their ends. -/
def lines : List Char → List (List Char)
  | [] => []
  | '\n' :: rest => [] :: lines rest
  | '\r' :: '\n' :: rest => [] :: lines rest
  | c :: rest =>
    match lines rest with
    | [] => [[c]]
    | line :: more => (c :: line) :: more

end GridQuery.Text
