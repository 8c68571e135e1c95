import GridQuery.Toml.Scalar
import GridQuery.Toml.Table

/-! # TOML documents

A document is a list of statements: headers that open a table, and assignments to keys. -/

namespace GridQuery.Toml
open Text

inductive Statement where
  /-- Opens a table. -/
  | header (path : List String)
  /-- Opens a new item of an array of tables. -/
  | itemHeader (path : List String)
  | assign (path : List String) (v : Toml)

def skipSpace (s : List Char) : List Char := s.dropWhile fun c => c = ' ' || c = '\t'

/-- Drops white space, line breaks and comments; `none` at a character that no comment may hold.
The flag says whether a comment is open. -/
def skipTrivia : Bool → List Char → Option (List Char)
  | _, [] => some []
  | _, '\n' :: s => skipTrivia false s
  | _, '\r' :: '\n' :: s => skipTrivia false s
  | true, c :: s => if isPrintable c then skipTrivia true s else none
  | false, c :: s =>
    if c = ' ' ∨ c = '\t' then skipTrivia false s
    else if c = '#' then skipTrivia true s
    else some (c :: s)

def readLineEnd (s : List Char) : Option (List Char) :=
  let s := skipSpace s
  let s := match s with
    | '#' :: comment => comment.dropWhile isPrintable
    | s => s
  match s with
  | [] => some []
  | '\n' :: s => some s
  | '\r' :: '\n' :: s => some s
  | _ => none

def isBareKey (c : Char) : Bool := c.isAlphanum || c = '_' || c = '-'

def readKeyPart (s : List Char) : Option (String × List Char) :=
  readSingle s <|>
    let part := s.takeWhile isBareKey
    if part.isEmpty then none else some (String.ofList part, s.dropWhile isBareKey)

def readKeyMore : Nat → Reader (List String)
  | 0, _ => none
  | fuel + 1, s =>
    match skipSpace s with
    | '.' :: s => do
      let (part, s) ← readKeyPart (skipSpace s)
      let (more, s) ← readKeyMore fuel s
      pure (part :: more, s)
    | s => some ([], s)

/-- The most parts of a key, and the most levels of arrays and tables in a value. -/
def depthLimit : Nat := 80

def readKey (s : List Char) : Option (List String × List Char) := do
  let (part, s) ← readKeyPart (skipSpace s)
  let (more, s) ← readKeyMore (s.length + 1) s
  guard (more.length < depthLimit)
  pure (part :: more, s)

/-- Reads items that are separated by commas, up to a closing bracket; a last comma may stand
before it. -/
def readItems {α : Type} (item : Reader α) (close : Char) : Nat → Reader (List α)
  | 0, _ => none
  | fuel + 1, s => do
    let s ← skipTrivia false s
    if s.head? = some close then pure ([], s.drop 1)
    else
      let (x, s) ← item s
      match ← skipTrivia false s with
      | ',' :: s =>
        let (xs, s) ← readItems item close fuel s
        pure (x :: xs, s)
      | c :: s => if c = close then pure ([x], s) else none
      | [] => none

/-- Reads a key, an equals sign and a value. What may stand around the sign is skipped. -/
def readAssign (skip : List Char → Option (List Char)) (value : Reader Toml) (s : List Char) :
    Option ((List String × Toml) × List Char) := do
  let (path, s) ← readKey s
  match ← skip s with
  | '=' :: s =>
    let (v, s) ← value (← skip s)
    pure ((path, v), s)
  | _ => none

/-- Reads a value with at most `depth` more levels of arrays and tables. -/
def readValue : Nat → Reader Toml
  | depth, s =>
    match s with
    | '[' :: s =>
      match depth with
      | 0 => none
      | depth + 1 =>
        (readItems (readValue depth) ']' (s.length + 1) s).map fun (items, rest) =>
          (array items, rest)
    | '{' :: s =>
      match depth with
      | 0 => none
      | depth + 1 => do
        let entry := readAssign (skipTrivia false) (readValue depth)
        let (entries, s) ← readItems entry '}' (s.length + 1) s
        let t ← entries.foldlM (fun t (path, v) => Node.assignAll path v t) []
        pure (table (Node.values t), s)
    | c :: _ =>
      if c = '"' ∨ c = '\'' then (readString s).map fun (text, rest) => (string text, rest)
      else readScalar s
    | [] => none

def readHeader (s : List Char) : Option (Statement × List Char) :=
  match s with
  | '[' :: s => do
    let (path, s) ← readKey s
    match s with
    | ']' :: ']' :: s => pure (.itemHeader path, s)
    | _ => none
  | s => do
    let (path, s) ← readKey s
    match s with
    | ']' :: s => pure (.header path, s)
    | _ => none

def readStatement (s : List Char) : Option (Statement × List Char) :=
  match s with
  | '[' :: s => readHeader s
  | s =>
    (readAssign (fun s => some (skipSpace s)) (readValue depthLimit) s).map
      fun ((path, v), rest) => (.assign path v, rest)

/-- Reads at most `fuel` statements, each on lines of its own. -/
def readStatements : Nat → List Char → Option (List Statement)
  | 0, _ => none
  | fuel + 1, s => do
    let s ← skipTrivia false s
    if s.isEmpty then pure []
    else
      let (statement, s) ← readStatement s
      let s ← readLineEnd s
      let more ← readStatements fuel s
      pure (statement :: more)

/-- Adds a statement to a document whose open table has a path. -/
def Statement.apply (path : List String) (root : Entries) :
    Statement → Option (List String × Entries)
  | header p => do
    let root ← Node.updateAt (Node.openTable (p.getLastD "")) p.dropLast root
    pure (p, root)
  | itemHeader p => do
    let root ← Node.updateAt (Node.openItem (p.getLastD "")) p.dropLast root
    pure (p, root)
  | assign p v => do
    let root ← Node.updateAt (Node.assignAll p v) path root
    pure (path, root)

def build (statements : List Statement) : Option (List (String × Toml)) := do
  let (_, root) ← statements.foldlM (fun (path, root) s => s.apply path root) ([], [])
  pure (Node.values root)

/-- Reads a document; `none` if the text is not TOML. A byte order mark may stand in front. -/
def read? (s : String) : Option (List (String × Toml)) :=
  let text := match s.toList with
    | c :: rest => if c.toNat = 0xFEFF then rest else c :: rest
    | [] => []
  (readStatements (text.length + 1) text).bind build

end GridQuery.Toml
