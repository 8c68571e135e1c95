import GridQuery.Proofs.ColumnType
import GridQuery.Proofs.Table.Faults
import GridQuery.Proofs.Text.Places

/-! # Guarded statements

A script that creates a table, or adds a column to one, asks first whether it is there. The
question names it in literals, the statement between brackets. Whatever characters a caller's
names have, the script has no other literals and brackets than these, and the question is about
the object that the statement is about. -/

namespace GridQuery
open Text GridQuery.Action

/-- The text goes on with word characters and a bracket that closes them. -/
def ClosesName (s : List Char) : Prop :=
  ∃ word rest, s = word ++ ']' :: rest ∧ (∀ c ∈ word, isWord c = true) ∧ rest.head? ≠ some ']'

/-- A bracket that stands here opens a name. -/
def NameOpens (s : List Char) : Prop := ∀ a, s = '[' :: a → ClosesName a

/-- A text of word characters and marks whose brackets stand around names. -/
structure KeepsNames (marks : List Char) (t : String) : Prop where
  marks : MadeOf marks t
  /-- No closing bracket before the text is doubled by it. -/
  head : t.toList.head? ≠ some ']'
  names : ∀ rest, rest.head? ≠ some ']' → Throughout NameOpens t.toList rest

def nameMarks : List Char := ['[', ']', '.']

section KeepsNames
variable {marks marks' : List Char} {s t : String} {items : List String}

theorem head?_append_ne {c : Char} {s t : List Char} (hs : s.head? ≠ some c)
    (ht : t.head? ≠ some c) : (s ++ t).head? ≠ some c := by
  cases s with
  | nil => exact ht
  | cons d s => exact hs

theorem nameOpens_of_not_mem {t rest : List Char} (h : '[' ∉ t) :
    Throughout NameOpens t rest := by
  refine throughout_of_forall fun c hc a b hb => ?_
  obtain ⟨rfl, -⟩ := List.cons.inj hb
  exact absurd hc h

theorem keepsNames_of_not_mem (h : MadeOf marks t ∧ '[' ∉ t.toList ∧ ']' ∉ t.toList) :
    KeepsNames marks t :=
  ⟨h.1, fun hh => h.2.2 (List.mem_of_head? hh), fun _ _ => nameOpens_of_not_mem h.2.1⟩

theorem keepsNames_of_madeOf (h : MadeOf marks' t) (ho : '[' ∉ marks') (hc : ']' ∉ marks')
    (hm : marks' ⊆ marks) : KeepsNames marks t :=
  keepsNames_of_not_mem ⟨h.mono hm, h.not_mem (by decide) ho, h.not_mem (by decide) hc⟩

theorem KeepsNames.mono (h : KeepsNames marks t) (hm : marks ⊆ marks') : KeepsNames marks' t :=
  ⟨h.marks.mono hm, h.head, h.names⟩

theorem KeepsNames.append (hs : KeepsNames marks s) (ht : KeepsNames marks t) :
    KeepsNames marks (s ++ t) := by
  refine ⟨hs.marks.append ht.marks, ?_, fun rest hr => ?_⟩
  · rw [String.toList_append]
    exact head?_append_ne hs.head ht.head
  · rw [String.toList_append, throughout_append]
    exact ⟨hs.names _ (head?_append_ne ht.head hr), ht.names rest hr⟩

theorem keepsNames_identifier (name : String) (hm : nameMarks ⊆ marks) :
    KeepsNames marks (identifier name) := by
  have hw : ∀ c ∈ (sanitize name).toList, isWord c = true := fun _ => isWord_of_mem_sanitize
  have ht : (identifier name).toList = '[' :: ((sanitize name).toList ++ [']']) := by
    simp [identifier_eq]
  refine ⟨((madeOf_identifier name).mono (by decide)).mono hm, by simp [ht], fun rest hr => ?_⟩
  rw [ht, throughout_cons]
  constructor
  · rintro a ha
    obtain ⟨-, rfl⟩ := List.cons.inj ha
    exact ⟨(sanitize name).toList, rest, by simp, hw, hr⟩
  · refine nameOpens_of_not_mem fun hc => ?_
    obtain hc | hc := List.mem_append.1 hc
    · exact absurd (hw _ hc) (by decide)
    · simp at hc

theorem keepsNames_qualified (schema name : String) (hm : nameMarks ⊆ marks) :
    KeepsNames marks (qualified schema name) := by
  have hd : KeepsNames marks "." :=
    (keepsNames_of_not_mem (by decide) : KeepsNames nameMarks ".").mono hm
  exact ((keepsNames_identifier schema hm).append hd).append (keepsNames_identifier name hm)

theorem keepsNames_intercalate {sep : String} (hs : KeepsNames marks sep)
    (h : ∀ t ∈ items, KeepsNames marks t) : KeepsNames marks (sep.intercalate items) :=
  intercalate_induction (keepsNames_of_not_mem ⟨nofun, by simp⟩) (fun _ _ => .append) hs h

end KeepsNames

/-- The quotes of the text stand around these names, one behind the other, and each is marked by a
single `N`. -/
def NameLiterals : List String → List Char → Prop
  | [], t => '\'' ∉ t
  | name :: names, t => ∃ before after,
      t = before ++ ("N'".toList ++ (name.toList ++ '\'' :: after)) ∧
        '\'' ∉ before ∧ before.getLast? ≠ some 'N' ∧ NameLiterals names after

/-- No name leaves its literal or its brackets in a script of one statement, and the literals of
the script are these names. -/
structure Guarded (names : List String) (sql : List Char) : Prop where
  count_semicolon : sql.count ';' = 1
  count_quote : sql.count '\'' = 4
  /-- The quotes stand around the names. -/
  literals : NameLiterals names sql
  /-- Read as a script, the literals are the names again. -/
  spelled : strings? sql = some (names.map String.toList)
  /-- The names have no other characters than word characters, brackets and dots. -/
  marks : ∀ name ∈ names, MadeOf nameMarks name
  /-- Every bracket opens a name of word characters. -/
  name : Followed ['['] ClosesName sql

/-- A statement behind the question whether a function finds nothing for two names. -/
def guardedText (function object part statement : String) : String :=
  "IF " ++ function ++ "(N'" ++ object ++ "', N'" ++ part ++ "') IS NULL\nBEGIN\n" ++ statement ++
    ";\nEND\n"

def definitionMarks : List Char := ['[', ']', '.', '(', ')', ',', ' ']

def guardedMarks : List Char := '\n' :: definitionMarks

section Guarded
variable {function object part statement t : String} {names : List String} {s : List Char}

theorem nameLiteral_eq (h : MadeOf nameMarks t) : nameLiteral t = "N'" ++ t ++ "'" := by
  have ha : isAscii t = true := by
    rw [isAscii, List.all_eq_true]
    intro c hc
    obtain hw | hm := h c hc
    · have hn := isWord_iff.1 hw
      simp only [decide_eq_true_eq]
      omega
    · exact (by decide : ∀ c ∈ nameMarks, decide (c.toNat < 128) = true) c hm
  have hq : '\'' ∉ t.toList := h.not_mem (by decide) (by decide)
  rw [nameLiteral, quoteString, if_pos ha, quotedText, doubled_of_not_mem hq]
  simp [← String.toList_inj]

theorem NameLiterals.endsString (h : NameLiterals names s) : EndsString s := by
  cases names with
  | nil => exact fun hs => h (List.mem_of_head? hs)
  | cons name names =>
    obtain ⟨before, after, rfl, hb, -, -⟩ := h
    exact .append_of_not_mem nofun hb

theorem NameLiterals.strings? (h : NameLiterals names s)
    (hm : ∀ name ∈ names, MadeOf nameMarks name) : strings? s = some (names.map String.toList) := by
  induction names generalizing s with
  | nil => simpa [GridQuery.strings?] using strings?_append_of_not_mem (t := []) h
  | cons name names ih =>
    obtain ⟨hn, hm⟩ := List.forall_mem_cons.1 hm
    obtain ⟨before, after, rfl, hb, -, ha⟩ := h
    have hs : Spells ("N'".toList ++ (name.toList ++ ['\''])) [name.toList] := by
      have hv := spells_value (hn.not_mem (c := '\'') (by decide) (by decide))
      simpa using hv.prepend (s := "N".toList) (by decide)
    have hr := hs after ha.endsString
    rw [strings?_append_of_not_mem hb]
    simpa [ih ha hm] using hr

theorem nameLiterals_guardedText (hf : '\'' ∉ function.toList) (hs : '\'' ∉ statement.toList) :
    NameLiterals [object, part] (guardedText function object part statement).toList := by
  refine ⟨"IF ".toList ++ function.toList ++ "(".toList,
    (", N'" ++ part ++ "') IS NULL\nBEGIN\n" ++ statement ++ ";\nEND\n").toList, ?_, ?_, ?_,
    ", ".toList, (") IS NULL\nBEGIN\n" ++ statement ++ ";\nEND\n").toList, ?_, ?_, ?_, ?_⟩
  · simp [guardedText]
  · simp [hf]
  · rw [List.getLast?_append]
    simp
  · simp
  · decide
  · decide
  · simp [NameLiterals, hs]

theorem nameOpens_guardedText (hf : '[' ∉ function.toList) (ho : KeepsNames nameMarks object)
    (hp : KeepsNames nameMarks part) (hs : KeepsNames guardedMarks statement) :
    Throughout NameOpens (guardedText function object part statement).toList [] := by
  have hc {t rest : List Char} (h : '[' ∉ t) : Throughout NameOpens t rest :=
    nameOpens_of_not_mem h
  simp only [guardedText, String.toList_append, throughout_append]
  exact ⟨⟨⟨⟨⟨⟨⟨⟨hc (by decide), hc hf⟩, hc (by decide)⟩, ho.names _ (by simp)⟩,
    hc (by decide)⟩, hp.names _ (by simp)⟩, hc (by decide)⟩, hs.names _ (by simp)⟩,
    hc (by decide)⟩

theorem guarded_guardedText (hf : MadeOf [] function) (ho : KeepsNames nameMarks object)
    (hp : KeepsNames nameMarks part) (hs : KeepsNames guardedMarks statement) :
    Guarded [object, part] (guardedText function object part statement).toList := by
  have hm : ∀ t ∈ [function, object, part, statement], MadeOf guardedMarks t := by
    simp only [List.forall_mem_cons, List.not_mem_nil, false_implies, implies_true, and_true]
    exact ⟨hf.mono (by decide), ho.marks.mono (by decide), hp.marks.mono (by decide), hs.marks⟩
  have hq : ∀ t ∈ [function, object, part, statement], '\'' ∉ t.toList :=
    fun t ht => (hm t ht).not_mem (by decide) (by decide)
  have he : ∀ t ∈ [function, object, part, statement], ';' ∉ t.toList :=
    fun t ht => (hm t ht).not_mem (by decide) (by decide)
  simp only [List.forall_mem_cons, List.not_mem_nil, false_implies, implies_true, and_true]
    at hq he
  obtain ⟨hqf, hqo, hqp, hqs⟩ := hq
  obtain ⟨hef, heo, hep, hes⟩ := he
  have hn : ∀ name ∈ [object, part], MadeOf nameMarks name := by simp [ho.marks, hp.marks]
  have hl : NameLiterals [object, part] (guardedText function object part statement).toList :=
    nameLiterals_guardedText hqf hqs
  have hb := nameOpens_guardedText (hf.not_mem (by decide) (by decide)) ho hp hs
  refine ⟨?_, ?_, hl, hl.strings? hn, hn, hb.followed (by simp) fun a ha => ha a rfl⟩
  · simp [guardedText, List.count_eq_zero.2, hef, heo, hep, hes]
  · simp [guardedText, List.count_eq_zero.2, hqf, hqo, hqp, hqs]

/-- A block adds its statement behind the question that is its condition. -/
theorem adds_guarded {condition : String} {body : List Action}
    (hc : condition = function ++ "(N'" ++ object ++ "', N'" ++ part ++ "')")
    (hb : Adds 1 body (statement ++ ";\n")) :
    Adds 0 (provided (condition ++ " IS NULL") body)
      (guardedText function object part statement) := by
  subst hc
  refine (hb.provided _).of_eq ?_
  simp [providedText, guardedText, Script.indentation, ← String.toList_inj]

end Guarded

def typeMarks : List Char := ['(', ')', ',', ' ']

namespace ColumnType
variable {type : ColumnType} {length : Option Nat} {precision : Option (Nat × Nat)} {t : String}

theorem madeOf_definition (ht : type ∈ catalog)
    (h : type.definition length precision = .ok t) : MadeOf typeMarks t := by
  obtain ⟨tail, htext, hb⟩ := exists_behind h
  intro c hc
  rw [htext, List.mem_append] at hc
  rcases hc with hc | hc
  · exact .inl (isWord_of_mem_keyword type ht c hc)
  · generalize type.shape = shape at hb
    cases hb with
    | plain => cases hc
    | sized =>
      simp only [List.mem_cons, List.mem_append, List.not_mem_nil, or_false] at hc
      rcases hc with rfl | hc | rfl
      · decide
      · exact .inl (isWord_of_mem_toString hc)
      · decide
    | max => exact (by decide : MadeOf typeMarks "(MAX)") c hc
    | precision =>
      simp only [List.mem_cons, List.mem_append, List.not_mem_nil, or_false] at hc
      rcases hc with rfl | hc | rfl | hc | rfl
      · decide
      · exact .inl (isWord_of_mem_toString hc)
      · decide
      · exact .inl (isWord_of_mem_toString hc)
      · decide

end ColumnType

namespace Column
variable {c : Column} {t : String}

theorem definition_eq_ok (h : c.definition = .ok t) :
    ∃ type, MadeOf typeMarks type ∧ t = identifier c.name ++ " " ++ type := by
  obtain ⟨type, ht, h⟩ := bind_eq_ok_iff.1 h
  obtain ⟨found, hf, hd⟩ := bind_eq_ok_iff.1 (mapError_eq_ok_iff.1 ht)
  have hm : MadeOf typeMarks type :=
    ColumnType.madeOf_definition (ColumnType.forRuntime_eq_ok_iff.1 hf).mem hd
  have hn : MadeOf typeMarks (if c.nullable then "NULL" else "NOT NULL") := by split <;> decide
  cases h
  refine ⟨type ++ " " ++ if c.nullable then "NULL" else "NOT NULL", ?_, ?_⟩
  · exact (hm.append (by decide)).append hn
  · simp [String.append_assoc]

theorem keepsNames_definition (h : c.definition = .ok t) : KeepsNames definitionMarks t := by
  obtain ⟨type, hm, rfl⟩ := definition_eq_ok h
  have ht : KeepsNames definitionMarks type :=
    keepsNames_of_madeOf hm (by decide) (by decide) (by decide)
  exact ((keepsNames_identifier _ (by decide)).append (keepsNames_of_not_mem (by decide))).append ht

end Column

namespace CreateTable
variable {t : CreateTable} {items : List String} {sql : String}

theorem eq_of_mem_keyConstraint {item : String} (h : item ∈ t.keyConstraint) :
    item = "CONSTRAINT " ++ identifier ("PK_" ++ t.name) ++ " PRIMARY KEY (" ++
      commaList (t.primaryKey.map identifier) ++ ")" := by
  unfold keyConstraint at h
  split at h
  · simp at h
  · exact List.mem_singleton.1 h

theorem keepsNames_keyConstraint : ∀ item ∈ t.keyConstraint, KeepsNames definitionMarks item := by
  have hi (name : String) : KeepsNames definitionMarks (identifier name) :=
    keepsNames_identifier name (by decide)
  have hk : KeepsNames definitionMarks (commaList (t.primaryKey.map identifier)) := by
    refine keepsNames_intercalate (keepsNames_of_not_mem (by decide)) ?_
    simp [hi]
  intro item h
  rw [eq_of_mem_keyConstraint h]
  exact ((((keepsNames_of_not_mem (by decide)).append (hi _)).append
    (keepsNames_of_not_mem (by decide))).append hk).append (keepsNames_of_not_mem (by decide))

theorem items_eq_ok (h : t.items = .ok items) :
    items ≠ [] ∧ ∀ item ∈ items, KeepsNames definitionMarks item ∧ item ≠ "" := by
  unfold CreateTable.items at h
  split at h
  · cases h
  rename_i hne
  obtain ⟨columns, hc, h⟩ := bind_eq_ok_iff.1 h
  cases h
  constructor
  · have hl := (mapM_eq_ok_iff.1 hc).length_eq
    intro he
    obtain ⟨rfl, -⟩ := List.append_eq_nil_iff.1 he
    exact hne (by simpa using hl)
  · intro item hi
    obtain hi | hi := List.mem_append.1 hi
    · obtain ⟨c, -, hd⟩ := exists_of_mem_mapM hc hi
      obtain ⟨type, -, rfl⟩ := Column.definition_eq_ok hd
      exact ⟨Column.keepsNames_definition hd, by simp⟩
    · refine ⟨keepsNames_keyConstraint item hi, ?_⟩
      simp [eq_of_mem_keyConstraint hi]

def statement (t : CreateTable) (items : List String) : String :=
  "  CREATE TABLE " ++ t.object ++ " (\n    " ++ ",\n    ".intercalate items ++ "\n  )"

theorem keepsNames_statement (h : t.items = .ok items) :
    KeepsNames guardedMarks (t.statement items) := by
  have ho : KeepsNames guardedMarks t.object := keepsNames_qualified _ _ (by decide)
  have hi : KeepsNames guardedMarks (",\n    ".intercalate items) :=
    keepsNames_intercalate (keepsNames_of_not_mem (by decide))
      fun item hi => ((items_eq_ok h).2 item hi).1.mono (by decide)
  exact ((((keepsNames_of_not_mem (by decide)).append ho).append
    (keepsNames_of_not_mem (by decide))).append hi).append (keepsNames_of_not_mem (by decide))

theorem adds_items (h : t.items = .ok items) :
    Adds 1 [.indented 1 (Action.lines (commaLines items))]
      (Script.indentation 2 ++ (",\n" ++ Script.indentation 2).intercalate items ++ "\n") := by
  obtain ⟨hne, hk⟩ := items_eq_ok h
  have hn : ∀ item ∈ items, '\n' ∉ item.toList :=
    fun item hi => (hk item hi).1.marks.not_mem (by decide) (by decide)
  have hl : ∀ item ∈ items, ∃ c ∈ item.toList.getLast?, c ≠ '\n' := by
    intro item hi
    have hi' : item.toList ≠ [] := by simpa using (hk item hi).2
    refine ⟨_, List.getLast?_eq_some_getLast hi', ?_⟩
    intro hc
    exact hn item hi (hc ▸ List.getLast_mem hi')
  have hr : items.map (Script.rebroken 2) = items :=
    (List.map_congr_left fun item hi => Script.rebroken_of_not_mem (hn item hi)).trans
      (List.map_id items)
  have ha := adds_commaLines hne hl 1
  rwa [Script.rebroken_commaLines, hr] at ha

theorem script_eq_ok_iff :
    t.write.script = .ok sql ↔
      ∃ items, t.items = .ok items ∧
        guardedText "OBJECT_ID" t.object "U" (t.statement items) = sql := by
  refine t.perform_actions.script_eq_ok_iff fun items h => ?_
  have ho : MadeOf nameMarks t.object := (keepsNames_qualified _ _ (by decide)).marks
  have hd : Script.indentation 1 = "  " ∧ Script.indentation 2 = "    " := by decide
  refine adds_guarded ?_ (((adds_line 1 _).cons ((adds_items h).cons (adds_line 1 ");"))).of_eq ?_)
  · rw [objectId, nameLiteral_eq ho]
    simp [ObjectType.code, ← String.toList_inj]
  · unfold statement
    -- both texts have the same object, only their constants are cut in other places
    generalize t.object = object
    simp [hd, ← String.toList_inj]

end CreateTable

namespace AddColumn
variable {a : AddColumn} {definition sql : String}

def statement (a : AddColumn) (definition : String) : String :=
  "  ALTER TABLE " ++ a.object ++ " ADD " ++ definition

theorem keepsNames_statement (h : a.column.definition = .ok definition) :
    KeepsNames guardedMarks (a.statement definition) := by
  have ho : KeepsNames guardedMarks a.object := keepsNames_qualified _ _ (by decide)
  have hd : KeepsNames guardedMarks definition := (Column.keepsNames_definition h).mono (by decide)
  exact (((keepsNames_of_not_mem (by decide)).append ho).append
    (keepsNames_of_not_mem (by decide))).append hd

theorem script_eq_ok_iff :
    a.write.script = .ok sql ↔
      ∃ definition, a.column.definition = .ok definition ∧
        guardedText "COL_LENGTH" a.object (sanitize a.column.name) (a.statement definition) =
          sql := by
  refine a.perform_actions.script_eq_ok_iff fun definition _ => ?_
  have ho : MadeOf nameMarks a.object := (keepsNames_qualified _ _ (by decide)).marks
  have hd : Script.indentation 1 = "  " := by decide
  refine adds_guarded ?_ ((adds_line 1 _).of_eq ?_)
  · rw [nameLiteral_eq ho, nameLiteral_eq (madeOf_sanitize _)]
    simp [← String.toList_inj]
  · unfold statement
    generalize a.object = object
    simp [hd, ← String.toList_inj]

end AddColumn

/-- Whatever characters the names of a table, its columns and its keys have, a script for it is one
statement behind one question, and no name leaves its literal or its brackets. The question is
about the object that the statement creates or changes, and about the column that it adds. -/
theorem guarded_scripts :
    (∀ (t : CreateTable) (sql : String), t.write.script = .ok sql →
      Guarded [t.object, "U"] sql.toList ∧ ∃ items, t.items = .ok items ∧
        sql = guardedText "OBJECT_ID" t.object "U" (t.statement items)) ∧
    ∀ (a : AddColumn) (sql : String), a.write.script = .ok sql →
      Guarded [a.object, sanitize a.column.name] sql.toList ∧ ∃ type, MadeOf typeMarks type ∧
        sql = guardedText "COL_LENGTH" a.object (sanitize a.column.name)
          (a.statement ("[" ++ sanitize a.column.name ++ "] " ++ type)) := by
  constructor
  · intro t sql h
    obtain ⟨items, hi, rfl⟩ := CreateTable.script_eq_ok_iff.1 h
    refine ⟨?_, items, hi, rfl⟩
    exact guarded_guardedText (by decide) (keepsNames_qualified _ _ (by decide))
      (keepsNames_of_not_mem (by decide)) (CreateTable.keepsNames_statement hi)
  · intro a sql h
    obtain ⟨definition, hd, rfl⟩ := AddColumn.script_eq_ok_iff.1 h
    have hc : KeepsNames nameMarks (sanitize a.column.name) :=
      keepsNames_of_madeOf (madeOf_sanitize _) List.not_mem_nil List.not_mem_nil (by decide)
    refine ⟨guarded_guardedText (by decide) (keepsNames_qualified _ _ (by decide)) hc
      (AddColumn.keepsNames_statement hd), ?_⟩
    obtain ⟨type, hm, rfl⟩ := Column.definition_eq_ok hd
    have ht : identifier a.column.name ++ " " ++ type =
        "[" ++ sanitize a.column.name ++ "] " ++ type := by
      simp [identifier_eq, ← String.toList_inj]
    exact ⟨type, hm, by rw [ht]⟩

def intrudingColumn : Column :=
  { name := "é]];'); DROP TABLE x;--", runtime := "String", length := some 40 }

def intrudingTable : CreateTable where
  schema := some "d'bo].[x"
  name := "N'U') IS NULL\n; DROP TABLE y;--"
  columns := [intrudingColumn]
  primaryKey := ["];'"]

theorem guarded_scripts_intruding :
    (∃ sql, intrudingTable.write.script = .ok sql ∧
      Guarded ["[d_bo___x].[N_U___IS_NULL___DROP_TABLE_y___]", "U"] sql.toList) ∧
    ∃ sql, (AddColumn.mk none "t';" intrudingColumn).write.script = .ok sql ∧
      Guarded ["[dbo].[t__]", "________DROP_TABLE_x___"] sql.toList := by
  obtain ⟨sql, h⟩ : ∃ sql, intrudingTable.write.script = .ok sql := ⟨_, rfl⟩
  obtain ⟨sql', h'⟩ : ∃ sql, (AddColumn.mk none "t';" intrudingColumn).write.script = .ok sql :=
    ⟨_, rfl⟩
  have ht : intrudingTable.object = "[d_bo___x].[N_U___IS_NULL___DROP_TABLE_y___]" := by decide
  have ha : (AddColumn.mk none "t';" intrudingColumn).object = "[dbo].[t__]" := by decide
  have hc : sanitize intrudingColumn.name = "________DROP_TABLE_x___" := by decide
  refine ⟨⟨sql, h, ?_⟩, sql', h', ?_⟩
  · rw [← ht]
    exact (guarded_scripts.1 intrudingTable sql h).1
  · rw [← ha, ← hc]
    exact (guarded_scripts.2 _ sql' h').1

end GridQuery
