import GridQuery.Proofs.Table.Rows

/-! # Statements that cannot be written

What can be wrong with a statement is found before its first line is written, so that a statement
is written as a whole or not at all. An upsert is checked in a fixed order, and the first thing
that is wrong is reported. If nothing is, each of its rows has a cell for each column. -/

namespace GridQuery
open GridQuery.Action

/-- Fails and leaves the script as it was, or ends well at the same depth. -/
def Writing.AllOrNothing (w : Writing StatementError Unit) : Prop :=
  ∀ s, (∃ e, w.run.run s = (.error e, s)) ∨
    ∃ after, w.run.run s = (.ok (), after) ∧ after.depth = s.depth

namespace Action
variable {α : Type} {x : Except StatementError α} {actions : α → List Action}
  {w : Writing StatementError Unit}

theorem Perform.run_of_error {e : StatementError} (h : Perform (Action.ofExcept x actions) w)
    (hx : x = .error e) (s : Script) : w.run.run s = (.error e, s) := by
  subst hx
  exact (Option.some.inj (h s)).symm

theorem Perform.allOrNothing (h : Perform (Action.ofExcept x actions) w)
    (hs : ∀ a, allSure (actions a) = true) : w.AllOrNothing := by
  intro s
  cases hx : x with
  | error e => exact .inl ⟨e, h.run_of_error hx s⟩
  | ok a =>
    subst hx
    obtain ⟨after, hr⟩ := runAll?_of_sure (actions a) s (hs a)
    obtain ⟨_, _, hr', hc⟩ := exists_runAll? (actions a) s
    cases hr'.symm.trans hr
    exact .inr ⟨after, Option.some.inj ((h s).symm.trans hr), hc.depth⟩

/-- A statement is written exactly if all that can be wrong with it is settled. -/
theorem Perform.script_eq_ok_iff {text : α → String} {sql : String}
    (h : Perform (Action.ofExcept x actions) w)
    (ha : ∀ a, x = .ok a → Adds 0 (actions a) (text a)) :
    w.script = .ok sql ↔ ∃ a, x = .ok a ∧ text a = sql := by
  cases hx : x with
  | error e =>
    refine ⟨fun hs => ?_, nofun⟩
    obtain ⟨after, hr, -⟩ := Writing.script_eq_ok_iff.1 hs
    cases (h.run_of_error hx {}).symm.trans hr
  | ok a =>
    subst hx
    simp [h.script_eq (ha a rfl)]

end Action

theorem CreateTable.allOrNothing_write (t : CreateTable) : t.write.AllOrNothing := by
  apply t.perform_actions.allOrNothing
  intro items
  simp [provided, enclosed, allSure, isSure, allSure_lines]

theorem AddColumn.allOrNothing_write (a : AddColumn) : a.write.AllOrNothing := by
  apply a.perform_actions.allOrNothing
  intro definition
  rfl

theorem Upsert.allOrNothing_write (u : Upsert) : u.write.AllOrNothing := by
  apply u.perform_actions.allOrNothing
  intro rows
  have hu : allSure u.updateActions = true := by
    unfold updateActions
    split <;> rfl
  simp [allSure, isSure, allSure_append, allSure_lines, hu, insertActions]

namespace Literal
open Decimal

/-- The literal has a written form: it is no span of time, and if it is a double it is finite. -/
def IsWritable : Literal → Prop
  | timeSpan _ => False
  | float x => isFinite x = true
  | _ => True

theorem quote_eq_error_iff {v : Literal} {e : KindError} :
    v.quote = .error e ↔ ¬ v.IsWritable ∧ e = .unsupported v.kind := by
  cases v with
  | float x => cases h : isFinite x <;> simp [quote, IsWritable, kind, h, eq_comm]
  | timeSpan s => simp [quote, IsWritable, kind, eq_comm]
  | _ => simp [quote, IsWritable]

end Literal

namespace Upsert
variable {u : Upsert} {e : StatementError} {rows : List (List Literal)}

/-- The first thing that is wrong with an upsert. -/
inductive Fault (u : Upsert) : StatementError → Prop where
  | noRows : u.rows = [] → Fault u .noRows
  | noKeys : u.rows ≠ [] → u.keys = [] → Fault u .noKeys
  | strayKey {before : List String} {key : String} : u.rows ≠ [] →
      IsFirst (· ∉ u.columns) u.keys before key → Fault u (.strayKey key)
  | raggedRow {before : List (List Literal)} {row : List Literal} : u.rows ≠ [] → u.keys ≠ [] →
      (∀ key ∈ u.keys, key ∈ u.columns) →
      IsFirst (·.length ≠ u.columns.length) u.rows before row →
      Fault u (.raggedRow before.length row.length u.columns.length)
  | badCell {before : List Literal} {cell : Literal} : u.rows ≠ [] → u.keys ≠ [] →
      (∀ key ∈ u.keys, key ∈ u.columns) → (∀ row ∈ u.rows, row.length = u.columns.length) →
      IsFirst (¬ ·.IsWritable) u.rows.flatten before cell →
      Fault u (.kind (.unsupported cell.kind))

theorem exists_fault_iff : (∃ e, u.Fault e) ↔
    u.rows = [] ∨ u.keys = [] ∨ (∃ key ∈ u.keys, key ∉ u.columns) ∨
      (∃ row ∈ u.rows, row.length ≠ u.columns.length) ∨
      ∃ row ∈ u.rows, ∃ cell ∈ row, ¬ cell.IsWritable := by
  have hcells : (∃ row ∈ u.rows, ∃ cell ∈ row, ¬ cell.IsWritable) ↔
      ∃ cell ∈ u.rows.flatten, ¬ cell.IsWritable := by
    simp only [List.mem_flatten]
    tauto
  rw [hcells, ← exists_isFirst_iff, ← exists_isFirst_iff, ← exists_isFirst_iff]
  constructor
  · rintro ⟨_, hr | ⟨-, hk⟩ | ⟨-, h⟩ | ⟨-, -, -, h⟩ | ⟨-, -, -, -, h⟩⟩
    · exact .inl hr
    · exact .inr (.inl hk)
    · exact .inr (.inr (.inl ⟨_, _, h⟩))
    · exact .inr (.inr (.inr (.inl ⟨_, _, h⟩)))
    · exact .inr (.inr (.inr (.inr ⟨_, _, h⟩)))
  · intro h
    by_cases hr : u.rows = []
    · exact ⟨_, .noRows hr⟩
    by_cases hk : u.keys = []
    · exact ⟨_, .noKeys hr hk⟩
    by_cases hc : ∃ before key, IsFirst (· ∉ u.columns) u.keys before key
    · obtain ⟨before, key, hc⟩ := hc
      exact ⟨_, .strayKey hr hc⟩
    by_cases hl : ∃ before row, IsFirst (·.length ≠ u.columns.length) u.rows before row
    · obtain ⟨before, row, hl⟩ := hl
      exact ⟨_, .raggedRow hr hk (by simpa [exists_isFirst_iff] using hc) hl⟩
    obtain ⟨before, cell, hb⟩ := by simpa only [hr, hk, hc, hl, false_or] using h
    exact ⟨_, .badCell hr hk (by simpa [exists_isFirst_iff] using hc)
      (by simpa [exists_isFirst_iff] using hl) hb⟩

def strayKey? (u : Upsert) : Option String := u.keys.find? fun key => !u.columns.contains key

theorem strayKey?_eq_some_iff {key : String} :
    u.strayKey? = some key ↔ ∃ before, IsFirst (· ∉ u.columns) u.keys before key := by
  simp [strayKey?, find?_eq_some_iff_isFirst]

theorem strayKey?_eq_none_iff : u.strayKey? = none ↔ ∀ key ∈ u.keys, key ∈ u.columns := by
  simp [strayKey?]

theorem raggedRow?_eq_some_iff {i : Nat} {row : List Literal} :
    u.raggedRow? = some (i, row) ↔
      ∃ before, before.length = i ∧ IsFirst (·.length ≠ u.columns.length) u.rows before row := by
  rw [raggedRow?, find?_eq_some_iff_isFirst]
  constructor
  · rintro ⟨before, hb, hr, after, h⟩
    obtain ⟨before', rest, hrows, rfl, hrest⟩ := List.mapIdx_eq_append_iff.1 h
    obtain ⟨_, after', rfl, hi, -⟩ := List.mapIdx_eq_cons_iff.1 hrest
    simp only [Prod.mk.injEq] at hi
    obtain ⟨rfl, rfl⟩ := hi
    refine ⟨before', by simp, ?_, by simpa using hr, after', hrows⟩
    intro b hb'
    obtain ⟨j, hj, rfl⟩ := List.getElem_of_mem hb'
    simpa using hb (j, before'[j]) (List.mem_mapIdx.2 ⟨j, hj, rfl⟩)
  · rintro ⟨before, rfl, hb, hr, after, h⟩
    refine ⟨before.mapIdx fun i row => (i, row), ?_, by simpa using hr, ?_⟩
    · simp only [List.mem_mapIdx]
      rintro _ ⟨j, hj, rfl⟩
      simpa using hb _ (List.getElem_mem hj)
    · refine ⟨_, by rw [h, List.mapIdx_append, List.mapIdx_cons, Nat.zero_add]⟩

theorem raggedRow?_eq_none_iff :
    u.raggedRow? = none ↔ ∀ row ∈ u.rows, row.length = u.columns.length := by
  rw [raggedRow?, List.find?_eq_none]
  constructor
  · intro h row hrow
    obtain ⟨i, hi, rfl⟩ := List.getElem_of_mem hrow
    simpa using h (i, u.rows[i]) (List.mem_mapIdx.2 ⟨i, hi, rfl⟩)
  · rintro h _ hp
    obtain ⟨i, hi, rfl⟩ := List.mem_mapIdx.1 hp
    simpa using h _ (List.getElem_mem hi)

theorem validate_eq : u.validate =
    if u.rows = [] then .error .noRows
    else if u.keys = [] then .error .noKeys
    else match u.strayKey? with
      | some key => .error (.strayKey key)
      | none => match u.raggedRow? with
        | some (i, row) => .error (.raggedRow i row.length u.columns.length)
        | none => .ok () := by
  unfold validate strayKey?
  simp only [List.isEmpty_iff]
  split
  · rfl
  split
  · rfl
  cases u.keys.find? fun key => !u.columns.contains key
  · cases u.raggedRow? <;> rfl
  · rfl

theorem mapM_rowLiteral_eq_error_iff :
    rows.mapM rowLiteral = .error e ↔
      rows.flatten.mapM (fun cell => cell.quote.mapError StatementError.kind) = .error e := by
  induction rows with
  | nil => simp [pure, Except.pure]
  | cons row rows ih =>
    rw [List.flatten_cons, List.mapM_append, List.mapM_cons, rowLiteral, bind_assoc]
    cases row.mapM fun cell => cell.quote.mapError StatementError.kind with
    | error e' => rfl
    | ok cells =>
      simp only [pure_bind, bind_eq_error_iff, ih, Except.ok.injEq, exists_eq_left']
      simp [pure, Except.pure]

theorem mapM_rowLiteral_eq_error_iff_isFirst :
    rows.mapM rowLiteral = .error e ↔
      ∃ before cell, IsFirst (¬ ·.IsWritable) rows.flatten before cell ∧
        e = .kind (.unsupported cell.kind) := by
  -- row by row or cell by cell, the first cell that cannot be written is the same
  have hcell (cell : Literal) (e : StatementError) :
      cell.quote.mapError StatementError.kind = .error e ↔
        ¬ cell.IsWritable ∧ e = .kind (.unsupported cell.kind) := by
    simp only [mapError_eq_error_iff, Literal.quote_eq_error_iff]
    constructor
    · rintro ⟨_, ⟨hw, rfl⟩, rfl⟩
      exact ⟨hw, rfl⟩
    · rintro ⟨hw, rfl⟩
      exact ⟨_, ⟨hw, rfl⟩, rfl⟩
  rw [mapM_rowLiteral_eq_error_iff, mapM_eq_error_iff]
  simp only [hcell, exists_and_left, exists_eq, and_true]
  constructor
  · rintro ⟨before, cell, hf, -, rfl⟩
    exact ⟨before, cell, hf, rfl⟩
  · rintro ⟨before, cell, hf, rfl⟩
    exact ⟨before, cell, hf, hf.2.1, rfl⟩

theorem fault_of_rowTexts (h : u.rowTexts = .error e) : u.Fault e := by
  rw [rowTexts, validate_eq, bind_eq_error_iff] at h
  split at h
  · rename_i hr
    obtain rfl : e = .noRows := by simpa [eq_comm] using h
    exact .noRows hr
  rename_i hr
  split at h
  · rename_i hk
    obtain rfl : e = .noKeys := by simpa [eq_comm] using h
    exact .noKeys hr hk
  rename_i hk
  split at h
  · rename_i key hf
    obtain rfl : e = .strayKey key := by simpa [eq_comm] using h
    obtain ⟨before, hf⟩ := strayKey?_eq_some_iff.1 hf
    exact .strayKey hr hf
  rename_i hf
  have hc := strayKey?_eq_none_iff.1 hf
  split at h
  · rename_i i row hg
    obtain rfl : e = .raggedRow i row.length u.columns.length := by simpa [eq_comm] using h
    obtain ⟨before, rfl, hl⟩ := raggedRow?_eq_some_iff.1 hg
    exact .raggedRow hr hk hc hl
  rename_i hg
  have hl := raggedRow?_eq_none_iff.1 hg
  obtain ⟨before, cell, hb, rfl⟩ := mapM_rowLiteral_eq_error_iff_isFirst.1 (by simpa using h)
  exact .badCell hr hk hc hl hb

theorem rowTexts_of_fault (h : u.Fault e) : u.rowTexts = .error e := by
  rw [rowTexts, validate_eq, bind_eq_error_iff]
  cases h with
  | noRows hr => simp [hr]
  | noKeys hr hk => simp [hr, hk]
  | strayKey hr h =>
    have hk := List.ne_nil_of_mem h.mem
    simp [hr, hk, strayKey?_eq_some_iff.2 ⟨_, h⟩]
  | raggedRow hr hk hc h =>
    simp [hr, hk, strayKey?_eq_none_iff.2 hc, raggedRow?_eq_some_iff.2 ⟨_, rfl, h⟩]
  | badCell hr hk hc hl h =>
    have hb := mapM_rowLiteral_eq_error_iff_isFirst.2 ⟨_, _, h, rfl⟩
    simp [hr, hk, strayKey?_eq_none_iff.2 hc, raggedRow?_eq_none_iff.2 hl, hb]

theorem rowTexts_eq_error_iff : u.rowTexts = .error e ↔ u.Fault e :=
  ⟨fault_of_rowTexts, rowTexts_of_fault⟩

variable {depth : Nat} {ts : List String} {cells : List (List String)}

/-- The cells of the rows as they are written, the lines of strings broken anew. -/
def Cells (depth : Nat) (rows : List (List Literal)) (cells : List (List String)) : Prop :=
  List.Forall₂ (List.Forall₂ fun v c => (v.rebroken depth).quote = .ok c) rows cells

theorem Cells.forall_length (h : Cells depth rows cells) {n : Nat}
    (hn : ∀ row ∈ rows, row.length = n) : ∀ row ∈ cells, row.length = n := by
  induction h with
  | nil => nofun
  | cons hrow _ ih =>
    rw [List.forall_mem_cons] at hn ⊢
    exact ⟨hrow.length_eq.symm.trans hn.1, ih hn.2⟩

theorem exists_cells (h : List.Forall₂ (fun row t => rowLiteral row = .ok t) rows ts)
    (depth : Nat) :
    ∃ cells, Cells depth rows cells ∧ ts.map (Script.rebroken depth) = cells.map rowText := by
  induction h with
  | nil => exact ⟨[], .nil, rfl⟩
  | cons hrow _ ih =>
    obtain ⟨cells, hc, ht⟩ := ih
    obtain ⟨row, hr, hrt⟩ := rowLiteral_eq_ok_iff.1 (rowLiteral_rebroken hrow)
    exact ⟨row :: cells, .cons (List.forall₂_map_left_iff.1 hr) hc, by simp [hrt, ht]⟩

def statement (u : Upsert) (depth : Nat) (cells : List (List String)) : String :=
  let line (depth : Nat) (t : String) := Script.indentation depth ++ t ++ "\n"
  let columns := u.columns.map identifier
  line depth ("MERGE INTO " ++ qualified (u.schema.getD defaultSchema) u.table ++ " AS TARGET") ++
    (line depth "USING (VALUES" ++
    (line (depth + 1) ((",\n" ++ Script.indentation (depth + 1)).intercalate
      (cells.map rowText)) ++
    (line depth (") AS SOURCE (" ++ commaList columns ++ ")") ++
    (line depth ("ON " ++ " AND ".intercalate (u.keys.map equated)) ++
    ((if u.updated.isEmpty then "" else line depth "WHEN MATCHED THEN" ++
      line (depth + 1) ("UPDATE SET " ++ commaList (u.updated.map equated))) ++
    (line depth "WHEN NOT MATCHED THEN" ++
      line (depth + 1) ("INSERT (" ++ commaList columns ++ ") VALUES (" ++
        commaList (columns.map ("SOURCE." ++ ·)) ++ ");")))))))

theorem adds_updateActions (u : Upsert) (depth : Nat) :
    Adds depth u.updateActions (if u.updated.isEmpty then "" else
      Script.indentation depth ++ "WHEN MATCHED THEN" ++ "\n" ++
        (Script.indentation (depth + 1) ++ ("UPDATE SET " ++ commaList (u.updated.map equated)) ++
          "\n")) := by
  unfold updateActions
  split
  · intro text
    simp [runAll?]
  · exact (adds_line depth _).cons (adds_line (depth + 1) _).indented

theorem adds_statement (h : u.rowTexts = .ok ts) (depth : Nat) :
    ∃ cells, Cells (depth + 1) u.rows cells ∧ Adds depth u.actions (u.statement depth cells) := by
  obtain ⟨cells, hc, ht⟩ := exists_cells (rowTexts_eq_ok h).2 (depth + 1)
  refine ⟨cells, hc, ?_⟩
  have hrows := adds_rows h depth
  rw [Script.rebroken_commaLines, ht] at hrows
  have hinsert : Adds depth u.insertActions _ :=
    (adds_line depth _).cons (adds_line (depth + 1) _).indented
  have hupdate := adds_updateActions u depth
  rw [actions, h]
  exact (Adds.cons (adds_line depth _) (.cons (adds_line depth _) (.cons hrows
    (.cons (adds_line depth _) (.cons (adds_line depth _) (hupdate.append hinsert))))))

theorem run_write_of_rowTexts (h : u.rowTexts = .ok ts) (s : Script) :
    ∃ cells, Cells (s.depth + 1) u.rows cells ∧ u.write.run.run s =
      (.ok (), { text := s.endLine.text ++ u.statement s.depth cells, depth := s.depth }) := by
  obtain ⟨cells, hc, ha⟩ := adds_statement h s.depth
  exact ⟨cells, hc, run_write_of_adds h ha⟩

theorem run_write_eq_error_iff {s after : Script} :
    u.write.run.run s = (.error e, after) ↔ u.Fault e ∧ after = s := by
  constructor
  · intro h
    cases hr : u.rowTexts with
    | error e' =>
      cases h.symm.trans (u.perform_actions.run_of_error hr s)
      exact ⟨rowTexts_eq_error_iff.1 hr, rfl⟩
    | ok ts =>
      obtain ⟨cells, -, hw⟩ := run_write_of_rowTexts hr s
      cases h.symm.trans hw
  · rintro ⟨he, rfl⟩
    exact u.perform_actions.run_of_error (rowTexts_eq_error_iff.2 he) after

theorem forall_length_of_rowTexts (h : u.rowTexts = .ok ts) :
    ∀ row ∈ u.rows, row.length = u.columns.length := by
  by_contra hl
  obtain ⟨e, he⟩ : ∃ e, u.Fault e := by
    rw [exists_fault_iff]
    push Not at hl
    exact .inr (.inr (.inr (.inl hl)))
  cases h.symm.trans (rowTexts_eq_error_iff.2 he)

end Upsert

/-- The statements are written as a whole or not at all. An upsert fails exactly if there is
something wrong with it, and as the first thing that is; else it adds its statement, which has a
cell for each column in each of its rows. -/
theorem allOrNothing_statements :
    (∀ t : CreateTable, t.write.AllOrNothing) ∧ (∀ a : AddColumn, a.write.AllOrNothing) ∧
    ∀ u : Upsert, u.write.AllOrNothing ∧ ∀ s,
      ((∃ e after, u.write.run.run s = (.error e, after)) ↔
        u.rows = [] ∨ u.keys = [] ∨ (∃ key ∈ u.keys, key ∉ u.columns) ∨
          (∃ row ∈ u.rows, row.length ≠ u.columns.length) ∨
          ∃ row ∈ u.rows, ∃ cell ∈ row, ¬ cell.IsWritable) ∧
      ∀ after,
        (∀ e, u.write.run.run s = (.error e, after) ↔ u.Fault e ∧ after = s) ∧
        (u.write.run.run s = (.ok (), after) →
          ∃ cells, Upsert.Cells (s.depth + 1) u.rows cells ∧
            (∀ row ∈ cells, row.length = u.columns.length) ∧
            after = { text := s.endLine.text ++ u.statement s.depth cells, depth := s.depth }) := by
  refine ⟨fun t => t.allOrNothing_write, fun a => a.allOrNothing_write, fun u =>
    ⟨u.allOrNothing_write, fun s => ⟨?_, fun after => ⟨fun e => ?_, fun h => ?_⟩⟩⟩⟩
  · rw [← Upsert.exists_fault_iff]
    simp only [Upsert.run_write_eq_error_iff, exists_and_left, exists_eq, and_true]
  · exact Upsert.run_write_eq_error_iff
  · cases hr : u.rowTexts with
    | error e => cases h.symm.trans (u.perform_actions.run_of_error hr s)
    | ok ts =>
      obtain ⟨cells, hc, hw⟩ := Upsert.run_write_of_rowTexts hr s
      cases h.symm.trans hw
      exact ⟨cells, hc, hc.forall_length (Upsert.forall_length_of_rowTexts hr), rfl⟩

namespace Upsert

def spans : Upsert where
  table := "Spans"
  keys := ["Id"]
  columns := ["Id", "Length"]
  rows := [[.int 1, .null], [.int 2, .timeSpan ⟨90, 0⟩], [.int 3]]

end Upsert

theorem allOrNothing_statements_spans :
    Upsert.spans.write.run.run { text := "BEGIN", depth := 1, lineOpen := true } =
        (.error (.raggedRow 2 1 2), { text := "BEGIN", depth := 1, lineOpen := true }) ∧
      ∃ after cells, Upsert.notes.write.run.run { text := "BEGIN", depth := 1, lineOpen := true } =
          (.ok (), after) ∧ cells.length = 2 ∧ (∀ row ∈ cells, row.length = 2) ∧
        after.text = "BEGIN\n" ++ Upsert.notes.statement 1 cells := by
  obtain ⟨-, -, hu⟩ := allOrNothing_statements
  constructor
  · obtain ⟨he, -⟩ := ((hu Upsert.spans).2 _).2 _
    have hl : IsFirst (·.length ≠ Upsert.spans.columns.length) Upsert.spans.rows
        (Upsert.spans.rows.take 2) [.int 3] :=
      ⟨by simp [Upsert.spans], by decide, [], rfl⟩
    have hf : Upsert.spans.Fault (.raggedRow 2 1 2) :=
      .raggedRow (by simp [Upsert.spans]) (by decide) (by decide) hl
    exact (he _).2 ⟨hf, rfl⟩
  · obtain ⟨after, h⟩ : ∃ after, Upsert.notes.write.run.run
        { text := "BEGIN", depth := 1, lineOpen := true } = (.ok (), after) := ⟨_, rfl⟩
    obtain ⟨cells, hc, hl, rfl⟩ := (((hu Upsert.notes).2 _).2 _).2 h
    exact ⟨_, cells, h, hc.length_eq.symm, hl, rfl⟩

end GridQuery
