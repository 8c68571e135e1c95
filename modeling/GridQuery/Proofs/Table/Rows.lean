import GridQuery.Proofs.Literal.Reading
import GridQuery.Proofs.Result
import GridQuery.Proofs.Script.Adds

/-! # The rows of an upsert

The rows of an upsert are written as one text, line by line. So the end of a line in a string is
taken for the end of a line of the script: it comes out as a line feed and the indentation of the
next line. Everything else of the rows is carried as it is. -/

namespace GridQuery
open Text

section Literal
variable {depth : Nat} {v : Literal} {t : String}

theorem rebroken_doubled (s : List Char) (n : Nat) :
    Text.rebroken (List.replicate n ' ') (doubled '\'' s) =
      doubled '\'' (Text.rebroken (List.replicate n ' ') s) := by
  have hi : doubled '\'' (List.replicate n ' ') = List.replicate n ' ' :=
    doubled_of_not_mem (by simp)
  have ha (s t : List Char) : doubled '\'' (s ++ t) = doubled '\'' s ++ doubled '\'' t := by
    simp [doubled]
  fun_induction Text.rebroken (List.replicate n ' ') s with
  | case1 => rfl
  | case2 rest ih | case3 rest ih => simp [doubled_cons, Text.rebroken, ha, hi, ih]
  | case4 c rest hn hr ih =>
    -- a carriage return must not come to stand before a line feed, nor lose the one behind it
    rw [doubled_cons, doubled_cons, ← ih]
    split
    · rename_i hc
      subst hc
      simp [Text.rebroken]
    · rw [List.singleton_append, rebroken_cons hn, List.singleton_append]
      rintro rfl
      cases rest with
      | nil => simp [doubled]
      | cons d rest =>
        have hd : d ≠ '\n' := fun hd => hr rest rfl (by rw [hd])
        rw [doubled_cons]
        split
        · simp [*]
        · simpa using hd

namespace Literal

def rebroken (depth : Nat) : Literal → Literal
  | string s => string (Script.rebroken depth s)
  | v => v

theorem quoteString_rebroken (s : String) :
    quoteString (Script.rebroken depth s) = Script.rebroken depth (quoteString s) := by
  have hq : quotedText (Script.rebroken depth s) = Script.rebroken depth (quotedText s) := by
    rw [← String.toList_inj]
    simp only [quotedText, String.toList_ofList, Script.toList_rebroken, List.cons_append]
    rw [rebroken_cons (by decide) (by simp), Text.rebroken_append (by simp), rebroken_doubled,
      Text.rebroken_of_not_mem (s := ['\'']) (by decide)]
  have ha : isAscii (Script.rebroken depth s) = isAscii s := by
    simp only [isAscii, Script.toList_rebroken]
    exact all_rebroken (by simp) (by decide) (by decide)
  unfold quoteString
  rw [ha, hq]
  split
  · rfl
  · rw [Script.rebroken_append (by simp [quotedText]),
      Script.rebroken_of_not_mem (t := "N") (by decide)]

theorem quote_rebroken (h : v.quote = .ok t) :
    (v.rebroken depth).quote = .ok (Script.rebroken depth t) := by
  by_cases hs : ∃ s, v = .string s
  · obtain ⟨s, rfl⟩ := hs
    cases h
    exact congrArg Except.ok (quoteString_rebroken s)
  · have hn : '\n' ∉ t.toList := (madeOf_quote h (not_exists.1 hs)).not_mem (by decide) (by decide)
    have hv : v.rebroken depth = v := by
      cases v with
      | string s => exact absurd ⟨s, rfl⟩ hs
      | _ => rfl
    rw [hv, h, Script.rebroken_of_not_mem hn]

end Literal
end Literal

namespace Upsert
open GridQuery.Action
variable {u : Upsert} {row : List Literal} {rows : List (List Literal)} {t : String}
  {ts : List String} {depth : Nat}

theorem rowLiteral_eq_ok_iff :
    rowLiteral row = .ok t ↔
      ∃ cells, List.Forall₂ (fun v c => v.quote = .ok c) row cells ∧ t = rowText cells := by
  simp only [rowLiteral, bind_eq_ok_iff, mapM_eq_ok_iff, mapError_eq_ok_iff]
  constructor
  · rintro ⟨cells, h, ht⟩
    cases ht
    exact ⟨cells, h, rfl⟩
  · rintro ⟨cells, h, rfl⟩
    exact ⟨cells, h, rfl⟩

theorem rowLiteral_rebroken (h : rowLiteral row = .ok t) :
    rowLiteral (row.map (Literal.rebroken depth)) = .ok (Script.rebroken depth t) := by
  obtain ⟨cells, hc, rfl⟩ := rowLiteral_eq_ok_iff.1 h
  have hr : Script.rebroken depth (rowText cells) =
      rowText (cells.map (Script.rebroken depth)) := by
    have hk {t : String} (h : '\n' ∉ t.toList) : Script.rebroken depth t = t :=
      Script.rebroken_of_not_mem h
    rw [rowText, commaList, Script.rebroken_append (by simp), Script.rebroken_append (by simp),
      Script.rebroken_intercalate (by simp) (by simp), hk (t := "(") (by simp),
      hk (t := ")") (by simp), hk (t := ", ") (by simp)]
    rfl
  rw [hr]
  refine rowLiteral_eq_ok_iff.2 ⟨_, ?_, rfl⟩
  rw [List.forall₂_map_left_iff, List.forall₂_map_right_iff]
  exact hc.imp fun _ _ => Literal.quote_rebroken

theorem spells_rowLiteral (h : rowLiteral row = .ok t) :
    Spells t.toList (row.filterMap Literal.spelled?) := by
  obtain ⟨cells, hc, rfl⟩ := rowLiteral_eq_ok_iff.1 h
  have hs : List.Forall₂ Spells (cells.map String.toList) (row.map fun v => v.spelled?.toList) := by
    rw [List.forall₂_map_left_iff, List.forall₂_map_right_iff]
    exact (hc.imp fun _ _ => Literal.spells_quote).flip
  have hi : Spells (", ".toList.intercalate (cells.map String.toList)) _ :=
    spells_intercalate (by decide) (by decide) hs
  have ht := (hi.prepend (s := "(".toList) (by decide)).append_of_not_mem (t := ")".toList)
    (by decide)
  rw [List.filterMap_eq_flatMap_toList, List.flatMap_def]
  simpa [rowText, commaList, String.toList_intercalate] using ht

def frameMarks : List Char := ['[', ']', '(', ')', '.', ',', '=', ';', ' ']

theorem madeOf_frameIdentifier (name : String) : MadeOf frameMarks (identifier name) :=
  (madeOf_identifier name).mono (by decide)

theorem madeOf_equated (column : String) : MadeOf frameMarks (equated column) :=
  ((MadeOf.append (by decide) (madeOf_frameIdentifier column)).append (by decide)).append
    (madeOf_frameIdentifier column)

theorem madeOf_commaList {items : List String} (h : ∀ t ∈ items, MadeOf frameMarks t) :
    MadeOf frameMarks (commaList items) :=
  madeOf_intercalate (by decide) h

theorem unquoted_frame (h : MadeOf frameMarks t) : Unquoted [.line t] :=
  unquoted_line (h.not_mem (by decide) (by decide))

theorem unquoted_updateActions : Unquoted u.updateActions := by
  unfold updateActions
  split
  · exact unquoted_nil
  · refine .cons (unquoted_frame (by decide)) (.indented (unquoted_frame ?_) 1)
    refine .append (by decide) (madeOf_commaList ?_)
    simp [madeOf_equated]

theorem unquoted_insertActions : Unquoted u.insertActions := by
  refine .cons (unquoted_frame (by decide)) (.indented (unquoted_frame ?_) 1)
  have hs (name : String) : MadeOf frameMarks ("SOURCE." ++ identifier name) :=
    .append (by decide) (madeOf_frameIdentifier name)
  have hc : MadeOf frameMarks (commaList (u.columns.map identifier)) :=
    madeOf_commaList (by simp [madeOf_frameIdentifier])
  have hv : MadeOf frameMarks (commaList ((u.columns.map identifier).map ("SOURCE." ++ ·))) :=
    madeOf_commaList (by simp [hs])
  exact ((MadeOf.append (.append (by decide) hc) (by decide)).append hv).append (by decide)

theorem getLast?_of_rowLiteral (h : rowLiteral row = .ok t) : t.toList.getLast? = some ')' := by
  obtain ⟨cells, -, rfl⟩ := rowLiteral_eq_ok_iff.1 h
  simp [rowText, List.getLast?_cons]

theorem rowTexts_eq_ok (h : u.rowTexts = .ok ts) :
    u.rows ≠ [] ∧ List.Forall₂ (fun row t => rowLiteral row = .ok t) u.rows ts := by
  obtain ⟨_, hv, h⟩ := bind_eq_ok_iff.1 h
  refine ⟨?_, mapM_eq_ok_iff.1 h⟩
  intro hr
  simp [validate, hr, bind, Except.bind] at hv

theorem adds_rows (h : u.rowTexts = .ok ts) (depth : Nat) :
    Adds depth [.indented 1 (Action.lines (commaLines ts))]
      (Script.indentation (depth + 1) ++ Script.rebroken (depth + 1) (commaLines ts) ++ "\n") := by
  obtain ⟨hne, hts⟩ := rowTexts_eq_ok h
  apply adds_commaLines
  · rintro rfl
    exact hne (List.forall₂_nil_right_iff.1 hts)
  · intro t ht
    obtain ⟨row, -, hrow⟩ := exists_of_mem_mapM (mapM_eq_ok_iff.2 hts) ht
    exact ⟨')', getLast?_of_rowLiteral hrow, by decide⟩

theorem run_write_of_adds {s : Script} (h : u.rowTexts = .ok ts) (ha : Adds s.depth u.actions t) :
    u.write.run.run s = (.ok (), { text := s.endLine.text ++ t, depth := s.depth }) := by
  rw [← Option.some.injEq, ← u.perform_actions s, ← ha s.endLine.text, actions, h]
  exact runAll?_line_endLine s

/-- Rows between the start of their list and its name, with what stands around. -/
def framed (depth : Nat) (before rows behind : String) : String :=
  before ++ ("USING (VALUES" ++ ("\n" ++ (Script.indentation (depth + 1) ++ (rows ++
    ("\n" ++ (Script.indentation depth ++ (") AS SOURCE" ++ behind)))))))

/-- What an upsert adds: its rows with their lines broken anew, within a frame without quotes. -/
theorem adds_actions (h : u.rowTexts = .ok ts) (depth : Nat) :
    ∃ before behind, '\'' ∉ before.toList ∧ '\'' ∉ behind.toList ∧
      Adds depth u.actions
        (framed depth before (Script.rebroken (depth + 1) (commaLines ts)) behind) := by
  have hm : MadeOf frameMarks
      ("MERGE INTO " ++ qualified (u.schema.getD defaultSchema) u.table ++ " AS TARGET") :=
    .append (.append (by decide) ((madeOf_qualified _ _).mono (by decide))) (by decide)
  have hc : MadeOf frameMarks (commaList (u.columns.map identifier)) :=
    madeOf_commaList (by simp [madeOf_frameIdentifier])
  have ho : MadeOf frameMarks ("ON " ++ String.intercalate " AND " (u.keys.map equated)) :=
    .append (by decide) (madeOf_intercalate (by decide) (by simp [madeOf_equated]))
  obtain ⟨first, hfirst, hqf⟩ := unquoted_frame hm depth
  obtain ⟨rest, hrest, hqr⟩ := (unquoted_frame ho).cons
    (unquoted_updateActions.append (unquoted_insertActions (u := u))) depth
  have hall := hfirst.cons ((adds_line depth "USING (VALUES").cons
    ((adds_rows h depth).cons ((adds_line depth
      (") AS SOURCE (" ++ commaList (u.columns.map identifier) ++ ")")).cons hrest)))
  refine ⟨first ++ Script.indentation depth,
    " (" ++ commaList (u.columns.map identifier) ++ ")\n" ++ rest, ?_, ?_, ?_⟩
  · simp [hqf, Script.indentation]
  · have hq := hc.not_mem (c := '\'') (by decide) (by decide)
    simp [hq, hqr]
  · rw [actions, h]
    refine hall.of_eq ?_
    simp [framed, ← String.toList_inj]

theorem run_write {s after : Script} (h : u.write.run.run s = (.ok (), after)) :
    ∃ ts before behind, u.rowTexts = .ok ts ∧ '\'' ∉ before.toList ∧ '\'' ∉ behind.toList ∧
      after.text = s.endLine.text ++
        framed s.depth before (Script.rebroken (s.depth + 1) (commaLines ts)) behind := by
  cases hr : u.rowTexts with
  | error e =>
    have hp := u.perform_actions s
    rw [h, actions, hr] at hp
    simp [Action.ofExcept, runAll?, run?] at hp
  | ok ts =>
    obtain ⟨before, behind, hb, hq, ha⟩ := adds_actions hr s.depth
    cases h.symm.trans (run_write_of_adds hr ha)
    exact ⟨ts, before, behind, rfl, hb, hq, rfl⟩

end Upsert

/-- The texts stand in the whole, one behind the other. -/
def InOrder : List (List Char) → List Char → Prop
  | [], _ => True
  | t :: ts, whole => ∃ before after, whole = before ++ (t ++ after) ∧ InOrder ts after

theorem inOrder_intercalate (before sep after : List Char) (ts : List (List Char)) :
    InOrder ts (before ++ (sep.intercalate ts ++ after)) := by
  induction ts generalizing before with
  | nil => trivial
  | cons t ts ih =>
    cases ts with
    | nil => exact ⟨before, after, by simp, trivial⟩
    | cons t' ts =>
      exact ⟨before, sep ++ (sep.intercalate (t' :: ts) ++ after),
        by simp [List.intercalate_cons_cons], ih sep⟩

/-- A script carries rows: between the start of their list and its name each row stands as its
cells are written, and the string literals of the script spell the values of the cells. -/
structure Carries (rows : List (List Literal)) (sql : List Char) : Prop where
  listed : ∃ before list behind, sql = before ++ ("USING (VALUES".toList ++
    (list ++ (") AS SOURCE".toList ++ behind))) ∧ '\'' ∉ before ∧ '\'' ∉ behind ∧
      ∃ ts, rows.mapM Upsert.rowLiteral = .ok ts ∧ InOrder (ts.map String.toList) list
  spelled : strings? sql = some (rows.flatten.filterMap Literal.spelled?)

namespace Upsert
variable {u : Upsert} {rows : List (List Literal)} {ts : List String} {depth : Nat}

theorem carries_framed {before behind : String} (hb : '\'' ∉ before.toList)
    (hq : '\'' ∉ behind.toList) (h : List.Forall₂ (fun row t => rowLiteral row = .ok t) rows ts) :
    Carries rows (framed depth before
      ((",\n" ++ Script.indentation (depth + 1)).intercalate ts) behind).toList := by
  let sep := ",\n" ++ Script.indentation (depth + 1)
  have hs : List.Forall₂ Spells (ts.map String.toList)
      (rows.map fun row => row.filterMap Literal.spelled?) := by
    rw [List.forall₂_map_left_iff, List.forall₂_map_right_iff]
    exact (h.imp fun _ _ => spells_rowLiteral).flip
  have hi (d : Nat) : '\'' ∉ (Script.indentation d).toList := by simp [Script.indentation]
  have hr : Spells (sep.toList.intercalate (ts.map String.toList)) _ :=
    spells_intercalate (by simp [sep, hi]) (by simp [sep]) hs
  constructor
  · refine ⟨before.toList, "\n".toList ++ (Script.indentation (depth + 1)).toList ++
      (sep.toList.intercalate (ts.map String.toList) ++
        ("\n".toList ++ (Script.indentation depth).toList)), behind.toList, ?_, hb, hq, ts,
      mapM_eq_ok_iff.2 h, inOrder_intercalate ..⟩
    simp [framed, sep, String.toList_intercalate]
  · have hall := (hr.prepend (s := before.toList ++ "USING (VALUES\n".toList ++
      (Script.indentation (depth + 1)).toList) (by simp [hb, hi])).append_of_not_mem
      (t := "\n".toList ++ (Script.indentation depth).toList ++ ") AS SOURCE".toList ++
        behind.toList) (by simp [hq, hi])
    rw [List.filterMap_flatten, ← hall.strings?]
    simp [framed, sep, String.toList_intercalate]

theorem spelled_rebroken {cells : List Literal} {n : Nat}
    (h : cells.filterMap Literal.spelled? =
      (cells.map (Literal.rebroken (n + 1))).filterMap Literal.spelled?) :
    ∀ t, .string t ∈ cells → '\n' ∉ t.toList := by
  induction cells with
  | nil => nofun
  | cons v cells ih =>
    cases v with
    | string s =>
      simp only [List.map_cons, Literal.rebroken, List.filterMap_cons, Literal.spelled?,
        List.cons.injEq, Script.toList_rebroken] at h
      obtain ⟨hs, hr⟩ := h
      intro t ht
      obtain ht | ht := List.mem_cons.1 ht
      · cases ht
        exact (rebroken_eq_self_iff (by omega)).1 hs.symm
      · exact ih hr t ht
    | _ =>
      intro t ht
      refine ih ?_ t (by simpa using ht)
      simpa [Literal.rebroken, List.filterMap_cons, Literal.spelled?] using h

theorem rebroken_of_unbroken (h : ∀ row ∈ rows, ∀ t, .string t ∈ row → '\n' ∉ t.toList) :
    rows.map (·.map (Literal.rebroken depth)) = rows := by
  have hv (row : List Literal) (hrow : row ∈ rows) (v : Literal) (hv : v ∈ row) :
      v.rebroken depth = v := by
    cases v with
    | string t => exact congrArg Literal.string (Script.rebroken_of_not_mem (h row hrow t hv))
    | _ => rfl
  refine (List.map_congr_left fun row hrow => ?_).trans (List.map_id rows)
  exact (List.map_congr_left (hv row hrow)).trans (List.map_id row)

theorem carries_of_run_write {s after : Script} (h : u.write.run.run s = (.ok (), after)) :
    ∃ written, after.text.toList = s.endLine.text.toList ++ written ∧
      Carries (u.rows.map (·.map (Literal.rebroken (s.depth + 1)))) written := by
  obtain ⟨ts, before, behind, ht, hb, hq, ha⟩ := run_write h
  obtain ⟨-, hts⟩ := rowTexts_eq_ok ht
  refine ⟨_, by rw [ha, String.toList_append], ?_⟩
  rw [Script.rebroken_commaLines]
  refine carries_framed hb hq ?_
  rw [List.forall₂_map_left_iff, List.forall₂_map_right_iff]
  exact hts.imp fun _ _ => rowLiteral_rebroken

/-- An upsert adds a statement that carries its rows, but where a line ends in a string the line
feed of the script and the indentation of its next line stand instead. So the statement carries the
rows themselves exactly if no line ends in a string. -/
theorem carries_write {s after : Script} (h : u.write.run.run s = (.ok (), after)) :
    ∃ written, after.text.toList = s.endLine.text.toList ++ written ∧
      Carries (u.rows.map (·.map (Literal.rebroken (s.depth + 1)))) written ∧
      (Carries u.rows written ↔ ∀ row ∈ u.rows, ∀ t, .string t ∈ row → '\n' ∉ t.toList) := by
  obtain ⟨written, ht, hc⟩ := carries_of_run_write h
  refine ⟨written, ht, hc, fun hu row hrow t hmem => ?_, fun hn => ?_⟩
  -- the script is read in one way only, so that both lists of rows have the same strings
  · have hs := hu.spelled.symm.trans hc.spelled
    rw [Option.some.injEq, ← List.map_flatten] at hs
    exact spelled_rebroken hs t (List.mem_flatten.2 ⟨row, hrow, hmem⟩)
  · rwa [rebroken_of_unbroken hn] at hc

def notes : Upsert where
  table := "Notes"
  keys := ["Id"]
  columns := ["Id", "Text"]
  rows := [[.int 1, .string "it's"], [.int 2, .string "a\r\nb"]]

theorem carries_write_notes :
    ∃ after, notes.write.run.run { text := "BEGIN", depth := 1, lineOpen := true } =
        (.ok (), after) ∧ ∃ written, after.text.toList = "BEGIN\n".toList ++ written ∧
        Carries [[.int 1, .string "it's"], [.int 2, .string "a\n    b"]] written ∧
        ¬ Carries notes.rows written := by
  obtain ⟨after, h⟩ : ∃ after, notes.write.run.run
      { text := "BEGIN", depth := 1, lineOpen := true } = (.ok (), after) := ⟨_, rfl⟩
  obtain ⟨written, ht, hc, hi⟩ := carries_write h
  refine ⟨after, h, written, ht, hc, fun hn => ?_⟩
  exact hi.1 hn [.int 2, .string "a\r\nb"] (by simp [notes]) "a\r\nb" (by simp) (by decide)

def brokenNote : Upsert where
  table := "Notes"
  keys := ["Id"]
  columns := ["Id"]
  rows := [[.string "a\nb"]]

/-- What stands behind the end of a line comes back with an indentation before it. -/
theorem not_carries_brokenNote :
    ∃ sql, brokenNote.write.script = .ok sql ∧ strings? sql.toList = some ["a\n  b".toList] ∧
      ¬ Carries brokenNote.rows sql.toList := by
  have hs : strings? ("MERGE INTO [dbo].[Notes] AS TARGET\nUSING (VALUES\n  ('a\n  b')\n" ++
      ") AS SOURCE ([Id])\nON TARGET.[Id] = SOURCE.[Id]\nWHEN NOT MATCHED THEN\n" ++
      "  INSERT ([Id]) VALUES (SOURCE.[Id]);\n").toList = some ["a\n  b".toList] := by
    decide +kernel
  refine ⟨_, by decide +kernel, hs, fun hc => ?_⟩
  exact absurd (hs.symm.trans hc.spelled) (by decide)

end Upsert
end GridQuery
