import GridQuery.Proofs.Batch.Assembly

/-! # The lines of a batch

Each statement of a batch is made of lines, one for each clause it has, and ends in a semicolon
and a blank line. Outside the condition the lines are made of word characters and few marks. -/

namespace GridQuery
open Text

/-- A script at the margin whose last lines are open for more. -/
def Script.ofLines (before : String) (ls : List String) : Script :=
  ⟨before ++ "\n".intercalate ls, 0, true⟩

namespace Batch
variable {before : String} {ls : List String} {r : Request} {condition : Option String}
  {page : Option Fragments}

theorem startLine_ofText (t : String) :
    ({ text := before } : Script).startLine t = .ofLines before [t] := by
  simp [Script.startLine, Script.endLine, Script.ofLines, Script.indentation]

theorem startLine_ofLines (h : ls ≠ []) (t : String) :
    (Script.ofLines before ls).startLine t = .ofLines before (ls ++ [t]) := by
  simp [Script.startLine, Script.endLine, Script.ofLines, Script.indentation,
    String.intercalate_append_of_ne_nil h, String.append_assoc]

theorem endStatement_ofLines :
    endStatement (.ofLines before ls) = { text := before ++ ("\n".intercalate ls ++ ";\n\n") } := by
  simp [endStatement, Script.blankLine, Script.endLine, Script.literal, Script.ofLines,
    String.append_assoc]

theorem foldl_startLine_ofLines (h : ls ≠ []) (more : List (List Char)) :
    more.foldl (fun s l => s.startLine (String.ofList l)) (Script.ofLines before ls) =
      Script.ofLines before (ls ++ more.map String.ofList) := by
  induction more generalizing ls with
  | nil => simp
  | cons l more ih => simp [startLine_ofLines h, ih]

theorem literal_ofLines (l t : String) :
    (Script.ofLines before (ls ++ [l])).literal t = .ofLines before (ls ++ [l ++ t]) := by
  by_cases h : ls = []
  · simp [h, Script.ofLines, Script.literal, String.append_assoc]
  · simp [Script.ofLines, Script.literal, String.intercalate_append_of_ne_nil h,
      String.append_assoc]

theorem writeClause_ofLines (h : ls ≠ []) (keyword : String) {t : String} (hr : '\r' ∉ t.toList)
    (hn : t.toList.getLast? ≠ some '\n') :
    writeClause keyword t (.ofLines before ls) = .ofLines before (ls ++ [keyword ++ " " ++ t]) := by
  have ht := intercalate_lines hr hn
  unfold writeClause
  rw [startLine_ofLines h, literal_ofLines]
  cases hl : lines t.toList with
  | nil =>
    have : t = "" := by simpa [lines_eq_nil_iff] using hl
    simp [this]
  | cons first rest =>
    have hj : "\n".intercalate ((first :: rest).map String.ofList) = t := by
      rw [← String.toList_inj, String.toList_intercalate, ← ht, hl]
      simp [Function.comp_def]
    simp only
    rw [literal_ofLines, foldl_startLine_ofLines (by simp)]
    simp [Script.ofLines, String.intercalate_append_of_ne_nil h, ← hj, String.append_assoc]

/-- The text of the clause keeps its lines when it is written at the margin. -/
def Plain (t : String) : Prop := '\r' ∉ t.toList ∧ t.toList.getLast? ≠ some '\n'

def clauseLine (keyword : String) (text : Option String) : List String :=
  (text.map (keyword ++ " " ++ ·)).toList

theorem writeClause?_ofLines (h : ls ≠ []) (keyword : String) {text : Option String}
    (ht : ∀ t ∈ text, Plain t) :
    writeClause? keyword text (.ofLines before ls) =
      .ofLines before (ls ++ clauseLine keyword text) := by
  cases text with
  | none => simp [writeClause?, clauseLine]
  | some t =>
    obtain ⟨hr, hn⟩ := ht t rfl
    simp [writeClause?, clauseLine, writeClause_ofLines h keyword hr hn]

def selectionLines (projection source : Fragments) (condition : Option String) : List String :=
  [projection.text, "FROM " ++ source.text] ++ clauseLine "WHERE" condition

def rowLines (r : Request) (source : Fragments) (condition : Option String)
    (page : Option Fragments) : List String :=
  selectionLines (rowProjection r.fields) source condition ++
    clauseLine "GROUP BY" ((grouping? r).map Fragments.text) ++
    clauseLine "ORDER BY" ((orderBy? r).map Fragments.text) ++
    (page.map Fragments.text).toList

def statement (ls : List String) : String := "\n".intercalate ls ++ ";\n\n"

def clauseMarks : List Char := ['[', ']', '(', ')', '.', ',', '*', '=', '\'', '$', ' ']

theorem plain_of_madeOf {t : String} (h : MadeOf clauseMarks t) : Plain t := by
  refine ⟨h.not_mem (by decide) (by decide), fun hn => ?_⟩
  exact h.not_mem (c := '\n') (by decide) (by decide) (List.mem_of_getLast? hn)

theorem madeOf_rowProjection (fields : List String) :
    MadeOf clauseMarks (rowProjection fields).text := by
  have ht : MadeOf clauseMarks (typeTag "Result").text := by decide
  rw [rowProjection, Fragments.text_append]
  refine ht.append ?_
  split
  · decide
  · refine madeOf_fragments (madeOf_commaSeparated (by decide) (by decide) ?_)
    simp only [List.mem_map, forall_exists_index, and_imp]
    rintro _ name - rfl f hf
    simp only [List.mem_cons, List.not_mem_nil, or_false] at hf
    obtain rfl | rfl | rfl := hf
    · decide
    · decide
    · exact (madeOf_identifier name).mono (by decide)

theorem madeOf_grouping {g : Fragments} (h : grouping? r = some g) : MadeOf clauseMarks g.text := by
  unfold grouping? at h
  split at h
  · simp at h
  · cases h
    refine madeOf_fragments (madeOf_commaSeparated (by decide) (by decide) ?_)
    simp only [List.mem_map, forall_exists_index, and_imp]
    rintro _ g - rfl f hf
    obtain rfl := List.mem_singleton.1 hf
    exact (madeOf_identifier g.column).mono (by decide)

theorem madeOf_sortFragments (item : SortItem) :
    ∀ f ∈ sortFragments item, MadeOf clauseMarks f.text := by
  obtain ⟨key, descending⟩ := item
  have hd : MadeOf clauseMarks (if descending then Fragment.desc else .asc).text := by
    cases descending <;> decide
  intro f hf
  simp only [sortFragments, List.mem_cons, List.not_mem_nil, or_false] at hf
  obtain rfl | rfl | rfl := hf
  · cases key with
    | column name => exact (madeOf_identifier name).mono (by decide)
    | expression text => exact madeOf_sanitize text
  · decide
  · exact hd

theorem madeOf_orderBy {o : Fragments} (h : orderBy? r = some o) : MadeOf clauseMarks o.text := by
  unfold orderBy? at h
  split at h
  · split at h
    · cases h
      decide
    · simp at h
  · cases h
    refine madeOf_fragments (madeOf_commaSeparated (by decide) (by decide) ?_)
    simp only [List.mem_map, forall_exists_index, and_imp]
    rintro _ item - rfl
    exact madeOf_sortFragments item

theorem madeOf_rowCount {name : String} {n : UInt64} {c : Int} (h : rowCount name n = .ok c) :
    MadeOf clauseMarks (Fragment.number c).text := by
  unfold rowCount at h
  split at h
  · rename_i m hm
    cases h
    rw [Fragment.text, toInt_of_signed? hm]
    exact fun _ hc => .inl (isWord_of_mem_toString hc)
  · simp at h

theorem madeOf_paging {options : Options} {p : Fragments} (h : paging options r = .ok p) :
    MadeOf clauseMarks p.text := by
  unfold paging at h
  cases hs : rowCount "skip" (r.skip.getD 0) with
  | error e => simp [hs, bind, Except.bind] at h
  | ok skip =>
    cases ht : rowCount "take" (r.take.getD options.defaultTake) with
    | error e => simp [hs, ht, bind, Except.bind] at h
    | ok take =>
      simp only [hs, ht, bind, Except.bind, pure, Except.pure, Except.ok.injEq] at h
      subst h
      apply madeOf_fragments
      simp only [List.forall_mem_cons, List.not_mem_nil, false_implies, implies_true, and_true,
        madeOf_rowCount hs, madeOf_rowCount ht, true_and]
      decide

theorem madeOf_page {options : Options} (h : paging? options r = .ok page) :
    ∀ p ∈ page, MadeOf clauseMarks p.text := by
  unfold paging? at h
  split at h
  · cases hp : paging options r with
    | error e =>
      rw [hp] at h
      cases h
    | ok p =>
      rw [hp] at h
      cases h
      intro q hq
      obtain rfl := Option.some.inj hq
      exact madeOf_paging hp
  · cases h
    simp

theorem madeOf_conditionText? {n : Nat} :
    ∀ t ∈ r.conditionText? n, MadeOf conditionMarks t := by
  intro t ht
  obtain ⟨f, -, rfl⟩ := Option.map_eq_some_iff.1 ht
  exact f.madeOf_conditionText 0 n

theorem plain_conditionText? {n : Nat} : ∀ t ∈ r.conditionText? n, Plain t := by
  intro t ht
  have hm := madeOf_conditionText? t ht
  obtain ⟨f, -, rfl⟩ := Option.map_eq_some_iff.1 ht
  exact ⟨hm.not_mem (by decide) (by decide), (f.endsOpen_conditionText 0 n).getLast?_ne⟩

theorem writeSelection_eq (projection source : Fragments) (hc : ∀ t ∈ condition, Plain t) :
    writeSelection projection source condition { text := before } =
      .ofLines before (selectionLines projection source condition) := by
  rw [writeSelection, startLine_ofText, startLine_ofLines (by simp),
    writeClause?_ofLines (by simp) _ hc]
  rfl

theorem writeCount_eq (source : Fragments) (hc : ∀ t ∈ condition, Plain t) :
    writeCount source condition { text := before } =
      { text := before ++ statement (selectionLines countProjection source condition) } := by
  rw [writeCount, writeSelection_eq _ _ hc, endStatement_ofLines]
  rfl

theorem writeRows_eq (source : Fragments) (hc : ∀ t ∈ condition, Plain t) :
    writeRows r source condition page { text := before } =
      { text := before ++ statement (rowLines r source condition page) } := by
  have hg : ∀ t ∈ (grouping? r).map Fragments.text, Plain t := by
    intro t ht
    obtain ⟨g, hg, rfl⟩ := Option.map_eq_some_iff.1 ht
    exact plain_of_madeOf (madeOf_grouping hg)
  have ho : ∀ t ∈ (orderBy? r).map Fragments.text, Plain t := by
    intro t ht
    obtain ⟨o, ho, rfl⟩ := Option.map_eq_some_iff.1 ht
    exact plain_of_madeOf (madeOf_orderBy ho)
  unfold writeRows
  rw [writeSelection_eq _ _ hc]
  dsimp only
  rw [writeClause?_ofLines (by simp [selectionLines]) _ hg,
    writeClause?_ofLines (by simp [selectionLines]) _ ho]
  cases page with
  | none => simp [endStatement_ofLines, rowLines, statement]
  | some p => simp [startLine_ofLines, selectionLines, endStatement_ofLines, rowLines, statement]

/-- The text of a batch: the statement for the rows, and behind it the one that counts them. -/
theorem text_script (source : Fragments) (hc : ∀ t ∈ condition, Plain t) :
    (script r source condition page).text = statement (rowLines r source condition page) ++
      if r.showTotal then statement (selectionLines countProjection source condition) else "" := by
  rw [script, show ({} : Script) = { text := "" } from rfl, writeRows_eq source hc]
  cases r.showTotal <;> simp [writeCount_eq source hc]

end Batch
end GridQuery
