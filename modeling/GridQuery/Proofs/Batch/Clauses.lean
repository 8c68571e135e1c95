import GridQuery.Proofs.Batch.SlotLines
import Mathlib.Algebra.Group.Nat.Defs

/-! # The clauses of a statement

The statement for the rows has a clause for each part of its request, in a fixed order and each on
a line of its own. A page always stands behind a sort order. A request is refused for its filter
first, then for the start of its page, then for the size of it. -/

namespace GridQuery

structure Clauses where
  projection : String
  source : String
  condition : Option String := none
  grouping : Option String := none
  order : Option String := none
  /-- The rows to skip and the rows to take. -/
  page : Option (Nat × Nat) := none

namespace Clauses

def clauseText (keyword : String) (clause : Option String) : String :=
  clause.elim "" ("\n" ++ keyword ++ " " ++ ·)

def pageText (page : Nat × Nat) : String :=
  toString page.1 ++ " ROWS FETCH NEXT " ++ toString page.2 ++ " ROWS ONLY"

def text (c : Clauses) : String :=
  "SELECT " ++ c.projection ++ "\nFROM " ++ c.source ++ clauseText "WHERE" c.condition ++
    clauseText "GROUP BY" c.grouping ++ clauseText "ORDER BY" c.order ++
    clauseText "OFFSET" (c.page.map pageText) ++ ";\n\n"

end Clauses

def SortItem.text (item : SortItem) : String :=
  (match item.key with
    | .column name => identifier name
    | .expression text => sanitize text) ++
  if item.descending then " DESC" else " ASC"

def largestCount : Nat := 2 ^ 63 - 1

namespace Request
variable (r : Request) (options : Options)

/-- The condition is what the filter of the request gives by itself, and the bindings after it are
those that the filter leaves. -/
def IsCondition (bindings after : Bindings) : Option String → Prop
  | none => r.filter = none ∧ after = bindings
  | some text => ∃ f, r.filter = some f ∧ f.condition bindings = (.ok text, after)

def page? : Option (Nat × Nat) :=
  if r.loadAll = false ∧ (r.skip ≠ none ∨ r.take ≠ none) then
    some ((r.skip.getD 0).toNat, (r.take.getD options.defaultTake).toNat)
  else none

def Counted : Prop := ∀ page ∈ r.page? options, page.1 ≤ largestCount ∧ page.2 ≤ largestCount

/-- The page has a number that is too large. The start of the page is looked at first. -/
def Uncounted (e : QueryError) : Prop :=
  ∃ page ∈ r.page? options,
    largestCount < page.1 ∧ e = .request (.outOfRange "skip" page.1) ∨
      page.1 ≤ largestCount ∧ largestCount < page.2 ∧ e = .request (.outOfRange "take" page.2)

def clauses (source : String) (condition : Option String) : Clauses where
  projection := "[$Type] = 'Result', " ++
    if r.fields = [] then "RESULTS.*"
    else ", ".intercalate (r.fields.map fun f => "RESULTS." ++ identifier f)
  source := source
  condition := condition
  grouping :=
    if r.grouping = [] then none
    else some (", ".intercalate (r.grouping.map fun g => identifier g.column))
  order :=
    if r.sort = [] ∧ r.skip = none ∧ r.take = none then none
    else some (if r.sort = [] then "1 ASC" else ", ".intercalate (r.sort.map SortItem.text))
  page := r.page? options

end Request

def totalClauses (source : String) (condition : Option String) : Clauses where
  projection := "[$Type] = '$Root', [TotalRecords] = COUNT(*)"
  source := source
  condition := condition

namespace Batch
variable {r : Request} {options : Options} {target : Target} {bindings after : Bindings}
  {condition : Option String} {page : Option Fragments} {ls : List String}

theorem isCondition_iff :
    r.IsCondition bindings after condition ↔ conditionOf r bindings = .ok (condition, after) := by
  unfold conditionOf
  cases hf : r.filter with
  | none => cases condition <;> simp [Request.IsCondition, hf, eq_comm]
  | some f =>
    rcases hc : f.condition bindings with ⟨_ | text, b⟩ <;>
      cases condition <;> simp [Request.IsCondition, hf, hc]

theorem conditionOf_eq_error_iff {e : QueryError} :
    conditionOf r bindings = .error e ↔ ∃ f cause after,
      r.filter = some f ∧ f.condition bindings = (.error cause, after) ∧ e = .filter cause := by
  unfold conditionOf
  cases hf : r.filter with
  | none => simp
  | some f =>
    rcases hc : f.condition bindings with ⟨cause | text, b⟩ <;> simp [hc, eq_comm]

theorem rowCount_of_le {name : String} {n : UInt64} (h : n.toNat ≤ largestCount) :
    rowCount name n = .ok (n.toNat : Int) := by
  unfold rowCount signed?
  unfold largestCount at h
  rw [Int64.toInt_minValue, Int64.toInt_maxValue, if_pos ⟨by omega, by omega⟩]
  exact congrArg Except.ok (Int64.toInt_ofInt_of_le (by omega) (by omega))

theorem rowCount_of_lt {name : String} {n : UInt64} (h : largestCount < n.toNat) :
    rowCount name n = .error (.request (.outOfRange name n.toNat)) := by
  unfold rowCount signed?
  unfold largestCount at h
  rw [Int64.toInt_minValue, Int64.toInt_maxValue, if_neg (by omega)]

theorem intercalate_clauseLine (h : ls ≠ []) (keyword : String) (clause : Option String) :
    "\n".intercalate (ls ++ clauseLine keyword clause) =
      "\n".intercalate ls ++ Clauses.clauseText keyword clause := by
  cases clause with
  | none => simp [clauseLine, Clauses.clauseText]
  | some t =>
    simp [clauseLine, Clauses.clauseText, String.intercalate_append_of_ne_nil h,
      String.append_assoc]

theorem text_rowProjection (r : Request) (options : Options) (source : String)
    (condition : Option String) :
    (rowProjection r.fields).text =
      "SELECT " ++ (r.clauses options source condition).projection := by
  have ht : (typeTag "Result").text = "SELECT " ++ "[$Type] = 'Result', " := by decide
  have hc (name : String) : Fragments.text [.raw rowsAlias, .dot, .name name] =
      "RESULTS." ++ identifier name := by
    simp [Fragment.text, rowsAlias, ← String.append_assoc]
  have hf : Fragments.text (if r.fields.isEmpty then [.raw rowsAlias, .dot, .star]
      else Fragments.commaSeparated (r.fields.map fun f => [.raw rowsAlias, .dot, .name f])) =
      if r.fields = [] then "RESULTS.*"
      else ", ".intercalate (r.fields.map fun f => "RESULTS." ++ identifier f) := by
    cases r.fields with
    | nil => rfl
    | cons f fields => simp [text_commaSeparated, hc, Function.comp_def]
  rw [rowProjection, Fragments.text_append, ht, hf]
  exact String.append_assoc

theorem text_grouping? (r : Request) (options : Options) (source : String)
    (condition : Option String) :
    (grouping? r).map Fragments.text = (r.clauses options source condition).grouping := by
  unfold grouping? Request.clauses
  cases r.grouping <;> simp [text_commaSeparated, Function.comp_def, Fragment.text]

theorem text_sortFragments (item : SortItem) :
    Fragments.text (sortFragments item) = item.text := by
  obtain ⟨_ | _, _ | _⟩ := item <;> simp [sortFragments, SortItem.text, Fragment.text]

theorem text_orderBy? (r : Request) (options : Options) (source : String)
    (condition : Option String) :
    (orderBy? r).map Fragments.text = (r.clauses options source condition).order := by
  unfold orderBy? Request.clauses
  cases r.sort with
  | nil =>
    have h1 : Fragments.text [.number 1, .space, .asc] = "1 ASC" := by decide
    cases r.skip <;> cases r.take <;> simp [h1]
  | cons item rest =>
    simp [text_commaSeparated, text_sortFragments, Function.comp_def]

def pageFragments (page : Nat × Nat) : Fragments :=
  [.offset, .space, .number page.1, .space, .rows, .space, .fetch, .space, .next, .space,
    .number page.2, .space, .rows, .space, .only]

theorem text_pageFragments (page : Nat × Nat) :
    (pageFragments page).text = "OFFSET " ++ Clauses.pageText page := by
  have hn (n : Nat) : toString (n : Int) = toString n := rfl
  simp [pageFragments, Fragment.text, Clauses.pageText, hn, ← String.append_assoc]

theorem paging?_of_isPaged (options : Options) (h : r.isPaged = true) :
    r.page? options = some ((r.skip.getD 0).toNat, (r.take.getD options.defaultTake).toNat) ∧
      paging? options r = (paging options r).map some := by
  refine ⟨if_pos ?_, if_pos h⟩
  simpa [Request.isPaged, Option.isSome_iff_ne_none] using h

theorem paging?_of_not_isPaged (options : Options) (h : r.isPaged = false) :
    r.page? options = none ∧ paging? options r = .ok none := by
  refine ⟨if_neg ?_, if_neg (by simp [h])⟩
  simpa [Request.isPaged, Option.isSome_iff_ne_none] using h

theorem paging?_of_counted (h : r.Counted options) :
    paging? options r = .ok ((r.page? options).map pageFragments) := by
  cases hp : r.isPaged with
  | false =>
    obtain ⟨hn, hr⟩ := paging?_of_not_isPaged options hp
    rw [hn, hr]
    rfl
  | true =>
    obtain ⟨hs, hr⟩ := paging?_of_isPaged options hp
    obtain ⟨hskip, htake⟩ := h _ hs
    rw [hs, hr, paging, rowCount_of_le hskip, rowCount_of_le htake]
    rfl

theorem paging?_of_uncounted {e : QueryError} (h : r.Uncounted options e) :
    paging? options r = .error e := by
  obtain ⟨page, hpage, h⟩ := h
  cases hp : r.isPaged with
  | false =>
    obtain ⟨hn, -⟩ := paging?_of_not_isPaged options hp
    cases hn.symm.trans hpage
  | true =>
    obtain ⟨hs, hr⟩ := paging?_of_isPaged options hp
    cases hs.symm.trans hpage
    rw [hr, paging]
    obtain ⟨hskip, rfl⟩ | ⟨hskip, htake, rfl⟩ := h
    · rw [rowCount_of_lt hskip]
      rfl
    · rw [rowCount_of_le hskip, rowCount_of_lt htake]
      rfl

theorem counted_or_uncounted (options : Options) (r : Request) :
    r.Counted options ∨ ∃ e, r.Uncounted options e := by
  unfold Request.Counted Request.Uncounted
  cases r.page? options with
  | none => exact .inl nofun
  | some page =>
    simp only [Option.mem_some_iff, forall_eq', exists_eq_left']
    by_cases hs : page.1 ≤ largestCount
    · by_cases ht : page.2 ≤ largestCount
      · exact .inl ⟨hs, ht⟩
      · exact .inr ⟨_, .inr ⟨hs, by omega, rfl⟩⟩
    · exact .inr ⟨_, .inl ⟨by omega, rfl⟩⟩

theorem paging?_eq_ok_iff :
    paging? options r = .ok page ↔
      r.Counted options ∧ page = (r.page? options).map pageFragments := by
  constructor
  · intro h
    obtain hc | ⟨e, hu⟩ := counted_or_uncounted options r
    · exact ⟨hc, Except.ok.inj (h.symm.trans (paging?_of_counted hc))⟩
    · cases h.symm.trans (paging?_of_uncounted hu)
  · rintro ⟨hc, rfl⟩
    exact paging?_of_counted hc

theorem paging?_eq_error_iff {e : QueryError} :
    paging? options r = .error e ↔ r.Uncounted options e := by
  refine ⟨fun h => ?_, paging?_of_uncounted⟩
  obtain hc | ⟨e', hu⟩ := counted_or_uncounted options r
  · cases h.symm.trans (paging?_of_counted hc)
  · cases h.symm.trans (paging?_of_uncounted hu)
    exact hu

theorem intercalate_selectionLines (projection source : Fragments) :
    "\n".intercalate (selectionLines projection source condition) =
      projection.text ++ "\nFROM " ++ source.text ++ Clauses.clauseText "WHERE" condition := by
  have hf (t : String) : "\n" ++ ("FROM " ++ t) = "\nFROM " ++ t := by
    rw [← String.append_assoc]
    rfl
  rw [selectionLines, intercalate_clauseLine (by simp)]
  simp [String.append_assoc, hf]

theorem statement_rowLines (source : Fragments) :
    statement (rowLines r source condition ((r.page? options).map pageFragments)) =
      (r.clauses options source.text condition).text := by
  have hs : selectionLines (rowProjection r.fields) source condition ≠ [] := by
    simp [selectionLines]
  have hp : (((r.page? options).map pageFragments).map Fragments.text).toList =
      clauseLine "OFFSET" ((r.page? options).map Clauses.pageText) := by
    simp [clauseLine, Function.comp_def, text_pageFragments]
  rw [statement, rowLines, hp, intercalate_clauseLine (by simp [hs]),
    intercalate_clauseLine (by simp [hs]), intercalate_clauseLine hs, intercalate_selectionLines]
  rw [text_rowProjection r options source.text condition,
    text_grouping? r options source.text condition, text_orderBy? r options source.text condition]
  rfl

theorem text_totalClauses (source : String) (condition : Option String) :
    (totalClauses source condition).text =
      "SELECT " ++ "[$Type] = '$Root', [TotalRecords] = COUNT(*)" ++ "\nFROM " ++ source ++
        Clauses.clauseText "WHERE" condition ++ ";\n\n" := by
  have ht : (totalClauses source condition).text =
      "SELECT " ++ "[$Type] = '$Root', [TotalRecords] = COUNT(*)" ++ "\nFROM " ++ source ++
        Clauses.clauseText "WHERE" condition ++ "" ++ "" ++ "" ++ ";\n\n" := rfl
  simpa only [String.append_empty] using ht

theorem statement_totalLines (source : Fragments) :
    statement (selectionLines countProjection source condition) =
      (totalClauses source.text condition).text := by
  have hc : countProjection.text =
      "SELECT " ++ "[$Type] = '$Root', [TotalRecords] = COUNT(*)" := by decide
  rw [statement, intercalate_selectionLines, hc, text_totalClauses]

theorem isCondition_iff_conditionText? :
    r.IsCondition bindings after condition ↔ (∀ f ∈ r.filter, f.failure? = none) ∧
      condition = r.conditionText? bindings.size ∧
        after = ⟨bindings.values ++ r.boundLiterals⟩ :=
  isCondition_iff.trans conditionOf_eq_ok_iff

theorem compile_eq_ok_iff_clauses {b : Batch} :
    compile options r target bindings = .ok b ↔ r.Counted options ∧
      ∃ condition, r.IsCondition bindings b.bindings condition ∧
        b.sql = (r.clauses options target.source.text condition).text ++
          if r.showTotal then (totalClauses target.source.text condition).text else "" := by
  have hs : (script r target.source (r.conditionText? bindings.size)
      ((r.page? options).map pageFragments)).text =
        (r.clauses options target.source.text (r.conditionText? bindings.size)).text ++
          if r.showTotal then
            (totalClauses target.source.text (r.conditionText? bindings.size)).text
          else "" := by
    rw [text_script _ plain_conditionText?, statement_rowLines, statement_totalLines]
  rw [compile_eq_ok_iff]
  constructor
  · rintro ⟨hf, page, hp, rfl⟩
    obtain ⟨hc, rfl⟩ := paging?_eq_ok_iff.1 hp
    exact ⟨hc, _, isCondition_iff_conditionText?.2 ⟨hf, rfl, rfl⟩, hs⟩
  · rintro ⟨hc, condition, hi, hb⟩
    obtain ⟨hf, rfl, ha⟩ := isCondition_iff_conditionText?.1 hi
    refine ⟨hf, _, paging?_of_counted hc, ?_⟩
    rw [hs, ← hb, ← ha]

theorem compile_eq_error_iff {e : QueryError} :
    compile options r target bindings = .error e ↔
      conditionOf r bindings = .error e ∨
        (∃ condition after, conditionOf r bindings = .ok (condition, after)) ∧
          r.Uncounted options e := by
  rw [← paging?_eq_error_iff]
  unfold compile
  cases conditionOf r bindings with
  | error cause => simp [bind, Except.bind]
  | ok result =>
    obtain ⟨condition, after⟩ := result
    cases paging? options r <;> simp [bind, Except.bind, pure, Except.pure]

theorem text_of_page {c : Clauses} {order : String} {page : Nat × Nat}
    (ho : c.order = some order) (hp : c.page = some page) :
    c.text = "SELECT " ++ c.projection ++ "\nFROM " ++ c.source ++
      Clauses.clauseText "WHERE" c.condition ++ Clauses.clauseText "GROUP BY" c.grouping ++
        Clauses.clauseText "ORDER BY" (some order) ++
          Clauses.clauseText "OFFSET" (some (Clauses.pageText page)) ++ ";\n\n" := by
  obtain ⟨projection, source, condition, grouping, order', page'⟩ := c
  cases ho
  cases hp
  rfl

theorem exists_order {page : Nat × Nat} (h : page ∈ r.page? options) (source : String)
    (condition : Option String) :
    ∃ order, (r.clauses options source condition).order = some order ∧ '\n' ∉ order.toList := by
  have hp : r.skip ≠ none ∨ r.take ≠ none := by
    unfold Request.page? at h
    split at h
    · rename_i hp
      exact hp.2
    · cases h
  have ho : orderBy? r ≠ none := by
    unfold orderBy?
    cases hs : r.skip <;> cases ht : r.take <;> cases hl : r.sort <;> simp_all
  obtain ⟨o, ho⟩ := Option.ne_none_iff_exists'.1 ho
  refine ⟨o.text, ?_, (madeOf_orderBy ho).not_mem (by decide) (by decide)⟩
  rw [← text_orderBy? r options source condition, ho]
  rfl

/-- What a batch is, and when there is none. A batch is the statement with the clauses of its
request, where a page stands behind a sort order, and the statement for the number of its rows.
There is none if the filter fails, or else if the page cannot be counted. -/
theorem compile_clauses (options : Options) (r : Request) (target : Target)
    (bindings : Bindings) :
    (∀ b, compile options r target bindings = .ok b ↔ r.Counted options ∧
      ∃ condition, r.IsCondition bindings b.bindings condition ∧
        b.sql = (r.clauses options target.source.text condition).text ++
          if r.showTotal then (totalClauses target.source.text condition).text else "") ∧
    (∀ e, compile options r target bindings = .error e ↔
      (∃ f cause after, r.filter = some f ∧ f.condition bindings = (.error cause, after) ∧
        e = .filter cause) ∨
      (∃ condition after, r.IsCondition bindings after condition) ∧ r.Uncounted options e) ∧
    ∀ page ∈ r.page? options, ∀ condition, ∃ before order, '\n' ∉ order.toList ∧
      (r.clauses options target.source.text condition).text =
        before ++ Clauses.clauseText "ORDER BY" (some order) ++
          Clauses.clauseText "OFFSET" (some (Clauses.pageText page)) ++ ";\n\n" := by
  refine ⟨fun b => compile_eq_ok_iff_clauses, fun e => ?_, fun page hp condition => ?_⟩
  · simp only [compile_eq_error_iff, conditionOf_eq_error_iff, isCondition_iff]
  · obtain ⟨order, ho, hl⟩ := exists_order hp target.source.text condition
    exact ⟨_, order, hl, text_of_page ho hp⟩

example : (Request.clauses ((({} : Request).groupBy "Region").skipping 10) {}
      "[dbo].[Orders] RESULTS" (some "[Total] > @0")).text =
    "SELECT [$Type] = 'Result', RESULTS.*\nFROM [dbo].[Orders] RESULTS\nWHERE [Total] > @0\n" ++
      "GROUP BY [Region]\nORDER BY 1 ASC\nOFFSET 10 ROWS FETCH NEXT 200 ROWS ONLY;\n\n" := by
  decide +kernel

end Batch
end GridQuery
