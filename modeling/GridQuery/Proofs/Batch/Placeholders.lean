import GridQuery.Proofs.Arguments
import GridQuery.Proofs.Batch.Lines
import GridQuery.Proofs.Placeholder

/-! # The placeholders of a batch

Arguments, condition and statements count their placeholders independently of each other. Read
from left to right the first statement of a batch has exactly the placeholders of its bindings,
each once and in order, and no later statement has another one. -/

namespace GridQuery
open Text

/-- The placeholders with some numbers in a row. -/
def placeholders (first count : Nat) : List String := (List.range' first count).map placeholder

@[simp] theorem placeholders_zero (n : Nat) : placeholders n 0 = [] := rfl

@[simp] theorem placeholders_one (n : Nat) : placeholders n 1 = [placeholder n] := rfl

theorem placeholders_add (n k m : Nat) :
    placeholders n (k + m) = placeholders n k ++ placeholders (n + k) m := by
  unfold placeholders
  rw [← List.map_append, List.range'_append_1]

namespace Filter
open Binding

theorem placeholdersIn_enclose {t : Nat → String} {ps : List String}
    (h : ∀ d, placeholdersIn (t d).toList = ps) (grouped : Bool) (d : Nat) :
    placeholdersIn (enclose grouped t d).toList = ps := by
  cases grouped
  · exact h d
  · simp only [enclose, if_true, String.toList_append]
    rw [placeholdersIn_append (t := ")".toList) (by simp; decide),
      placeholdersIn_append_of_not_mem (by decide), h]
    simp [placeholdersIn]

theorem not_mem_operatorText (op : Comparison) (right : Filter) :
    '@' ∉ (operatorText op right).toList := by
  cases hr : right.isNull <;> cases op <;> simp only [operatorText, hr] <;> decide

theorem placeholdersIn_conditionText (f : Filter) (d n : Nat) :
    placeholdersIn (f.conditionText d n).toList = placeholders n f.literalCount := by
  induction f generalizing d n with
  | column name =>
    rw [conditionText, placeholdersIn_of_madeOf (madeOf_identifier name) (by decide)]
    rfl
  | literal v =>
    cases hv : v.isNull
    · simp [conditionText, literalCount, hv]
    · simpa [conditionText, literalCount, hv] using (by decide : placeholdersIn "NULL".toList = [])
  | compare left op right ihl ihr =>
    have hop := not_mem_operatorText op right
    simp only [conditionText, literalCount, placeholders_add, String.toList_append]
    rw [placeholdersIn_append (by simp; decide), placeholdersIn_append_of_not_mem (by simp [hop]),
      placeholdersIn_enclose (ihl · n), placeholdersIn_enclose (ihr · _)]
  | combine left op right ihl ihr =>
    have hop : '@' ∉ op.sqlKeyword.toList := by cases op <;> decide
    simp only [conditionText, literalCount, placeholders_add, String.toList_append]
    rw [placeholdersIn_append (by simp; decide),
      placeholdersIn_append_of_not_mem (by simp [hop, Script.indentation]),
      placeholdersIn_enclose (ihl · n), placeholdersIn_enclose (ihr · _)]
  | not inner ih =>
    simp only [conditionText, literalCount, String.toList_append]
    rw [placeholdersIn_append (t := ")".toList) (by simp; decide),
      placeholdersIn_append_of_not_mem (by decide), ih]
    simp [placeholdersIn]

end Filter

theorem placeholdersIn_commaSeparated (items : List Fragments) :
    placeholdersIn (Fragments.commaSeparated items).text.toList =
      items.flatMap fun item => placeholdersIn item.text.toList := by
  fun_induction Fragments.commaSeparated items with
  | case1 => rfl
  | case2 item => simp
  | case3 item rest _ ih =>
    simp only [Fragments.text_append, Fragments.text_cons, Fragments.text_nil, Fragment.text,
      String.toList_append, List.append_assoc, List.flatMap_cons]
    rw [placeholdersIn_append (by simp; decide), placeholdersIn_append_of_not_mem (by decide),
      placeholdersIn_append_of_not_mem (by decide), String.toList_empty, List.nil_append, ih]

theorem placeholdersIn_numberedArguments (hasValue : String → Bool) (n : Nat)
    (parameters : List String) :
    ((numberedArguments hasValue n parameters).flatMap fun a =>
      placeholdersIn a.fragment.text.toList) =
        placeholders n (parameters.countP hasValue) := by
  induction parameters generalizing n with
  | nil => rfl
  | cons p rest ih =>
    cases hp : hasValue p
    · have hd : placeholdersIn Argument.default.fragment.text.toList = [] := by decide
      simp [numberedArguments, hp, ih, hd]
    · have hd : (Argument.placeholder (placeholder n)).fragment.text = placeholder n := rfl
      simp [numberedArguments, hp, ih, hd, Nat.add_comm _ 1, placeholders_add]

def sourceMarks : List Char := ['[', ']', '.', '(', ')', ',', ' ', '@']

theorem madeOf_numberedArguments {hasValue : String → Bool} {n : Nat} {parameters : List String} :
    ∀ a ∈ numberedArguments hasValue n parameters, MadeOf sourceMarks a.fragment.text := by
  induction parameters generalizing n with
  | nil => simp [numberedArguments]
  | cons p rest ih =>
    cases hp : hasValue p
    · have hd : MadeOf sourceMarks Argument.default.fragment.text := by decide
      simpa [numberedArguments, hp, hd] using ih
    · have hd : MadeOf sourceMarks (Argument.placeholder (placeholder n)).fragment.text :=
        (madeOf_placeholder n).mono (by decide)
      simpa [numberedArguments, hp, hd] using ih

/-- The values that a query of the object takes from those for parameters. -/
def ObjectInfo.argumentValues (info : ObjectInfo) (values : Assoc String Literal) :
    List Literal :=
  match info.kind with
  | .view => []
  | .function => parameterValues values info.parameters

namespace Batch
variable {describe : Describe} {object : String} {r : Request} {options : Options} {b : Batch}
  {ls : List String}

def argumentFragments (arguments : List Argument) : Fragments :=
  Fragments.commaSeparated (arguments.map fun a => [a.fragment])

def callText (arguments : List Argument) : String :=
  "(" ++ (argumentFragments arguments).text ++ ")"

def callArguments (info : ObjectInfo) (values : Assoc String Literal) : List Argument :=
  numberedArguments (fun p => (valueFor? values p).isSome) 0 info.parameters

theorem text_source_targetOf (name : ObjectName) (info : ObjectInfo) (r : Request) :
    (targetOf name info r).1.source.text = qualified name.schema name.name ++
      ((match info.kind with
        | .view => ""
        | .function => callText (callArguments info r.userData)) ++ " RESULTS") := by
  cases hk : info.kind <;>
    simp [targetOf, hk, Target.source, callText, argumentFragments, callArguments, Fragment.text,
      resolveArguments_eq, Bindings.size, rowsAlias, String.append_assoc]

theorem values_targetOf (name : ObjectName) (info : ObjectInfo) (r : Request) :
    (targetOf name info r).2.values = info.argumentValues r.userData := by
  cases hk : info.kind <;> simp [targetOf, ObjectInfo.argumentValues, hk, resolveArguments_eq]

theorem madeOf_source (name : ObjectName) (info : ObjectInfo) (r : Request) :
    MadeOf sourceMarks (targetOf name info r).1.source.text := by
  rw [text_source_targetOf]
  refine ((madeOf_qualified _ _).mono (by decide)).append (.append ?_ (by decide))
  cases info.kind
  · exact (by decide : MadeOf sourceMarks "")
  · have ha : MadeOf sourceMarks (argumentFragments (callArguments info r.userData)).text :=
      madeOf_fragments (madeOf_commaSeparated (by decide) (by decide)
        (by simpa [callArguments] using madeOf_numberedArguments))
    exact ((by decide : MadeOf sourceMarks "(").append ha).append (by decide)

theorem placeholdersIn_callText (info : ObjectInfo) (values : Assoc String Literal) :
    placeholdersIn (callText (callArguments info values)).toList =
      placeholders 0 (parameterValues values info.parameters).length := by
  have ha : placeholdersIn (argumentFragments (callArguments info values)).text.toList =
      placeholders 0 (parameterValues values info.parameters).length := by
    rw [argumentFragments, placeholdersIn_commaSeparated, length_parameterValues,
      ← placeholdersIn_numberedArguments, callArguments]
    simp [List.flatMap_map]
  rw [callText, String.toList_append, String.toList_append,
    placeholdersIn_append (t := ")".toList) (by simp; decide),
    placeholdersIn_append_of_not_mem (by decide), ha]
  simp [placeholdersIn]

theorem placeholdersIn_source (name : ObjectName) (info : ObjectInfo) (r : Request) :
    placeholdersIn (targetOf name info r).1.source.text.toList =
      placeholders 0 (targetOf name info r).2.size := by
  have hq : '@' ∉ (qualified name.schema name.name).toList :=
    (madeOf_qualified _ _).not_mem (by decide) (by decide)
  have hr : placeholdersIn " RESULTS".toList = [] := by decide
  rw [text_source_targetOf, Bindings.size, values_targetOf, ObjectInfo.argumentValues,
    String.toList_append, placeholdersIn_append_of_not_mem hq, String.toList_append,
    placeholdersIn_append (t := " RESULTS".toList) (by simp; decide), hr, List.append_nil]
  cases info.kind
  · rfl
  · exact placeholdersIn_callText info r.userData

theorem placeholdersIn_lines (ls : List String) :
    placeholdersIn ("\n".intercalate ls).toList = ls.flatMap fun l => placeholdersIn l.toList := by
  induction ls with
  | nil => rfl
  | cons l ls ih =>
    cases ls with
    | nil => simp
    | cons l' ls =>
      rw [String.intercalate_cons_cons, String.append_assoc, String.toList_append,
        String.toList_append, placeholdersIn_append (by simp; decide),
        placeholdersIn_append_of_not_mem (by decide), ih]
      rfl

theorem placeholdersIn_statement (ls : List String) :
    placeholdersIn (statement ls).toList = ls.flatMap fun l => placeholdersIn l.toList := by
  rw [statement, String.toList_append, placeholdersIn_append (by simp; decide),
    placeholdersIn_lines, placeholdersIn_of_not_mem (s := ";\n\n".toList) (by decide),
    List.append_nil]

theorem placeholdersIn_clauseLine {keyword : String} {text : Option String}
    (hk : '@' ∉ keyword.toList) :
    (clauseLine keyword text).flatMap (fun l => placeholdersIn l.toList) =
      text.elim [] (placeholdersIn ·.toList) := by
  cases text with
  | none => rfl
  | some t =>
    simp only [clauseLine, Option.map_some, Option.toList_some, List.flatMap_singleton,
      String.toList_append, Option.elim]
    rw [List.append_assoc, placeholdersIn_append_of_not_mem hk,
      placeholdersIn_append_of_not_mem (by decide)]

theorem placeholdersIn_conditionText? (r : Request) (n : Nat) :
    (r.conditionText? n).elim [] (placeholdersIn ·.toList) = placeholders n r.literalCount := by
  unfold Request.conditionText? Request.literalCount
  cases r.filter with
  | none => rfl
  | some f => exact f.placeholdersIn_conditionText 0 n

theorem placeholdersIn_selectionLines {projection source : Fragments} {condition : Option String}
    (hp : '@' ∉ projection.text.toList) :
    (selectionLines projection source condition).flatMap (fun l => placeholdersIn l.toList) =
      placeholdersIn source.text.toList ++ condition.elim [] (placeholdersIn ·.toList) := by
  rw [selectionLines, List.flatMap_append, placeholdersIn_clauseLine (by decide)]
  congr 1
  rw [List.flatMap_cons, placeholdersIn_of_not_mem hp, List.flatMap_singleton,
    String.toList_append, placeholdersIn_append_of_not_mem (by decide), List.nil_append]

theorem placeholdersIn_rowLines {source : Fragments} {condition : Option String}
    {page : Option Fragments} (hp : ∀ p ∈ page, MadeOf clauseMarks p.text) :
    (rowLines r source condition page).flatMap (fun l => placeholdersIn l.toList) =
      placeholdersIn source.text.toList ++ condition.elim [] (placeholdersIn ·.toList) := by
  have none_of {o : Option Fragments} (ho : ∀ p ∈ o, MadeOf clauseMarks p.text) :
      (o.map Fragments.text).elim [] (placeholdersIn ·.toList) = [] := by
    cases o with
    | none => rfl
    | some p => exact placeholdersIn_of_madeOf (ho p rfl) (by decide)
  have hl : (page.map Fragments.text).toList.flatMap (fun l => placeholdersIn l.toList) = [] := by
    cases page with
    | none => rfl
    | some p => simpa using placeholdersIn_of_madeOf (hp p rfl) (by decide)
  rw [rowLines, List.flatMap_append, List.flatMap_append, List.flatMap_append,
    placeholdersIn_selectionLines ((madeOf_rowProjection _).not_mem (by decide) (by decide)),
    placeholdersIn_clauseLine (by decide), placeholdersIn_clauseLine (by decide),
    none_of fun _ => madeOf_grouping, none_of fun _ => madeOf_orderBy, hl]
  simp

def lineMarks : List Char := clauseMarks ++ conditionMarks

theorem madeOf_clauseLine {keyword : String} {text : Option String}
    (hk : MadeOf lineMarks keyword) (ht : ∀ t ∈ text, MadeOf lineMarks t) :
    ∀ l ∈ clauseLine keyword text, MadeOf lineMarks l := by
  intro l hl
  simp only [clauseLine, Option.mem_toList, Option.map_eq_some_iff] at hl
  obtain ⟨t, rfl, rfl⟩ := hl
  exact (hk.append (by decide)).append (ht t rfl)

theorem madeOf_rowLines {source : Fragments} {condition : Option String} {page : Option Fragments}
    (hs : MadeOf sourceMarks source.text) (hc : ∀ t ∈ condition, MadeOf conditionMarks t)
    (hp : ∀ p ∈ page, MadeOf clauseMarks p.text) :
    ∀ l ∈ rowLines r source condition page, MadeOf lineMarks l := by
  have widen {o : Option Fragments} (ho : ∀ p ∈ o, MadeOf clauseMarks p.text) :
      ∀ t ∈ o.map Fragments.text, MadeOf lineMarks t := by
    intro t ht
    obtain ⟨p, hp, rfl⟩ := Option.map_eq_some_iff.1 ht
    exact (ho p hp).mono (by decide)
  simp only [rowLines, selectionLines, List.forall_mem_append, List.forall_mem_cons]
  refine ⟨⟨⟨⟨⟨?_, ?_, by simp⟩, ?_⟩, ?_⟩, ?_⟩, ?_⟩
  · exact (madeOf_rowProjection _).mono (by decide)
  · exact (by decide : MadeOf lineMarks "FROM ").append (hs.mono (by decide))
  · exact madeOf_clauseLine (by decide) fun t ht => (hc t ht).mono (by decide)
  · exact madeOf_clauseLine (by decide) (widen fun _ => madeOf_grouping)
  · exact madeOf_clauseLine (by decide) (widen fun _ => madeOf_orderBy)
  · simpa using widen hp

def firstStatement (b : Batch) : List Char := b.sql.toList.takeWhile (· != ';')

/-- The text from the end of the first statement on. -/
def laterText (b : Batch) : List Char := b.sql.toList.dropWhile (· != ';')

theorem split_statement {bindings : Bindings} (h : ∀ l ∈ ls, MadeOf lineMarks l) (rest : String) :
    firstStatement ⟨statement ls ++ rest, bindings⟩ = ("\n".intercalate ls).toList ∧
      laterText ⟨statement ls ++ rest, bindings⟩ = ";\n\n".toList ++ rest.toList := by
  have hl : MadeOf lineMarks ("\n".intercalate ls) := madeOf_intercalate (by decide) h
  have hm : ∀ c ∈ ("\n".intercalate ls).toList, (c != ';') = true := by
    intro c hc
    have hn := hl.not_mem (c := ';') (by decide) (by decide)
    simpa using fun he : c = ';' => hn (he ▸ hc)
  simp only [firstStatement, laterText, statement, String.toList_append, List.append_assoc]
  rw [List.takeWhile_append_of_pos hm, List.dropWhile_append_of_pos hm]
  simp

section script
variable {source : Fragments} {page : Option Fragments} {n : Nat} (bindings : Bindings)

def written (r : Request) (source : Fragments) (page : Option Fragments) (n : Nat)
    (bindings : Bindings) : Batch :=
  ⟨(script r source (r.conditionText? n) page).text, bindings⟩

theorem split_written (hs : MadeOf sourceMarks source.text)
    (hp : ∀ p ∈ page, MadeOf clauseMarks p.text) :
    (written r source page n bindings).firstStatement =
        ("\n".intercalate (rowLines r source (r.conditionText? n) page)).toList ∧
      (written r source page n bindings).laterText = ";\n\n".toList ++
        (if r.showTotal then statement (selectionLines countProjection source (r.conditionText? n))
          else "").toList := by
  rw [written, text_script source plain_conditionText?]
  exact split_statement (madeOf_rowLines hs madeOf_conditionText? hp) _

theorem placeholdersIn_firstStatement (hs : MadeOf sourceMarks source.text)
    (hp : ∀ p ∈ page, MadeOf clauseMarks p.text) :
    placeholdersIn (written r source page n bindings).firstStatement =
      placeholdersIn source.text.toList ++ placeholders n r.literalCount := by
  rw [(split_written bindings hs hp).1, placeholdersIn_lines, placeholdersIn_rowLines hp,
    placeholdersIn_conditionText?]

theorem placeholdersIn_laterText (hs : MadeOf sourceMarks source.text)
    (hp : ∀ p ∈ page, MadeOf clauseMarks p.text) :
    placeholdersIn (written r source page n bindings).laterText ⊆
      placeholdersIn source.text.toList ++ placeholders n r.literalCount := by
  rw [(split_written bindings hs hp).2, placeholdersIn_append_of_not_mem (by decide)]
  split
  · rw [placeholdersIn_statement, placeholdersIn_selectionLines (by decide),
      placeholdersIn_conditionText?]
    exact List.Subset.refl _
  · simp [placeholdersIn]

end script

/-- Read from left to right the first statement has the placeholders of the bindings, all of
them, each once and in order, and what follows has no other one. They stand for the values of
the parameters, in the order of the parameters, and then for the literals of the filter. -/
theorem placeholders_ofRequest (h : ofRequest describe object r options = .ok b) :
    placeholdersIn b.firstStatement = (List.range b.bindings.size).map placeholder ∧
    b.bindings.entries.map Prod.fst = (List.range b.bindings.size).map placeholder ∧
    placeholdersIn b.laterText ⊆ placeholdersIn b.firstStatement ∧
    ∃ name info, ObjectName.parse? object options.defaultSchema = some name ∧
      describe name = .ok (some info) ∧
      b.bindings.size = (info.argumentValues r.userData ++ r.boundLiterals).length ∧
      ∀ i, b.bindings.get? (placeholder i) =
        (info.argumentValues r.userData ++ r.boundLiterals)[i]? := by
  obtain ⟨name, info, hn, hd, hc⟩ := ofRequest_eq_ok_iff.1 h
  obtain ⟨hf, page, hp, rfl⟩ := compile_eq_ok_iff.1 hc
  have hvalues := values_targetOf name info r
  have hread := placeholdersIn_source name info r
  set target := (targetOf name info r).1
  set bound := (targetOf name info r).2
  have hfirst := placeholdersIn_firstStatement (r := r) (n := bound.size)
    ⟨bound.values ++ r.boundLiterals⟩ (madeOf_source name info r) (madeOf_page hp)
  have hlater := placeholdersIn_laterText (r := r) (n := bound.size)
    ⟨bound.values ++ r.boundLiterals⟩ (madeOf_source name info r) (madeOf_page hp)
  have hall : placeholdersIn target.source.text.toList ++ placeholders bound.size r.literalCount =
      (List.range (bound.values ++ r.boundLiterals).length).map placeholder := by
    rw [hread, List.length_append, Request.length_boundLiterals hf, List.range_eq_range',
      ← placeholders, placeholders_add, Nat.zero_add, Bindings.size]
  refine ⟨hfirst.trans hall, Bindings.map_fst_entries _, ?_, name, info, hn, hd, ?_, fun i => ?_⟩
  · exact fun p hp' => hfirst ▸ hlater hp'
  · rw [Bindings.size, hvalues]
  · rw [Bindings.get?_placeholder, hvalues]

def peopleNamed (day name age : Literal) : Request :=
  ((({} : Request).withValue "@day" day).filterBy
    (((Filter.column "Na@me;").compare .contains (.literal name)).combine .or
      ((Filter.column "Age").compare .eq (.literal age)))).withTotal

theorem placeholders_ofRequest_peopleNamed :
    ∃ b, ofRequest (fun _ => .ok (some ⟨.function, ["Unit", "Day"]⟩)) "hr.People"
        (peopleNamed (.string "Monday") (.string "ann") (.int 30)) {} = .ok b ∧
      placeholdersIn b.firstStatement = ["@0", "@1", "@2"] ∧
      placeholdersIn b.laterText ⊆ ["@0", "@1", "@2"] ∧
      b.bindings.get? (placeholder 1) = some (.string "%ann%") := by
  obtain ⟨b, hb⟩ : ∃ b, ofRequest (fun _ => .ok (some ⟨.function, ["Unit", "Day"]⟩)) "hr.People"
      (peopleNamed (.string "Monday") (.string "ann") (.int 30)) {} = .ok b := ⟨_, rfl⟩
  obtain ⟨hf, -, hl, name, info, -, hd, hs, hv⟩ := placeholders_ofRequest hb
  obtain rfl := Option.some.inj (Except.ok.inj hd)
  have hp : placeholdersIn b.firstStatement = ["@0", "@1", "@2"] := by
    rw [hf, hs]
    decide
  exact ⟨b, hb, hp, hp ▸ hl, hv 1⟩

end Batch
end GridQuery
