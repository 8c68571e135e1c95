import GridQuery.Proofs.Batch.Slots
import GridQuery.Proofs.Result

/-! # The lines of a batch keep to their slots

Condition, row source, columns and page keep to their slots whatever comes behind them. The sort
items of a statement do so where their line ends. -/

namespace GridQuery
open Text

namespace Filter
open Binding

theorem keeps_indentation (d : Nat) : Keeps (Script.indentation d) := by
  refine keeps_of_madeOf ((madeOf_indentation d).mono (by decide)) ?_ ?_ <;>
    simp [Script.indentation]

theorem keeps_conditionText (f : Filter) (d n : Nat) : Keeps (f.conditionText d n) :=
  have hc : ∀ t ∈ conditionConstants, IsConstant t := by decide
  HoldsOfParts.conditionText
    { append := .append
      identifier := keeps_identifier
      placeholder := keeps_placeholder
      indentation := keeps_indentation
      constant := fun t ht => keeps_constant (hc t ht) } f d n

end Filter

namespace Batch
variable {r : Request} {options : Options} {ls : List String}

theorem keeps_numberedArguments {hasValue : String → Bool} {n : Nat} {parameters : List String} :
    ∀ a ∈ numberedArguments hasValue n parameters, Keeps a.fragment.text := by
  induction parameters generalizing n with
  | nil => simp [numberedArguments]
  | cons p rest ih =>
    cases hp : hasValue p
    · have hd : Keeps Argument.default.fragment.text := keeps_constant (by decide)
      simpa [numberedArguments, hp, hd] using ih
    · have hd : Keeps (Argument.placeholder (placeholder n)).fragment.text := keeps_placeholder n
      simpa [numberedArguments, hp, hd] using ih

theorem keeps_callText (info : ObjectInfo) (values : Assoc String Literal) :
    Keeps (callText (callArguments info values)) := by
  have ha : Keeps (argumentFragments (callArguments info values)).text :=
    keeps_fragments (keeps_commaSeparated
      (by simpa [callArguments] using keeps_numberedArguments))
  exact .append (.append (keeps_constant (by decide)) ha) (keeps_constant (by decide))

theorem keeps_source (name : ObjectName) (info : ObjectInfo) (r : Request) :
    Keeps (targetOf name info r).1.source.text := by
  have hq : Keeps (qualified name.schema name.name) :=
    .append (.append (keeps_identifier _) (keeps_constant (by decide))) (keeps_identifier _)
  rw [text_source_targetOf]
  refine hq.append (.append ?_ (keeps_constant (by decide)))
  cases info.kind
  · exact (keeps_constant (by decide) : Keeps "")
  · exact keeps_callText info r.userData

def rowColumns (fields : List String) : Fragments :=
  if fields.isEmpty then [.raw rowsAlias, .dot, .star]
  else Fragments.commaSeparated (fields.map fun f => [.raw rowsAlias, .dot, .name f])

theorem keeps_rowColumns (fields : List String) : Keeps (rowColumns fields).text := by
  unfold rowColumns
  split
  · exact keeps_constant (by decide)
  · refine keeps_fragments (keeps_commaSeparated ?_)
    simp only [List.forall_mem_map, List.forall_mem_cons]
    intro name _
    exact ⟨keeps_constant (by decide), keeps_constant (by decide), keeps_identifier name, by simp⟩

theorem keeps_grouping {g : Fragments} (h : grouping? r = some g) : Keeps g.text := by
  unfold grouping? at h
  split at h
  · cases h
  · cases h
    refine keeps_fragments (keeps_commaSeparated ?_)
    simp only [List.forall_mem_map, List.forall_mem_cons]
    intro g _
    exact ⟨keeps_identifier g.column, by simp⟩

theorem keeps_rowCount {name : String} {n : UInt64} {c : Int} (h : rowCount name n = .ok c) :
    Keeps (Fragment.number c).text := by
  unfold rowCount at h
  split at h
  · rename_i m hm
    cases h
    rw [Fragment.text, toInt_of_signed? hm]
    exact keeps_toString _
  · cases h

theorem keeps_paging {p : Fragments} (h : paging options r = .ok p) : Keeps p.text := by
  obtain ⟨skip, hs, h⟩ := bind_eq_ok_iff.1 h
  obtain ⟨take, ht, h⟩ := bind_eq_ok_iff.1 h
  cases h
  refine keeps_fragments ?_
  simp only [List.forall_mem_cons, List.not_mem_nil, false_implies, implies_true, and_true,
    keeps_rowCount hs, keeps_rowCount ht, true_and]
  refine ⟨?_, ?_, ?_, ?_, ?_, ?_, ?_, ?_, ?_, ?_, ?_, ?_, ?_⟩ <;>
    exact keeps_constant (by decide)

theorem keeps_page {page : Option Fragments} (h : paging? options r = .ok page) :
    ∀ p ∈ page, Keeps p.text := by
  unfold paging? at h
  split at h
  · obtain ⟨p, hp, rfl⟩ := map_eq_ok_iff.1 h
    intro q hq
    obtain rfl := Option.some.inj hq
    exact keeps_paging hp
  · cases h
    nofun

def directionText (descending : Bool) : String := if descending then " DESC" else " ASC"

theorem keeps_directionText (descending : Bool) : Keeps (directionText descending) := by
  cases descending <;> exact keeps_constant (by decide)

/-- A sort item that keeps to its slots. -/
structure IsSortText (t : String) : Prop where
  keeps : Keeps t
  item : IsSortItem t.toList

theorem isSortText_word {w : String} (hw : ∀ c ∈ w.toList, isWord c = true) (descending : Bool) :
    IsSortText (w ++ directionText descending) where
  keeps := by
    have hd := keeps_directionText descending
    refine ⟨.append (fun c hc => .inl (hw c hc)) hd.marks, fun rest _ => ?_⟩
    rw [String.toList_append]
    refine throughout_append.2 ⟨throughout_word hw ?_ ?_, hd.places rest trivial⟩
    · cases descending <;> simp [directionText] <;> decide
    · cases descending <;> simp [directionText]
  item := by
    refine ⟨w.toList, ⟨_, hw, .inl rfl⟩, ?_⟩
    cases descending <;> simp [directionText]

theorem isSortText_identifier (name : String) (descending : Bool) :
    IsSortText (identifier name ++ directionText descending) where
  keeps := .append (keeps_identifier name) (keeps_directionText descending)
  item := by
    refine ⟨(identifier name).toList,
      ⟨(sanitize name).toList, fun _ => isWord_of_mem_sanitize, .inr ?_⟩, ?_⟩
    · simp [identifier_eq]
    · cases descending <;> simp [directionText]

theorem isSortText_sortFragments (item : SortItem) :
    IsSortText (Fragments.text (sortFragments item)) := by
  obtain ⟨key, descending⟩ := item
  have hd : directionText descending = " " ++ (if descending then Fragment.desc else .asc).text := by
    cases descending <;> rfl
  cases key with
  | column name =>
    simpa [sortFragments, hd, Fragment.text] using isSortText_identifier name descending
  | expression text =>
    have hw : ∀ c ∈ (sanitize text).toList, isWord c = true := fun _ => isWord_of_mem_sanitize
    simpa [sortFragments, hd, Fragment.text] using isSortText_word hw descending

theorem text_commaSeparated (items : List Fragments) :
    (Fragments.commaSeparated items).text = ", ".intercalate (items.map Fragments.text) := by
  fun_induction Fragments.commaSeparated items with
  | case1 => rfl
  | case2 item => simp
  | case3 item rest hr ih =>
    obtain ⟨next, rest, rfl⟩ := List.exists_cons_of_ne_nil hr
    have hs : Fragments.text [.comma, .space] = ", " := by decide
    rw [Fragments.text_append, Fragments.text_append, hs, ih, List.map_cons, List.map_cons,
      List.map_cons, String.intercalate_cons_cons]

theorem exists_sortTexts {o : Fragments} (h : orderBy? r = some o) :
    ∃ items, items ≠ [] ∧ o.text = ", ".intercalate items ∧ ∀ t ∈ items, IsSortText t := by
  unfold orderBy? at h
  split at h
  · split at h
    · cases h
      exact ⟨["1" ++ directionText false], by simp, by decide, by
        simpa using isSortText_word (by decide) false⟩
    · cases h
  · rename_i hs
    cases h
    refine ⟨r.sort.map fun i => Fragments.text (sortFragments i), by simpa using hs, ?_, ?_⟩
    · rw [text_commaSeparated, List.map_map]
      rfl
    · simp [isSortText_sortFragments]

theorem keeps_intercalate {sep : String} {items : List String} (hs : Keeps sep)
    (h : ∀ t ∈ items, Keeps t) : Keeps (sep.intercalate items) :=
  intercalate_induction (keeps_constant (by decide)) (fun _ _ => .append) hs h

/-- The sort items of a statement are on a line of their own. -/
theorem keepsLine_orderBy {o : Fragments} (h : orderBy? r = some o) :
    KeepsLine ("ORDER BY" ++ " " ++ o.text) := by
  obtain ⟨items, hne, ho, hi⟩ := exists_sortTexts h
  have hk : Keeps (", ".intercalate items) :=
    keeps_intercalate (keeps_constant (by decide)) fun t ht => (hi t ht).keeps
  have hm : MadeOf bodyMarks ("ORDER BY" ++ " ") := by decide
  rw [ho]
  refine ⟨hm.append hk.marks, fun rest hr => ?_⟩
  have hs : SortsLine ((", ".intercalate items).toList ++ rest) := by
    refine ⟨items.map String.toList, rest, by simpa using hne, ?_, ?_, hr⟩
    · simpa using fun t ht => (hi t ht).item
    · rw [String.toList_intercalate]
  have hb : ("ORDER BY" ++ " ").toList = 'O' :: "RDER BY ".toList := by decide
  rw [String.toList_append, hb]
  refine ⟨?_, throughout_append.2 ⟨throughout_of_settled (by decide), hk.places rest trivial⟩⟩
  simpa [toList_orderBy] using inSlot_sorts hs

theorem keeps_clauseLine {keyword : String} {text : Option String} (hk : Keeps (keyword ++ " "))
    (ht : ∀ t ∈ text, Keeps t) : ∀ l ∈ clauseLine keyword text, Keeps l := by
  intro l hl
  simp only [clauseLine, Option.mem_toList, Option.map_eq_some_iff] at hl
  obtain ⟨t, rfl, rfl⟩ := hl
  exact hk.append (ht t rfl)

theorem keeps_selectionLines {columns source : Fragments} {n : Nat} (hc : Keeps columns.text)
    (hs : Keeps source.text) :
    ∀ l ∈ selectionLines columns source (r.conditionText? n), Keeps l := by
  have hw : ∀ t ∈ r.conditionText? n, Keeps t := by
    intro t ht
    obtain ⟨f, -, rfl⟩ := Option.map_eq_some_iff.1 ht
    exact f.keeps_conditionText 0 n
  simp only [selectionLines, List.forall_mem_append, List.forall_mem_cons]
  exact ⟨⟨hc, .append (keeps_constant (by decide)) hs, by simp⟩,
    keeps_clauseLine (keeps_constant (by decide)) hw⟩

def arrangementLines (r : Request) (page : Option Fragments) : List String :=
  clauseLine "GROUP BY" ((grouping? r).map Fragments.text) ++
    clauseLine "ORDER BY" ((orderBy? r).map Fragments.text) ++
    (page.map Fragments.text).toList

theorem keepsLine_arrangementLines {page : Option Fragments} (hp : ∀ p ∈ page, Keeps p.text) :
    ∀ l ∈ arrangementLines r page, KeepsLine l := by
  have hg : ∀ t ∈ (grouping? r).map Fragments.text, Keeps t := by
    intro t ht
    obtain ⟨g, hg, rfl⟩ := Option.map_eq_some_iff.1 ht
    exact keeps_grouping hg
  simp only [arrangementLines, List.forall_mem_append]
  refine ⟨⟨fun l hl => ?_, fun l hl => ?_⟩, fun l hl => ?_⟩
  · exact (keeps_clauseLine (keeps_constant (by decide)) hg l hl).before
  · simp only [clauseLine, Option.map_map, Option.mem_toList, Option.map_eq_some_iff] at hl
    obtain ⟨o, ho, rfl⟩ := hl
    exact keepsLine_orderBy ho
  · simp only [Option.mem_toList, Option.map_eq_some_iff] at hl
    obtain ⟨p, hp', rfl⟩ := hl
    exact (hp p hp').before

theorem keepsLine_lines (h : ∀ l ∈ ls, KeepsLine l) : KeepsLine ("\n".intercalate ls) := by
  induction ls with
  | nil => exact (keeps_constant (by decide) : Keeps "").before
  | cons l ls ih =>
    obtain ⟨hl, hls⟩ := List.forall_mem_cons.1 h
    cases ls with
    | nil => simpa using hl
    | cons l' ls =>
      have hn := (ih hls).prepend (keeps_constant (by decide) : Keeps "\n")
      rw [String.intercalate_cons_cons, String.append_assoc]
      refine ⟨hl.marks.append hn.marks, fun rest hr => ?_⟩
      rw [String.toList_append]
      exact throughout_append.2 ⟨hl.places _ ⟨'\n', by simp, .inl rfl⟩, hn.places rest hr⟩

end Batch
end GridQuery
