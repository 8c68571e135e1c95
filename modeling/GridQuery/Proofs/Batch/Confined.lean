import GridQuery.Proofs.Batch.SlotLines

/-! # No text of a caller leaves its slot

The statements of a batch start with the type of their rows. What follows keeps to its slots: it
is put together from constants and from names, numbers and sort keys that hold word characters
only. So its quotes, semicolons, brackets and sort orders are those that the batch itself writes,
and counting the lines that end in a semicolon counts the statements. -/

namespace GridQuery.Batch
open Text
variable {describe : Describe} {object : String} {r : Request} {options : Options} {b : Batch}

/-- A statement: the type of its rows, a body that keeps to its slots, and the end. -/
def IsStatement (tag t : String) : Prop :=
  ∃ body, KeepsLine body ∧ t = (typeTag tag).text ++ body ++ ";\n\n"

theorem isStatement {tag : String} {columns source : Fragments} {condition : Option String}
    (more : List String) (h : ∀ l ∈ selectionLines columns source condition, Keeps l)
    (hm : ∀ l ∈ more, KeepsLine l) :
    IsStatement tag
      (statement (selectionLines (typeTag tag ++ columns) source condition ++ more)) := by
  refine ⟨"\n".intercalate (selectionLines columns source condition ++ more),
    keepsLine_lines (List.forall_mem_append.2 ⟨fun l hl => (h l hl).before, hm⟩), ?_⟩
  simp [statement, selectionLines, String.append_assoc]

def totalColumn : Fragments :=
  [.name "TotalRecords", .space, .equals, .space, .count, .leftParen, .star, .rightParen]

theorem keeps_totalColumn : Keeps totalColumn.text := by
  have h : totalColumn.text = identifier "TotalRecords" ++ " = COUNT(*)" := by decide
  rw [h]
  exact (keeps_identifier _).append (keeps_constant (by decide))

theorem exists_statements (h : ofRequest describe object r options = .ok b) :
    ∃ rows count, IsStatement "Result" rows ∧ IsStatement "$Root" count ∧
      b.sql = rows ++ if r.showTotal then count else "" := by
  obtain ⟨name, info, -, -, hc⟩ := ofRequest_eq_ok_iff.1 h
  obtain ⟨-, page, hp, rfl⟩ := compile_eq_ok_iff.1 hc
  have hs := keeps_source name info r
  have hl {columns : Fragments} (hc : Keeps columns.text) :=
    keeps_selectionLines (r := r) (n := (targetOf name info r).2.size) hc hs
  have hrows : IsStatement "Result" _ := isStatement (arrangementLines r page)
    (hl (keeps_rowColumns r.fields)) (keepsLine_arrangementLines (keeps_page hp))
  have hcount : IsStatement "$Root" _ := isStatement [] (hl keeps_totalColumn) nofun
  refine ⟨_, _, hrows, hcount, ?_⟩
  rw [text_script _ plain_conditionText?]
  simp [rowLines, arrangementLines, rowProjection, rowColumns, countProjection, totalColumn,
    List.append_assoc]

/-- The quotes of the text stand around these constants, one behind the other, and nowhere
else. -/
def QuotesOnly : List String → List Char → Prop
  | [], t => '\'' ∉ t
  | k :: constants, t => ∃ before after, t = before ++ '\'' :: (k.toList ++ '\'' :: after) ∧
      '\'' ∉ before ∧ QuotesOnly constants after

theorem QuotesOnly.prepend {ks : List String} {s t : List Char} (hs : '\'' ∉ s)
    (ht : QuotesOnly ks t) : QuotesOnly ks (s ++ t) := by
  cases ks with
  | nil => exact fun h => (List.mem_append.1 h).elim hs ht
  | cons k ks =>
    obtain ⟨before, after, rfl, hb, ha⟩ := ht
    exact ⟨s ++ before, after, by simp, fun h => (List.mem_append.1 h).elim hs hb, ha⟩

theorem QuotesOnly.append {ks ks' : List String} {s t : List Char} (hs : QuotesOnly ks s)
    (ht : QuotesOnly ks' t) : QuotesOnly (ks ++ ks') (s ++ t) := by
  induction ks generalizing s with
  | nil => exact ht.prepend hs
  | cons k ks ih =>
    obtain ⟨before, after, rfl, hb, ha⟩ := hs
    exact ⟨before, after ++ t, by simp, hb, ih ha⟩

def rowTypes (total : Bool) : List String := if total then ["Result", "$Root"] else ["Result"]

/-- No text leaves its slot in the statements of a batch. -/
structure Confined (total : Bool) (sql : List Char) : Prop where
  /-- There is one semicolon for each statement. -/
  count_semicolon : sql.count ';' = if total then 2 else 1
  /-- Every semicolon ends its line, and the next line is empty. -/
  semicolon : Followed [';'] ("\n\n".toList <+: ·) sql
  /-- Quotes stand around the types of the rows only. -/
  quotes : QuotesOnly (rowTypes total) sql
  /-- Every bracket opens a name of word characters, but for the name of the type. -/
  name : Followed ['['] (fun s => "$Type]".toList <+: s ∨ OpensName s) sql
  /-- Every sort order consists of names or words, each with its direction. -/
  sorts : Followed "ORDER BY ".toList SortsLine sql
  /-- Nothing starts a comment or a quoted name, and the only controls are ends of lines. -/
  marks : ∀ c ∈ sql, c ∉ ['-', '/', '"', '#'] ∧ (isControl c = true → c = '\n')

def statementMarks : List Char := bodyMarks ++ [';', '\'', '$']

section Confined
variable {tag t : String}

theorem settled_typeTag : ∀ tag ∈ rowTypes true,
    Throughout Settled (typeTag tag).text.toList [] := by decide

theorem text_typeTag : ∀ tag ∈ rowTypes true,
    (typeTag tag).text.toList =
      "SELECT [$Type] = ".toList ++ '\'' :: (tag.toList ++ '\'' :: ", ".toList) := by decide

theorem madeOf_typeTag : ∀ tag ∈ rowTypes true, MadeOf statementMarks (typeTag tag).text ∧
    ';' ∉ (typeTag tag).text.toList := by decide

namespace IsStatement

theorem places (h : IsStatement tag t) (ht : tag ∈ rowTypes true) (rest : List Char) :
    Throughout InSlot t.toList rest := by
  obtain ⟨body, hb, rfl⟩ := h
  simp only [String.toList_append, throughout_append]
  refine ⟨⟨throughout_of_settled (settled_typeTag tag ht), ?_⟩, throughout_of_settled (by decide)⟩
  exact hb.places _ ⟨';', by simp, .inr rfl⟩

theorem madeOf (h : IsStatement tag t) (ht : tag ∈ rowTypes true) :
    MadeOf statementMarks t := by
  obtain ⟨body, hb, rfl⟩ := h
  exact ((madeOf_typeTag tag ht).1.append (hb.marks.mono (by decide))).append (by decide)

theorem count_semicolon (h : IsStatement tag t) (ht : tag ∈ rowTypes true) :
    t.toList.count ';' = 1 := by
  obtain ⟨body, hb, rfl⟩ := h
  have hm : ';' ∉ body.toList := hb.marks.not_mem (by decide) (by decide)
  simp [List.count_eq_zero.2 hm, List.count_eq_zero.2 (madeOf_typeTag tag ht).2]

theorem quotes (h : IsStatement tag t) (ht : tag ∈ rowTypes true) :
    QuotesOnly [tag] t.toList := by
  obtain ⟨body, hb, rfl⟩ := h
  have hm : '\'' ∉ body.toList := hb.marks.not_mem (by decide) (by decide)
  refine ⟨"SELECT [$Type] = ".toList, ", ".toList ++ body.toList ++ ";\n\n".toList, ?_,
    by decide, ?_⟩
  · simp [text_typeTag tag ht]
  · simp [QuotesOnly, hm]

end IsStatement

theorem marks_of_madeOf (h : MadeOf statementMarks t) :
    ∀ c ∈ t.toList, c ∉ ['-', '/', '"', '#'] ∧ (isControl c = true → c = '\n') := by
  intro c hc
  obtain hw | hm := h c hc
  · have hn := isWord_iff.1 hw
    refine ⟨?_, fun hi => ?_⟩
    · simp only [List.mem_cons, List.not_mem_nil, or_false, not_or]
      refine ⟨?_, ?_, ?_, ?_⟩ <;> rintro rfl <;> exact absurd hw (by decide)
    · simp [isControl] at hi
      omega
  · exact (by decide : ∀ c ∈ statementMarks,
      c ∉ ['-', '/', '"', '#'] ∧ (isControl c = true → c = '\n')) c hm

/-- Where every semicolon ends its line, the lines that end in one are as many as there are
semicolons. -/
theorem semicolonLines_eq {t : List Char} (h : Throughout InSlot t []) :
    semicolonLines t = t.count ';' := by
  fun_induction semicolonLines t with
  | case1 rest ih => simp [ih h.2.2]
  | case2 c rest hc ih =>
    have hn : c ≠ ';' := by
      rintro rfl
      obtain ⟨a, ha⟩ := h.1.semicolon _ rfl
      exact hc _ rfl (by simpa using ha.symm)
    simp [ih h.2, hn]
  | case3 => rfl

end Confined

/-- Whatever texts a request, an object and the options hold, no text leaves its slot in the
statements of a batch, and the lines that end in a semicolon count the statements. -/
theorem confined_ofRequest (h : ofRequest describe object r options = .ok b) :
    Confined r.showTotal b.sql.toList ∧ b.statementCount = if r.showTotal then 2 else 1 := by
  obtain ⟨rows, count, hr, hc, hb⟩ := exists_statements h
  have hrt : "Result" ∈ rowTypes true := by decide
  have hct : "$Root" ∈ rowTypes true := by decide
  have hp : Throughout InSlot b.sql.toList [] := by
    rw [hb, String.toList_append, throughout_append]
    refine ⟨hr.places hrt _, ?_⟩
    split
    · exact hc.places hct _
    · trivial
  have hm : MadeOf statementMarks b.sql := by
    rw [hb]
    refine (hr.madeOf hrt).append ?_
    split
    · exact hc.madeOf hct
    · decide
  have hs : b.sql.toList.count ';' = if r.showTotal then 2 else 1 := by
    rw [hb]
    cases r.showTotal <;> simp [hr.count_semicolon hrt, hc.count_semicolon hct]
  have hq : QuotesOnly (rowTypes r.showTotal) b.sql.toList := by
    rw [hb, String.toList_append]
    cases r.showTotal
    · simpa [rowTypes] using hr.quotes hrt
    · exact (hr.quotes hrt).append (hc.quotes hct)
  exact ⟨⟨hs, hp.followed (by simp) fun a ha => ha.semicolon a rfl, hq,
    hp.followed (by simp) fun a ha => ha.name a rfl,
    hp.followed (by decide) fun a ha => ha.sorts a rfl, marks_of_madeOf hm⟩,
    (semicolonLines_eq hp).trans hs⟩

/-- A request whose texts try to leave their slots. -/
def intruding : Request :=
  (((({} : Request).select ["Id]; DROP TABLE x;--"]).filterBy
    ((Filter.column "Name'--").compare .eq (.literal (.string "'; DELETE FROM y")))).groupBy
      "[$Type]'").orderBy ⟨.expression "1 ASC;\nORDER BY x", true⟩ |>.withTotal

theorem confined_ofRequest_intruding :
    ∃ b, ofRequest (fun _ => .ok (some ⟨.view, []⟩)) "a';--.b]/*" intruding {} = .ok b ∧
      Confined true b.sql.toList ∧ b.statementCount = 2 := by
  obtain ⟨b, hb⟩ : ∃ b, ofRequest (fun _ => .ok (some ⟨.view, []⟩)) "a';--.b]/*" intruding {} =
      .ok b := ⟨_, rfl⟩
  obtain ⟨hc, hs⟩ := confined_ofRequest hb
  exact ⟨b, hb, hc, hs⟩

end GridQuery.Batch
