import GridQuery.Proofs.Batch.Clauses

/-! # The statement that counts

The statement for the number of the rows reads from the source of the rows under their condition,
and nothing else of a request enters it. Its other clauses would start with keywords, and whatever
the names in it are, it has none of these. -/

namespace GridQuery
open Text

def arrangingKeywords : List String := ["GROUP BY ", "ORDER BY ", "OFFSET "]

/-- The text neither starts with one of the keywords nor ends within it. -/
def Apart (s : List Char) : Prop :=
  ∀ k ∈ arrangingKeywords, ¬ k.toList <+: s ∧ ¬ s <+: k.toList

instance (s : List Char) : Decidable (Apart s) :=
  inferInstanceAs (Decidable (∀ k ∈ arrangingKeywords, ¬ k.toList <+: s ∧ ¬ s <+: k.toList))

/-- None of the keywords starts in the text, whatever comes behind it. -/
structure Unarranged (t : String) : Prop where
  places : ∀ rest, Throughout (fun s => ∀ k ∈ arrangingKeywords, ¬ k.toList <+: s) t.toList rest

section Unarranged
variable {s t : String} {k w rest : List Char} {c : Char}

theorem Unarranged.append (hs : Unarranged s) (ht : Unarranged t) : Unarranged (s ++ t) := by
  refine ⟨fun rest => ?_⟩
  rw [String.toList_append]
  exact throughout_append.2 ⟨hs.places _, ht.places rest⟩

theorem unarranged_constant (h : Throughout Apart t.toList []) : Unarranged t := by
  refine ⟨fun rest => h.of_local fun a ha k hk hp => ?_⟩
  obtain h | h := List.prefix_or_prefix_of_prefix hp (List.prefix_append a rest)
  · exact (ha k hk).1 h
  · exact (ha k hk).2 h

theorem prefix_of_prefix_mark (h : k <+: w ++ c :: rest) (hc : c ∉ k) : k <+: w := by
  have hp : w ++ [c] <+: w ++ c :: rest := ⟨rest, by simp⟩
  obtain h | h := List.prefix_or_prefix_of_prefix h hp
  · obtain h | h := List.prefix_concat_iff.1 h
    · exact absurd (h ▸ by simp) hc
    · exact h
  · exact absurd (h.subset (by simp)) hc

theorem unarranged_of_not_mem (hg : 'G' ∉ t.toList) (ho : 'O' ∉ t.toList) : Unarranged t := by
  have hh : ∀ k ∈ arrangingKeywords,
      k.toList ≠ [] ∧ ∀ d ∈ k.toList.head?, d = 'G' ∨ d = 'O' := by decide
  refine ⟨fun rest => throughout_of_forall fun c hc a k hk ⟨b, hb⟩ => ?_⟩
  have hd : k.toList.head? = some c := by
    simpa [List.head?_append, (hh k hk).1] using congrArg List.head? hb
  obtain rfl | rfl := (hh k hk).2 c hd
  · exact hg hc
  · exact ho hc

theorem unarranged_word (hw : ' ' ∉ w) :
    Throughout (fun s => ∀ k ∈ arrangingKeywords, ¬ k.toList <+: s) w (']' :: rest) := by
  have hk : ∀ k ∈ arrangingKeywords, ']' ∉ k.toList ∧ ' ' ∈ k.toList := by decide
  induction w with
  | nil => trivial
  | cons c w ih =>
    refine ⟨fun k hm hp => ?_, ih (by simp_all)⟩
    have hp : k.toList <+: c :: w := prefix_of_prefix_mark hp (hk k hm).1
    exact hw (hp.subset (hk k hm).2)

theorem unarranged_identifier (name : String) : Unarranged (identifier name) := by
  have hs : ' ' ∉ (sanitize name).toList := fun h =>
    absurd (isWord_of_mem_sanitize h) (by decide)
  have hb : Unarranged "]" := unarranged_constant (by decide)
  have hl (rest : List Char) : "]".toList ++ rest = ']' :: rest := by simp
  rw [identifier_eq, String.append_assoc]
  refine .append (unarranged_constant (by decide)) ⟨fun rest => ?_⟩
  rw [String.toList_append, throughout_append, hl]
  exact ⟨unarranged_word hs, hb.places rest⟩

theorem unarranged_placeholder (n : Nat) : Unarranged (placeholder n) := by
  refine .append (unarranged_constant (by decide)) (unarranged_of_not_mem ?_ ?_) <;>
    exact fun h => absurd (isDigit_of_mem_toString h) (by decide)

theorem infix_of_throughout (h : Throughout (fun s => ∀ k ∈ arrangingKeywords, ¬ k.toList <+: s)
    w rest) {k : String} (hk : k ∈ arrangingKeywords) (hi : k.toList <:+: w ++ rest) :
    k.toList <:+: rest := by
  induction w with
  | nil => exact hi
  | cons c w ih =>
    obtain hp | hi := List.infix_cons_iff.1 hi
    · exact absurd hp (h.1 k hk)
    · exact ih h.2 hi

theorem Unarranged.not_infix (ht : Unarranged t) {k : String} (hk : k ∈ arrangingKeywords) :
    ¬ k.toList <:+: t.toList := by
  intro hi
  have hne : ∀ k ∈ arrangingKeywords, k.toList ≠ [] := by decide
  have hi : k.toList <:+: [] := infix_of_throughout (ht.places []) hk (by simpa using hi)
  exact hne k hk (List.eq_nil_of_infix_nil hi)

/-- No keyword reaches over a mark that it does not have. -/
theorem infix_or_infix_of_mark (h : k <:+: w ++ c :: rest) (hc : c ∉ k) :
    k <:+: w ∨ k <:+: rest := by
  induction w with
  | nil =>
    obtain hp | hi := List.infix_cons_iff.1 h
    · exact .inl (prefix_of_prefix_mark hp hc).isInfix
    · exact .inr hi
  | cons d w ih =>
    obtain hp | hi := List.infix_cons_iff.1 h
    · exact .inl (prefix_of_prefix_mark hp hc).isInfix
    · exact (ih hi).imp_left List.infix_cons

theorem infix_of_between {head tail : String} (hh : Unarranged head) (ht : Unarranged tail)
    (he : ∃ c ∈ tail.toList.head?, c ∈ ['\n', ';', ')']) {k : String} (hk : k ∈ arrangingKeywords)
    (hi : k.toList <:+: head.toList ++ (w ++ tail.toList)) : k.toList <:+: w := by
  have hm : ∀ k ∈ arrangingKeywords, ∀ c ∈ ['\n', ';', ')'], c ∉ k.toList := by decide
  obtain ⟨c, hc, he⟩ := he
  obtain ⟨tail', htail⟩ := List.head?_eq_some_iff.1 hc
  replace hi := infix_of_throughout (hh.places _) hk hi
  rw [htail] at hi
  obtain hi | hi := infix_or_infix_of_mark hi (hm k hk c he)
  · exact hi
  · exact absurd (htail ▸ List.infix_cons hi) (ht.not_infix hk)

theorem exists_infix_of_commas {items : List String} {k : String} (hk : k ∈ arrangingKeywords)
    (hi : k.toList <:+: (", ".intercalate items).toList) : ∃ t ∈ items, k.toList <:+: t.toList := by
  have hm : ∀ k ∈ arrangingKeywords,
      ',' ∉ k.toList ∧ k.toList.head? ≠ some ' ' ∧ k.toList ≠ [] := by decide
  obtain ⟨hc, hs, hne⟩ := hm k hk
  -- a blank follows each comma, and no keyword starts with one
  induction items with
  | nil => exact absurd (List.eq_nil_of_infix_nil (by simpa using hi)) hne
  | cons t items ih =>
    cases items with
    | nil => exact ⟨t, by simp, by simpa using hi⟩
    | cons t' items =>
      have hl (rest : List Char) : ", ".toList ++ rest = ',' :: ' ' :: rest := by simp
      rw [String.intercalate_cons_cons, String.toList_append, String.toList_append,
        List.append_assoc, hl] at hi
      obtain hi | hi := infix_or_infix_of_mark hi hc
      · exact ⟨t, by simp, hi⟩
      · obtain ⟨b, hb⟩ | hi := List.infix_cons_iff.1 hi
        · have hh := congrArg List.head? hb
          rw [List.head?_append] at hh
          cases hd : k.toList.head? <;> simp_all
        · obtain ⟨t, ht, hi⟩ := ih hi
          exact ⟨t, by simp [ht], hi⟩

end Unarranged

namespace Filter
open Binding

theorem unarranged_indentation (d : Nat) : Unarranged (Script.indentation d) :=
  unarranged_of_not_mem (by simp [Script.indentation]) (by simp [Script.indentation])

theorem unarranged_conditionText (f : Filter) (d n : Nat) : Unarranged (f.conditionText d n) :=
  have hc : ∀ t ∈ conditionConstants, Throughout Apart t.toList [] := by decide
  HoldsOfParts.conditionText
    { append := .append
      identifier := unarranged_identifier
      placeholder := unarranged_placeholder
      indentation := unarranged_indentation
      constant := fun t ht => unarranged_constant (hc t ht) } f d n

end Filter

namespace Batch
variable {r r' : Request} {options : Options} {target : Target} {bindings : Bindings} {b : Batch}

theorem unarranged_condition {n : Nat} :
    Unarranged (Clauses.clauseText "WHERE" (r.conditionText? n)) := by
  unfold Request.conditionText?
  cases r.filter with
  | none => exact (unarranged_constant (by decide) : Unarranged "")
  | some f =>
    have hw : Unarranged ("\n" ++ "WHERE" ++ " ") := unarranged_constant (by decide)
    exact hw.append (f.unarranged_conditionText 0 n)

/-- Only the name of a placeholder can bring a keyword into a source. -/
theorem exists_placeholder_of_keyword {k : String} (hk : k ∈ arrangingKeywords)
    (h : k.toList <:+: target.source.text.toList) :
    ∃ name, .placeholder name ∈ target.arguments ∧ k.toList <:+: name.toList := by
  obtain ⟨⟨schema, name⟩, kind, arguments⟩ := target
  have hq : Unarranged (qualified schema name) :=
    .append (.append (unarranged_identifier _) (unarranged_constant (by decide)))
      (unarranged_identifier _)
  cases kind with
  | view =>
    refine absurd h (Unarranged.not_infix ?_ hk)
    have hr : Unarranged (" " ++ rowsAlias) := unarranged_constant (by decide)
    simpa [Target.source, Fragment.text] using hq.append hr
  | function =>
    have hl : Unarranged "(" := unarranged_constant (by decide)
    have hr : Unarranged (")" ++ (" " ++ rowsAlias)) := unarranged_constant (by decide)
    have hi := infix_of_between (w := (", ".intercalate (arguments.map (·.fragment.text))).toList)
      (hq.append hl) hr ⟨')', by decide, by decide⟩ hk
      (by simpa [Target.source, Fragment.text, text_commaSeparated, Function.comp_def] using h)
    obtain ⟨t, ht, hi⟩ := exists_infix_of_commas hk hi
    obtain ⟨a, ha, rfl⟩ := List.mem_map.1 ht
    cases a with
    | placeholder name => exact ⟨name, ha, hi⟩
    | default =>
      have hd : Unarranged "DEFAULT" := unarranged_constant (by decide)
      exact absurd hi (hd.not_infix hk)

theorem keyword_source_of_total {source k : String} {n : Nat} (hk : k ∈ arrangingKeywords)
    (h : k.toList <:+: (totalClauses source (r.conditionText? n)).text.toList) :
    k.toList <:+: source.toList := by
  have hh : Unarranged ("SELECT " ++ "[$Type] = '$Root', [TotalRecords] = COUNT(*)" ++ "\nFROM ") :=
    unarranged_constant (by decide)
  have ht : Unarranged (Clauses.clauseText "WHERE" (r.conditionText? n) ++ ";\n\n") :=
    unarranged_condition.append (unarranged_constant (by decide))
  refine infix_of_between hh ht ?_ hk ?_
  · cases r.conditionText? n <;> simp [Clauses.clauseText]
  · rw [text_totalClauses] at h
    simpa [List.append_assoc] using h

section showTotal
variable (total : Bool) (condition : Option String)

@[simp] theorem clauses_showTotal (source : String) :
    ({ r with showTotal := total } : Request).clauses options source condition =
      r.clauses options source condition := rfl

@[simp] theorem isCondition_showTotal (after : Bindings) :
    ({ r with showTotal := total } : Request).IsCondition bindings after condition ↔
      r.IsCondition bindings after condition := by
  cases condition <;> rfl

@[simp] theorem conditionOf_showTotal :
    conditionOf { r with showTotal := total } bindings = conditionOf r bindings := rfl

@[simp] theorem counted_showTotal :
    ({ r with showTotal := total } : Request).Counted options ↔ r.Counted options := .rfl

@[simp] theorem uncounted_showTotal (e : QueryError) :
    ({ r with showTotal := total } : Request).Uncounted options e ↔ r.Uncounted options e := .rfl

end showTotal

theorem text_of_withoutTotal (hf : r'.filter = r.filter)
    (h : compile options { r' with showTotal := false } target bindings = .ok b) :
    r'.IsCondition bindings b.bindings (r.conditionText? bindings.size) ∧
      b.sql = (r'.clauses options target.source.text (r.conditionText? bindings.size)).text := by
  obtain ⟨-, condition, hi, hb⟩ := compile_eq_ok_iff_clauses.1 h
  simp only [isCondition_showTotal, clauses_showTotal] at hi hb
  have hc : condition = r.conditionText? bindings.size := by
    rw [(isCondition_iff_conditionText?.1 hi).2.1, Request.conditionText?, Request.conditionText?,
      hf]
  subst hc
  exact ⟨hi, by simpa using hb⟩

theorem compile_withTotal (hf : r'.filter = r.filter) :
    compile options { r' with showTotal := true } target bindings =
      (compile options { r' with showTotal := false } target bindings).map fun b =>
        { b with sql := b.sql ++
          (totalClauses target.source.text (r.conditionText? bindings.size)).text } := by
  cases hc : compile options { r' with showTotal := false } target bindings with
  | error e =>
    rw [compile_eq_error_iff] at hc
    simp only [conditionOf_showTotal, uncounted_showTotal] at hc
    simpa only [Except.map, compile_eq_error_iff, conditionOf_showTotal, uncounted_showTotal]
      using hc
  | ok b =>
    obtain ⟨hi, hb⟩ := text_of_withoutTotal hf hc
    obtain ⟨hp, -⟩ := compile_eq_ok_iff_clauses.1 hc
    simp only [counted_showTotal] at hp
    simp only [Except.map, compile_eq_ok_iff_clauses, counted_showTotal, isCondition_showTotal,
      clauses_showTotal, if_true]
    exact ⟨hp, _, hi, congrArg (· ++ _) hb⟩

/-- Asking for the total puts one more statement behind the batch and changes nothing else. The
statement has the source and the condition of the rows, it has no other clause and no keyword of
one, unless the name of a placeholder has it, and it is the same for all requests with this
filter. -/
theorem compile_showTotal (r : Request) (target : Target) (bindings : Bindings) :
    ∃ total : Clauses, total = totalClauses target.source.text total.condition ∧
      (total.grouping = none ∧ total.order = none ∧ total.page = none ∧
        ∀ k ∈ arrangingKeywords, k.toList <:+: total.text.toList →
          ∃ name, .placeholder name ∈ target.arguments ∧ k.toList <:+: name.toList) ∧
      ∀ (options : Options) (r' : Request), r'.filter = r.filter →
        compile options { r' with showTotal := true } target bindings =
          (compile options { r' with showTotal := false } target bindings).map
            (fun b => { b with sql := b.sql ++ total.text }) ∧
        ∀ b, compile options { r' with showTotal := false } target bindings = .ok b →
          r'.IsCondition bindings b.bindings total.condition ∧
            b.sql = (r'.clauses options total.source total.condition).text :=
  ⟨totalClauses target.source.text (r.conditionText? bindings.size), rfl,
    ⟨rfl, rfl, rfl, fun _ hk h =>
      exists_placeholder_of_keyword hk (keyword_source_of_total hk h)⟩,
    fun _ _ hf => ⟨compile_withTotal hf, fun _ h => text_of_withoutTotal hf h⟩⟩

end Batch
end GridQuery
