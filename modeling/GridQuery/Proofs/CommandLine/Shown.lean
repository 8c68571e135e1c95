import GridQuery.CommandLine.Run
import GridQuery.Proofs.Literal.Reading
import Mathlib.Data.List.DropRight

/-! # A query as it is printed

A query is printed as one comment for each binding and its text behind them. Whatever is bound, a
comment keeps to its line, so the text of the query starts behind as many lines as there are
bindings. -/

namespace GridQuery

namespace Text

/-- How a control character is escaped: by a letter of its own or by its number. -/
inductive Escapes : List Char → Char → Prop where
  | lineFeed : Escapes ['n'] '\n'
  | carriageReturn : Escapes ['r'] '\r'
  | tab : Escapes ['t'] '\t'
  | number {digits : List Char} {c : Char} : hexValue? digits = some c.toNat →
      Escapes ('u' :: '\x7b' :: (digits ++ ['\x7d'])) c

/-- A text is shown with each control character escaped and every other character as it is. -/
inductive Shows : List Char → List Char → Prop where
  | nil : Shows [] []
  | plain {c : Char} {shown text : List Char} : isControl c = false → Shows shown text →
      Shows (c :: shown) (c :: text)
  | escaped {c : Char} {escape shown text : List Char} : isControl c = true → Escapes escape c →
      Shows shown text → Shows ('\\' :: (escape ++ shown)) (c :: text)

variable {c : Char} {s t : List Char}

theorem isControl_of_isWord (h : isWord c = true) : isControl c = false := by
  have hc := isWord_iff.1 h
  simp only [isControl, Bool.or_eq_false_iff, Bool.and_eq_false_iff, decide_eq_false_iff_not]
  omega

theorem hexValue?_of_isControl (h : isControl c = true) :
    hexValue? (Nat.toDigits 16 c.toNat) = some c.toNat := by
  have hn : c.toNat < 0xA0 := by
    simp only [isControl, Bool.or_eq_true, Bool.and_eq_true, decide_eq_true_eq] at h
    omega
  -- there are few enough of them to read each one back
  exact (by decide +kernel : ∀ n < 0xA0, hexValue? (Nat.toDigits 16 n) = some n) _ hn

theorem toList_byNumber (c : Char) :
    (byNumber c).toList = '\\' :: 'u' :: '\x7b' :: (Nat.toDigits 16 c.toNat ++ ['\x7d']) := by
  simp [byNumber, hex]

theorem shows_shownControl (c : Char) (h : Shows s t) :
    Shows ((shownControl c).toList ++ s) (c :: t) := by
  unfold shownControl
  split_ifs with hc hn hr ht
  · simpa using h.plain (by simpa using hc : isControl c = false)
  · exact hn ▸ h.escaped rfl .lineFeed
  · exact hr ▸ h.escaped rfl .carriageReturn
  · exact ht ▸ h.escaped rfl .tab
  · have hc : isControl c = true := by simpa using hc
    rw [toList_byNumber]
    exact h.escaped hc (.number (hexValue?_of_isControl hc))

theorem shows_onOneLine (text : String) : Shows (onOneLine text).toList text.toList := by
  rw [onOneLine, String.toList_join]
  induction text.toList with
  | nil => exact .nil
  | cons c t ih => simpa using shows_shownControl c ih

/-- No escape has a control character itself. -/
theorem isControl_shownControl (c : Char) :
    ∀ d ∈ (shownControl c).toList, isControl d = false := by
  unfold shownControl
  split_ifs with hc hn hr ht
  · simpa using hc
  · decide
  · decide
  · decide
  · have hd : ∀ d ∈ Nat.toDigits 16 c.toNat, isControl d = false := fun d h =>
      isControl_of_isWord (isWord_of_mem_toDigits (by decide) (by decide) h)
    rw [toList_byNumber]
    simp only [List.forall_mem_cons, List.forall_mem_append]
    exact ⟨by decide, by decide, by decide, hd, by decide⟩

theorem isControl_onOneLine (text : String) :
    ∀ c ∈ (onOneLine text).toList, isControl c = false := by
  intro c h
  rw [onOneLine, String.toList_join, List.flatMap_map, List.mem_flatMap] at h
  obtain ⟨d, -, h⟩ := h
  exact isControl_shownControl d c h

theorem trimRight_eq (s : List Char) : trimRight s = s.rdropWhile isBlank := rfl

/-- The text behind its first lines. -/
def dropLines : Nat → List Char → List Char
  | 0, s => s
  | n + 1, s => dropLines n ((s.dropWhile (· != '\n')).drop 1)

theorem dropLines_join {lines : List String} (h : ∀ line ∈ lines, '\n' ∉ line.toList) :
    dropLines lines.length ((String.join (lines.map (· ++ "\n"))).toList ++ t) = t := by
  induction lines with
  | nil => simp [dropLines]
  | cons line lines ih =>
    obtain ⟨hl, hr⟩ := List.forall_mem_cons.1 h
    have hd (rest : List Char) :
        (line.toList ++ '\n' :: rest).dropWhile (· != '\n') = '\n' :: rest :=
      (takeWhile_append_of_ends (fun c hc => bne_iff_ne.2 (by rintro rfl; exact hl hc))
        (by simp)).2
    have hj : (String.join ((line :: lines).map (· ++ "\n"))).toList ++ t =
        line.toList ++ '\n' :: ((String.join (lines.map (· ++ "\n"))).toList ++ t) := by
      simp [String.toList_join]
    rw [List.length_cons, dropLines, hj, hd, List.drop_one, List.tail_cons, ih hr]

end Text

namespace CommandLine
open Text

/-- The text that a literal is rendered as: its form in a script or, where it has none, as JSON. -/
inductive Renders (v : Literal) : String → Prop where
  | quoted {text : String} : v.quote = .ok text → Renders v text
  | json {e : KindError} : v.quote = .error e → Renders v v.toJson.compact

structure IsComment (i : Nat) (v : Literal) (line : String) : Prop where
  shows : ∃ text shown, Renders v text ∧ Shows shown text.toList ∧
    line.toList = "-- ".toList ++ ((placeholder i).toList ++ (" = ".toList ++ shown))
  oneLine : ∀ c ∈ line.toList, isControl c = false

/-- What is printed of a batch: the comments, each on a line of its own, and the text of the batch
without the white space at its end. -/
structure IsPrinted (b : Batch) (out : String) (comments : List String) (sql : String) : Prop where
  out_eq : out = String.join (comments.map (· ++ "\n")) ++ sql ++ "\n"
  length_comments : comments.length = b.bindings.size
  isComment : ∀ i, ∀ v ∈ b.bindings.values[i]?, ∃ line ∈ comments[i]?, IsComment i v line
  isBlank_end : ∃ blanks, b.sql.toList = sql.toList ++ blanks ∧ ∀ c ∈ blanks, isBlank c = true
  isBlank_last : ∀ c ∈ sql.toList.getLast?, isBlank c = false
  behind_comments : dropLines b.bindings.size out.toList = (sql ++ "\n").toList

/-- The command line asks for the text of a query, and the query compiles to the batch. -/
inductive Prints (s : Surroundings) (words : List String) (b : Batch) : Prop where
  | compile {i : Invocation} {set : Settings} {c : CompileCommand} : parse words = .ok i →
      settings s i.config = .ok set → i.command = .compile c → c.format = .sql →
      compiled s set c = .ok b → Prints s words b
  | filter {i : Invocation} {set : Settings} {text : String} : parse words = .ok i →
      settings s i.config = .ok set → i.command = .filter text .sql →
      compiledFilter text = .ok b → Prints s words b

variable {s : Surroundings} {words : List String} {b : Batch}

theorem Prints.run_eq (h : Prints s words b) :
    run s words = { code := 0, out := shownBatch b .sql } := by
  cases h with
  | compile hp hs hc hf hb => simp [run, runInvocation, hp, hs, hc, hf, hb, batchOutcome]
  | filter hp hs hc hb => simp [run, runInvocation, hp, hs, hc, hb, batchOutcome]

theorem isControl_placeholder (i : Nat) : ∀ c ∈ (placeholder i).toList, isControl c = false := by
  intro c h
  obtain hw | hm := madeOf_placeholder i c h
  · exact isControl_of_isWord hw
  · rw [List.mem_singleton.1 hm]
    decide

theorem isComment_bindingComment (i : Nat) (v : Literal) :
    IsComment i v (bindingComment (placeholder i) v) := by
  obtain ⟨text, hr, hl⟩ : ∃ text, Renders v text ∧ (bindingComment (placeholder i) v).toList =
      "-- ".toList ++ ((placeholder i).toList ++ (" = ".toList ++ (onOneLine text).toList)) := by
    unfold bindingComment
    cases hq : v.quote with
    | ok text => exact ⟨text, .quoted hq, by simp⟩
    | error e => exact ⟨_, .json hq, by simp⟩
  refine ⟨⟨text, _, hr, shows_onOneLine text, hl⟩, ?_⟩
  rw [hl]
  simp only [List.forall_mem_append]
  exact ⟨by decide, isControl_placeholder i, by decide, isControl_onOneLine text⟩

def comments (b : Bindings) : List String := b.entries.map fun e => bindingComment e.1 e.2

@[simp] theorem length_comments (b : Bindings) : (comments b).length = b.size := by
  simp [comments]

theorem getElem?_comments (b : Bindings) (i : Nat) :
    (comments b)[i]? = b.values[i]?.map (bindingComment (placeholder i)) := by
  simp [comments, Bindings.entries, Function.comp_def]

theorem lineFeed_not_mem_comments {line : String} (h : line ∈ comments b.bindings) :
    '\n' ∉ line.toList := by
  obtain ⟨i, hi⟩ := List.mem_iff_getElem?.1 h
  rw [getElem?_comments, Option.map_eq_some_iff] at hi
  obtain ⟨v, -, rfl⟩ := hi
  exact fun hn => absurd ((isComment_bindingComment i v).oneLine _ hn) (by decide)

theorem shownBatch_sql (b : Batch) : shownBatch b .sql =
    String.join ((comments b.bindings).map (· ++ "\n")) ++
      String.ofList (trimRight b.sql.toList) ++ "\n" := by
  simp [shownBatch, comments, Function.comp_def]

theorem isPrinted_shownBatch (b : Batch) : IsPrinted b (shownBatch b .sql) (comments b.bindings)
    (String.ofList (trimRight b.sql.toList)) where
  out_eq := shownBatch_sql b
  length_comments := length_comments b.bindings
  isComment i v hv := by
    rw [Option.mem_def] at hv
    exact ⟨_, by rw [getElem?_comments, hv]; rfl, isComment_bindingComment i v⟩
  isBlank_end := by
    refine ⟨b.sql.toList.rtakeWhile isBlank, ?_, fun c hc => List.mem_rtakeWhile_imp hc⟩
    rw [String.toList_ofList, trimRight_eq, List.rdropWhile_append_rtakeWhile]
  isBlank_last c hc := by
    rw [String.toList_ofList, trimRight_eq] at hc
    obtain ⟨hne, rfl⟩ := List.mem_getLast?_eq_getLast hc
    simpa using List.rdropWhile_last_not isBlank _ hne
  behind_comments := by
    rw [shownBatch_sql, String.append_assoc, String.toList_append, ← length_comments]
    exact dropLines_join fun _ => lineFeed_not_mem_comments

/-- Whatever literals a batch binds, its comments stand in front of its text line by line, and the
commands that compile a query print it so. -/
theorem run_isPrinted (b : Batch) : ∃ out comments sql, IsPrinted b out comments sql ∧
    ∀ s words, Prints s words b → run s words = { code := 0, out } :=
  ⟨_, _, _, isPrinted_shownBatch b, fun _ _ h => h.run_eq⟩

def noFiles : Surroundings := ⟨none, none, fun _ => .missing⟩

def linesOf (customer : String) : List String :=
  ["compile", "OrderLines", "--kind", "function", "--param", "CustomerId", "--json",
    "\x7b\"userData\":\x7b\"CustomerId\":\"" ++ customer ++ "\"\x7d\x7d"]

theorem run_isPrinted_lineFeed :
    ∃ b out comments sql, Prints noFiles (linesOf "1\\nDROP TABLE x--") b ∧
      b.bindings.values = [.string "1\nDROP TABLE x--"] ∧ IsPrinted b out comments sql ∧
      run noFiles (linesOf "1\\nDROP TABLE x--") = { code := 0, out } := by
  obtain ⟨b, hb⟩ : ∃ b, compiled noFiles {} ⟨"OrderLines", none, some
      "\x7b\"userData\":\x7b\"CustomerId\":\"1\\nDROP TABLE x--\"\x7d\x7d", none,
      some .function, ["CustomerId"], .sql⟩ = .ok b := ⟨_, rfl⟩
  have hv : b.bindings.values = [.string "1\nDROP TABLE x--"] := by
    cases hb
    rfl
  have hp : Prints noFiles (linesOf "1\\nDROP TABLE x--") b := .compile rfl rfl rfl rfl hb
  obtain ⟨out, comments, sql, h, hr⟩ := run_isPrinted b
  exact ⟨b, out, comments, sql, hp, hv, h, hr _ _ hp⟩

end CommandLine
end GridQuery
