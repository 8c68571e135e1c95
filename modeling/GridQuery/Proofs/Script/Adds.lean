import GridQuery.Proofs.Script.Continued
import GridQuery.Proofs.Text.Rebroken

/-! # What actions add

Actions that start and end between lines add the same text to every script of a depth. Lines add
themselves behind their indentation, and the lines of a text add the text with its lines broken
anew. -/

namespace GridQuery
open Text

namespace Script
variable (s : Script)

/-- A text whose lines are written at some depth, from its first character to its last. -/
def rebroken (depth : Nat) (t : String) : String :=
  String.ofList (Text.rebroken (List.replicate (2 * depth) ' ') t.toList)

@[simp] theorem toList_rebroken (depth : Nat) (t : String) :
    (rebroken depth t).toList = Text.rebroken (List.replicate (2 * depth) ' ') t.toList := by
  simp [rebroken]

theorem rebroken_append {depth : Nat} {s t : String}
    (h : s.toList.getLast? = some '\r' → t.toList.head? ≠ some '\n') :
    rebroken depth (s ++ t) = rebroken depth s ++ rebroken depth t := by
  simp [← String.toList_inj, Text.rebroken_append h]

theorem rebroken_of_not_mem {depth : Nat} {t : String} (h : '\n' ∉ t.toList) :
    rebroken depth t = t := by
  simp [← String.toList_inj, Text.rebroken_of_not_mem h]

theorem line_eq (t : String) :
    s.line t =
      { text := s.endLine.text ++ (indentation s.depth ++ t ++ "\n"), depth := s.depth } := by
  have h : s.line t = ⟨(s.line t).text, (s.line t).depth, (s.line t).lineOpen⟩ := rfl
  rw [h, text_line, depth_line, lineOpen_line]
  simp [String.append_assoc]

theorem lines_eq {t : String} (hne : t ≠ "") (hl : t.toList.getLast? ≠ some '\n') :
    s.lines t =
      { text := s.endLine.text ++ (indentation s.depth ++ rebroken s.depth t ++ "\n"),
        depth := s.depth } := by
  rw [lines, rebroken, ← intercalate_lines_indented hl]
  have hls : Text.lines t.toList ≠ [] := by simpa [lines_eq_nil_iff] using hne
  generalize Text.lines t.toList = ls at hls
  induction ls generalizing s with
  | nil => exact absurd rfl hls
  | cons l ls ih =>
    cases ls with
    | nil => simp [line_eq]
    | cons l' ls =>
      rw [List.foldl_cons, ih _ (by simp), line_eq]
      simp [endLine, indentation, List.intercalate_cons_cons, ← String.toList_inj]

theorem rebroken_intercalate {depth : Nat} {sep : String} (hh : ∃ c ∈ sep.toList.head?, c ≠ '\n')
    (hl : sep.toList.getLast? ≠ some '\r') (items : List String) :
    rebroken depth (sep.intercalate items) =
      (rebroken depth sep).intercalate (items.map (rebroken depth)) := by
  induction items with
  | nil => rfl
  | cons t items ih =>
    cases items with
    | nil => simp
    | cons t' items =>
      rw [String.intercalate_cons_cons, List.map_cons, List.map_cons, String.intercalate_cons_cons,
        ← List.map_cons, ← ih, String.append_assoc, rebroken_append, rebroken_append,
        String.append_assoc]
      · exact fun hr => absurd hr hl
      · obtain ⟨c, hc, hn⟩ := hh
        simp_all

theorem rebroken_commaLines (depth : Nat) (ts : List String) :
    rebroken depth (commaLines ts) =
      (",\n" ++ indentation depth).intercalate (ts.map (rebroken depth)) := by
  have hs : rebroken depth ",\n" = ",\n" ++ indentation depth := by
    simp [← String.toList_inj, Text.rebroken, indentation]
  rw [commaLines, rebroken_intercalate (by simp) (by simp), hs]

theorem exists_getLast?_commaLines {p : Char → Prop} {ts : List String} (hne : ts ≠ [])
    (h : ∀ t ∈ ts, ∃ c ∈ t.toList.getLast?, p c) : ∃ c ∈ (commaLines ts).toList.getLast?, p c := by
  induction ts with
  | nil => exact absurd rfl hne
  | cons t ts ih =>
    obtain ⟨ht, hr⟩ := List.forall_mem_cons.1 h
    cases ts with
    | nil => simpa [commaLines] using ht
    | cons t' ts =>
      obtain ⟨c, hc, hp⟩ := ih (by simp) hr
      rw [commaLines, Option.mem_def] at hc
      refine ⟨c, ?_, hp⟩
      rw [commaLines, String.intercalate_cons_cons, String.toList_append, List.getLast?_append, hc]
      rfl

end Script

namespace Action

/-- Between lines at some depth, the actions add the text and end between lines. -/
def Adds (depth : Nat) (actions : List Action) (added : String) : Prop :=
  ∀ text, runAll? actions { text, depth } = some (.ok (), { text := text ++ added, depth })

/-- Between lines, the actions add text without quotes and end between lines. -/
def Unquoted (actions : List Action) : Prop :=
  ∀ depth, ∃ added, Adds depth actions added ∧ '\'' ∉ added.toList

section
variable {depth : Nat} {first rest body : List Action} {a b t : String}

theorem Adds.append (h : Adds depth first a) (h' : Adds depth rest b) :
    Adds depth (first ++ rest) (a ++ b) := by
  intro text
  rw [runAll?_append, h text]
  simpa [String.append_assoc] using h' (text ++ a)

theorem Adds.cons {action : Action} (h : Adds depth [action] a) (h' : Adds depth rest b) :
    Adds depth (action :: rest) (a ++ b) := h.append h'

theorem Adds.indented {levels : Nat} (h : Adds (depth + levels) body a) :
    Adds depth [.indented levels body] a := by
  intro text
  simp [runAll?, run?, h text]

theorem Adds.of_eq (h : Adds depth rest a) (hb : b = a) : Adds depth rest b := hb ▸ h

theorem adds_line (depth : Nat) (t : String) :
    Adds depth [.line t] (Script.indentation depth ++ t ++ "\n") := by
  intro text
  simp [runAll?, run?, Script.line_eq, Script.endLine]

theorem adds_lines (hne : t ≠ "") (hl : t.toList.getLast? ≠ some '\n') :
    Adds depth (Action.lines t)
      (Script.indentation depth ++ Script.rebroken depth t ++ "\n") := by
  intro text
  have h := Perform.lines t { text, depth }
  rw [Writing.run_emit, Script.lines_eq _ hne hl] at h
  exact h

theorem adds_keyword (depth : Nat) (k : Keyword) :
    Adds depth [.keyword k] (Script.indentation depth ++ k.text ++ "\n") :=
  adds_line depth k.text

theorem adds_endLine (depth : Nat) : Adds depth [.endLine] "" := by
  intro text
  simp [runAll?, run?, Script.endLine]

def providedText (depth : Nat) (condition body : String) : String :=
  Script.indentation depth ++ ("IF " ++ condition) ++ "\n" ++
    (Script.indentation depth ++ "BEGIN" ++ "\n" ++
      (body ++ (Script.indentation depth ++ "END" ++ "\n")))

theorem Adds.provided (condition : String) (h : Adds (depth + 1) body a) :
    Adds depth (Action.provided condition body) (providedText depth condition a) := by
  have hb : Adds (depth + 1) (body ++ [.endLine]) a :=
    (h.append (adds_endLine _)).of_eq (by simp)
  exact (adds_line depth _).cons ((adds_keyword depth (.opens .block)).cons
    (hb.indented.cons (adds_keyword depth (.closes .block))))

/-- What a writing adds to an empty page is its script. -/
theorem Perform.script_eq {w : Writing StatementError Unit} (h : Perform body w)
    (ha : Adds 0 body a) : w.script = .ok a := by
  have hr := (h {}).symm.trans (ha "")
  exact Writing.script_eq_ok_iff.2 ⟨_, Option.some.inj hr, by simp⟩

theorem adds_commaLines {ts : List String} (hne : ts ≠ [])
    (h : ∀ t ∈ ts, ∃ c ∈ t.toList.getLast?, c ≠ '\n') (depth : Nat) :
    Adds depth [.indented 1 (Action.lines (commaLines ts))]
      (Script.indentation (depth + 1) ++ Script.rebroken (depth + 1) (commaLines ts) ++ "\n") := by
  obtain ⟨c, hc, hn⟩ := Script.exists_getLast?_commaLines hne h
  have ht : commaLines ts ≠ "" := by
    intro ht
    simp [ht] at hc
  have hl : (commaLines ts).toList.getLast? ≠ some '\n' := by
    rw [hc]
    simpa using hn
  exact (adds_lines ht hl).indented

theorem unquoted_nil : Unquoted [] := fun _ => ⟨"", fun text => by simp [runAll?], by simp⟩

theorem unquoted_line (h : '\'' ∉ t.toList) : Unquoted [.line t] :=
  fun depth => ⟨_, adds_line depth t, by simp [h, Script.indentation]⟩

theorem Unquoted.append (h : Unquoted first) (h' : Unquoted rest) : Unquoted (first ++ rest) := by
  intro depth
  obtain ⟨a, ha, hqa⟩ := h depth
  obtain ⟨b, hb, hqb⟩ := h' depth
  exact ⟨_, ha.append hb, by simp [hqa, hqb]⟩

theorem Unquoted.cons {action : Action} (h : Unquoted [action]) (h' : Unquoted rest) :
    Unquoted (action :: rest) := h.append h'

theorem Unquoted.indented (h : Unquoted body) (levels : Nat) :
    Unquoted [.indented levels body] := by
  intro depth
  obtain ⟨a, ha, hq⟩ := h (depth + levels)
  exact ⟨a, ha.indented, hq⟩

theorem runAll?_line_endLine (s : Script) :
    runAll? (.line t :: rest) s =
      runAll? (.line t :: rest) { text := s.endLine.text, depth := s.depth } := by
  simp [runAll?, run?, Script.line_eq, Script.endLine]

end
end Action

end GridQuery
