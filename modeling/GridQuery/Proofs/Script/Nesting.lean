import GridQuery.Proofs.Script.Continued

/-! # The lines of blocks

A block writes lines of its own around its bodies: it opens and closes them, and stands between
two of them. Each of these lines fills a line of the script whatever the bodies leave open, each
body is closed at the depth at which it was opened, and what belongs together stands directly one
below the other. -/

namespace GridQuery

/-- A line that a block has written itself: how deep it stands, and where it starts. -/
structure KeywordLine where
  keyword : Keyword
  depth : Nat
  start : Nat

namespace KeywordLine
variable (m : KeywordLine)

def text : String := Script.indentation m.depth ++ m.keyword.text ++ "\n"

def stop : Nat := m.start + m.text.length

def entry : Keyword × Nat := (m.keyword, m.depth)

/-- The script has the line at its place, from the start of a line on. -/
def StandsIn (script : String) : Prop :=
  ∃ before behind, script.toList = before ++ (m.text.toList ++ behind) ∧
    before.length = m.start ∧ (before = [] ∨ before.getLast? = some '\n')

theorem StandsIn.mono {m : KeywordLine} {t u : String} (h : m.StandsIn t)
    (hp : t.toList <+: u.toList) : m.StandsIn u := by
  obtain ⟨before, behind, ht, hs⟩ := h
  obtain ⟨more, hu⟩ := hp
  exact ⟨before, behind ++ more, by simp [← hu, ht], hs⟩

theorem StandsIn.stop_le {m : KeywordLine} {t : String} (h : m.StandsIn t) :
    m.stop ≤ t.length := by
  obtain ⟨before, behind, ht, hs, -⟩ := h
  have hl := congrArg List.length ht
  simp only [String.length_toList, List.length_append] at hl
  rw [stop]
  omega

/-- The lines of a part that is opened and closed at some depth, and those of its body. -/
def enclosing (e : Enclosure) (depth start stop : Nat) (body : List KeywordLine) :
    List KeywordLine :=
  ⟨.opens e, depth, start⟩ :: (body ++ [⟨.closes e, depth, stop⟩])

/-- Reads lines with some parts open, the innermost first. A line closes the innermost part, at
the depth at which it was opened, and in the end no part is open. -/
def closesAll : List (Enclosure × Nat) → List KeywordLine → Bool
  | opened, [] => opened.isEmpty
  | opened, m :: rest =>
    match m.keyword, opened with
    | .opens e, opened => closesAll ((e, m.depth) :: opened) rest
    | .closes e, innermost :: outer => decide (innermost = (e, m.depth)) && closesAll outer rest
    | .closes _, [] => false
    | .otherwise, opened => closesAll opened rest

/-- A handler starts directly below the end of what it handles, and an alternative stands directly
between two blocks of its depth. -/
def JoinedIn (ms : List KeywordLine) : Prop :=
  (m.keyword = .opens .handler →
    ∃ p ∈ ms, p.entry = (.closes .attempt, m.depth) ∧ p.stop = m.start) ∧
  (m.keyword = .otherwise →
    (∃ p ∈ ms, p.entry = (.closes .block, m.depth) ∧ p.stop = m.start) ∧
    ∃ q ∈ ms, q.entry = (.opens .block, m.depth) ∧ q.start = m.stop)

section JoinedIn
variable {m : KeywordLine} {ms ns body : List KeywordLine} {e : Enclosure} {d i j : Nat}

theorem JoinedIn.mono (h : m.JoinedIn ms) (hs : ms ⊆ ns) : m.JoinedIn ns := by
  refine ⟨fun hm => ?_, fun hm => ?_⟩
  · obtain ⟨p, hp, h⟩ := h.1 hm
    exact ⟨p, hs hp, h⟩
  · obtain ⟨⟨p, hp, h₁⟩, q, hq, h₂⟩ := h.2 hm
    exact ⟨⟨p, hs hp, h₁⟩, q, hs hq, h₂⟩

theorem mem_enclosing :
    m ∈ enclosing e d i j body ↔ m = ⟨.opens e, d, i⟩ ∨ m ∈ body ∨ m = ⟨.closes e, d, j⟩ := by
  simp [enclosing]

theorem joinedIn_enclosing (hb : ∀ m ∈ body, m.JoinedIn body)
    (hs : enclosing e d i j body ⊆ ms) (ho : JoinedIn ⟨.opens e, d, i⟩ ms) :
    ∀ m ∈ enclosing e d i j body, m.JoinedIn ms := by
  intro m hm
  obtain rfl | hm | rfl := mem_enclosing.1 hm
  · exact ho
  · exact (hb m hm).mono fun m hm => hs (mem_enclosing.2 (.inr (.inl hm)))
  · exact ⟨nofun, nofun⟩

theorem joinedIn_opens (he : e ≠ .handler) : JoinedIn ⟨.opens e, d, i⟩ ms :=
  ⟨fun h => absurd (Keyword.opens.inj h) he, nofun⟩

end JoinedIn
end KeywordLine

open KeywordLine

/-- The lines nest: blocks hold the lines of their bodies, and those that belong together follow
each other without anything between them. -/
inductive Nested : List KeywordLine → Prop where
  | nil : Nested []
  | append {first rest : List KeywordLine} : Nested first → Nested rest → Nested (first ++ rest)
  | block {body : List KeywordLine} (d i j : Nat) : Nested body →
      Nested (enclosing .block d i j body)
  | attempted {body handler : List KeywordLine} (d i j k l : Nat) : Nested body → Nested handler →
      stop ⟨.closes .attempt, d, j⟩ = k →
      Nested (enclosing .attempt d i j body ++ enclosing .handler d k l handler)
  | decided {yes no : List KeywordLine} (d i j k l m : Nat) : Nested yes → Nested no →
      stop ⟨.closes .block, d, j⟩ = k → l = stop ⟨.otherwise, d, k⟩ →
      Nested (enclosing .block d i j yes ++ ⟨.otherwise, d, k⟩ :: enclosing .block d l m no)

theorem Script.Continues.length_le {s after : Script} (h : s.Continues after) :
    s.text.length ≤ after.text.length := by
  simpa only [String.length_toList] using h.text.length_le

namespace Nested
variable {ms : List KeywordLine}

theorem closesAll_append (h : Nested ms) (opened : List (Enclosure × Nat))
    (rest : List KeywordLine) : closesAll opened (ms ++ rest) = closesAll opened rest := by
  -- a body is read with its own part open, and in front of the line that closes it
  induction h generalizing opened rest with
  | nil => rfl
  | append _ _ ih₁ ih₂ => rw [List.append_assoc, ih₁, ih₂]
  | block d i j _ ih => simp [enclosing, closesAll, ih]
  | attempted d i j k l _ _ _ ih₁ ih₂ => simp [enclosing, closesAll, ih₁, ih₂]
  | decided d i j k l m _ _ _ _ ih₁ ih₂ => simp [enclosing, closesAll, ih₁, ih₂]

theorem balanced (h : Nested ms) : closesAll [] ms = true := by
  rw [← List.append_nil ms, h.closesAll_append]
  rfl

theorem joinedIn (h : Nested ms) : ∀ m ∈ ms, m.JoinedIn ms := by
  induction h with
  | nil => nofun
  | append _ _ ih₁ ih₂ =>
    intro m hm
    obtain hm | hm := List.mem_append.1 hm
    · exact (ih₁ m hm).mono (List.subset_append_left _ _)
    · exact (ih₂ m hm).mono (List.subset_append_right _ _)
  | block d i j _ ih =>
    exact joinedIn_enclosing ih (List.Subset.refl _) (joinedIn_opens (by decide))
  | attempted d i j k l _ _ hk ih₁ ih₂ =>
    intro m hm
    obtain hm | hm := List.mem_append.1 hm
    · exact joinedIn_enclosing ih₁ (List.subset_append_left _ _) (joinedIn_opens (by decide)) m hm
    · refine joinedIn_enclosing ih₂ (List.subset_append_right _ _) ⟨fun _ => ?_, nofun⟩ m hm
      exact ⟨⟨.closes .attempt, d, j⟩, by simp [enclosing], rfl, hk⟩
  | decided d i j k l m _ _ hk hl ih₁ ih₂ =>
    intro m hm
    obtain hm | hm := List.mem_append.1 hm
    · exact joinedIn_enclosing ih₁ (List.subset_append_left _ _) (joinedIn_opens (by decide)) m hm
    · obtain rfl | hm := List.mem_cons.1 hm
      · refine ⟨nofun, fun _ => ⟨?_, ?_⟩⟩
        · exact ⟨⟨.closes .block, d, j⟩, by simp [enclosing], rfl, hk⟩
        · exact ⟨⟨.opens .block, d, l⟩, by simp [enclosing], rfl, hl⟩
      · refine joinedIn_enclosing ih₂ (fun m hm => ?_) (joinedIn_opens (by decide)) m hm
        exact List.mem_append_right _ (List.mem_cons_of_mem _ hm)

end Nested

structure WellNested (script : String) (ms : List KeywordLine) : Prop where
  whole : ∀ m ∈ ms, m.StandsIn script
  ordered : ms.Pairwise fun p m => p.stop ≤ m.start
  balanced : closesAll [] ms = true
  joined : ∀ m ∈ ms, m.JoinedIn ms

namespace Action

mutual

/-- The lines of blocks that an action writes to a script. -/
def keywordLines : Action → Script → List KeywordLine
  | keyword k, s => [⟨k, s.depth, s.endLine.text.length⟩]
  | indented levels body, s => allKeywordLines body { s with depth := s.depth + levels }
  | _, _ => []

def allKeywordLines : List Action → Script → List KeywordLine
  | [], _ => []
  | action :: rest, s =>
    action.keywordLines s ++
      match action.run? s with
      | some (.ok _, after) => allKeywordLines rest after
      | _ => []

end

/-- The actions succeed, and write the lines of blocks on the way. -/
structure Marks (actions : List Action) (s : Script) (ms : List KeywordLine) (after : Script) :
    Prop where
  run : runAll? actions s = some (.ok (), after)
  lines : allKeywordLines actions s = ms

section Marks
variable {first rest body : List Action} {s after : Script} {ms : List KeywordLine}

theorem Marks.continues (h : Marks body s ms after) : s.Continues after := by
  obtain ⟨result, after', hr, hc⟩ := exists_runAll? body s
  cases hr.symm.trans h.run
  exact hc

theorem allKeywordLines_append :
    allKeywordLines (first ++ rest) s =
      allKeywordLines first s ++
        match runAll? first s with
        | some (.ok _, after) => allKeywordLines rest after
        | _ => [] := by
  induction first generalizing s with
  | nil => rfl
  | cons action first ih =>
    simp only [List.cons_append, allKeywordLines, runAll?, List.append_assoc]
    rcases action.run? s with _ | ⟨_ | _, after⟩
    · rfl
    · rfl
    · simp only [ih]

theorem marks_append_iff : Marks (first ++ rest) s ms after ↔
    ∃ middle ms₁ ms₂, Marks first s ms₁ middle ∧ Marks rest middle ms₂ after ∧
      ms = ms₁ ++ ms₂ := by
  constructor
  · rintro ⟨hr, rfl⟩
    rw [runAll?_append] at hr
    rw [allKeywordLines_append]
    rcases hf : runAll? first s with _ | ⟨_ | _, middle⟩
    · simp [hf] at hr
    · simp [hf] at hr
    · rw [hf] at hr
      exact ⟨middle, _, _, ⟨hf, rfl⟩, ⟨hr, rfl⟩, rfl⟩
  · rintro ⟨middle, ms₁, ms₂, ⟨hf, rfl⟩, ⟨hr, rfl⟩, rfl⟩
    refine ⟨?_, by rw [allKeywordLines_append, hf]⟩
    rw [runAll?_append, hf]
    exact hr

theorem marks_cons_iff {action : Action} : Marks (action :: rest) s ms after ↔
    ∃ middle ms₁ ms₂, Marks [action] s ms₁ middle ∧ Marks rest middle ms₂ after ∧
      ms = ms₁ ++ ms₂ :=
  @marks_append_iff [action] rest s after ms

theorem marks_keyword_iff {k : Keyword} : Marks [keyword k] s ms after ↔
    ms = [⟨k, s.depth, s.endLine.text.length⟩] ∧ after = s.line k.text := by
  constructor
  · rintro ⟨hr, rfl⟩
    simp only [runAll?, run?, Option.some.injEq, Prod.mk.injEq, true_and] at hr
    exact ⟨rfl, hr.symm⟩
  · rintro ⟨rfl, rfl⟩
    exact ⟨rfl, rfl⟩

theorem Marks.of_indented {levels : Nat} (h : Marks [indented levels body] s ms after) :
    ∃ inner, Marks body { s with depth := s.depth + levels } ms inner ∧
      after = { inner with depth := inner.depth - levels } := by
  obtain ⟨hr, rfl⟩ := h
  obtain ⟨result, inner, hb, hc⟩ := exists_runAll? body { s with depth := s.depth + levels }
  simp only [runAll?, run?, hb, hc.deeper.1, if_true] at hr
  cases result with
  | error e => simp at hr
  | ok =>
    simp only [Option.some.injEq, Prod.mk.injEq, true_and] at hr
    refine ⟨inner, ⟨hb, ?_⟩, hr.symm⟩
    simp [allKeywordLines, keywordLines, run?, hb, hc.deeper.1]

theorem stop_line (s : Script) (k : Keyword) :
    stop ⟨k, s.depth, s.endLine.text.length⟩ = (s.line k.text).text.length := by
  simp [stop, KeywordLine.text, Script.text_line, Nat.add_assoc]

theorem Marks.of_enclosed {e : Enclosure} (h : Marks (enclosed e body) s ms after) :
    ∃ inner middle ns j, Marks body inner ns middle ∧ inner.depth = s.depth + 1 ∧
      ms = enclosing e s.depth s.endLine.text.length j ns ∧
      stop ⟨.closes e, s.depth, j⟩ = after.text.length ∧ after.lineOpen = false := by
  obtain ⟨s₁, _, _, ho, h, rfl⟩ := marks_cons_iff.1 h
  obtain ⟨rfl, rfl⟩ := marks_keyword_iff.1 ho
  obtain ⟨s₂, _, _, hi, hc, rfl⟩ := marks_cons_iff.1 h
  obtain ⟨rfl, rfl⟩ := marks_keyword_iff.1 hc
  have hd : s₂.depth = s.depth := by simpa using hi.continues.depth
  obtain ⟨s₃, hi, -⟩ := hi.of_indented
  obtain ⟨middle, ns, ns', hb, ⟨-, hn⟩, rfl⟩ := marks_append_iff.1 hi
  obtain rfl : ns' = [] := hn.symm
  refine ⟨_, middle, ns, s₂.endLine.text.length, hb, by simp, ?_, ?_, by simp⟩
  · simp [enclosing, hd]
  · rw [← hd, stop_line]

end Marks

/-- Actions that succeed write lines of blocks that nest, and these lines at each depth. -/
def Nests (actions : List Action) (entries : Nat → List (Keyword × Nat)) : Prop :=
  ∀ s ms after, Marks actions s ms after → Nested ms ∧ ms.map entry = entries s.depth

def around (e : Enclosure) (depth : Nat) (body : List (Keyword × Nat)) : List (Keyword × Nat) :=
  (.opens e, depth) :: (body ++ [(.closes e, depth)])

theorem map_entry_enclosing (e : Enclosure) (d i j : Nat) (body : List KeywordLine) :
    (enclosing e d i j body).map entry = around e d (body.map entry) := by
  simp [enclosing, around, entry]

def Unmarked (actions : List Action) : Prop := ∀ s, allKeywordLines actions s = []

section Nests
variable {first rest body : List Action} {ks ks' : Nat → List (Keyword × Nat)}

theorem unmarked_nil : Unmarked [] := fun _ => rfl

theorem Unmarked.append (h : Unmarked first) (h' : Unmarked rest) : Unmarked (first ++ rest) := by
  intro s
  rw [allKeywordLines_append, h s, List.nil_append]
  split
  · exact h' _
  · rfl

theorem Unmarked.cons {action : Action} (h : Unmarked [action]) (h' : Unmarked rest) :
    Unmarked (action :: rest) := h.append h'

theorem unmarked_line (t : String) : Unmarked [line t] := fun _ => rfl

theorem unmarked_lines (t : String) : Unmarked (Action.lines t) := by
  rw [Action.lines]
  induction Text.lines t.toList with
  | nil => exact unmarked_nil
  | cons l ls ih => exact (unmarked_line (String.ofList l)).append ih

theorem Unmarked.indented (h : Unmarked body) (levels : Nat) : Unmarked [indented levels body] := by
  intro s
  have hs := h { s with depth := s.depth + levels }
  rw [allKeywordLines, keywordLines, hs, List.nil_append]
  split <;> rfl

theorem Unmarked.nests (h : Unmarked body) : Nests body fun _ => [] := by
  rintro s _ after ⟨-, rfl⟩
  rw [h s]
  exact ⟨.nil, rfl⟩

theorem Nests.append (h : Nests first ks) (h' : Nests rest ks') :
    Nests (first ++ rest) fun d => ks d ++ ks' d := by
  intro s ms after hm
  obtain ⟨middle, ms₁, ms₂, h₁, h₂, rfl⟩ := marks_append_iff.1 hm
  obtain ⟨hn₁, hk₁⟩ := h _ _ _ h₁
  obtain ⟨hn₂, hk₂⟩ := h' _ _ _ h₂
  refine ⟨hn₁.append hn₂, ?_⟩
  rw [List.map_append, hk₁, hk₂, h₁.continues.depth]

theorem Nests.indented (h : Nests body ks) (levels : Nat) :
    Nests [indented levels body] fun d => ks (d + levels) := by
  intro s ms after hm
  obtain ⟨inner, hb, -⟩ := hm.of_indented
  exact h _ _ _ hb

theorem Nests.enclosed (h : Nests body ks) :
    Nests (enclosed .block body) fun d => around .block d (ks (d + 1)) := by
  intro s ms after hm
  obtain ⟨inner, middle, ns, j, hb, hd, rfl, -, -⟩ := hm.of_enclosed
  obtain ⟨hn, hk⟩ := h _ _ _ hb
  refine ⟨hn.block _ _ _, ?_⟩
  rw [map_entry_enclosing, hk, hd]

theorem endLine_of_closed {s : Script} (h : s.lineOpen = false) : s.endLine = s := by
  simp [Script.endLine, h]

theorem Nests.attempted (h : Nests body ks) (h' : Nests rest ks') :
    Nests (attempted body rest) fun d =>
      around .attempt d (ks (d + 1)) ++ around .handler d (ks' (d + 1)) := by
  intro s ms after hm
  obtain ⟨middle, _, _, h₁, h₂, rfl⟩ := marks_append_iff.1 hm
  have hd := h₁.continues.depth
  obtain ⟨_, _, ns, j, hb, hdb, rfl, hj, hl⟩ := h₁.of_enclosed
  obtain ⟨_, _, ns', j', hb', hdb', rfl, -, -⟩ := h₂.of_enclosed
  obtain ⟨hn, hk⟩ := h _ _ _ hb
  obtain ⟨hn', hk'⟩ := h' _ _ _ hb'
  rw [endLine_of_closed hl, hd]
  refine ⟨hn.attempted _ _ _ _ _ hn' hj, ?_⟩
  rw [List.map_append, map_entry_enclosing, map_entry_enclosing, hk, hk', hdb, hdb', hd]

theorem Nests.provided (h : Nests body ks) (condition : String) :
    Nests (provided condition body) fun d => around .block d (ks (d + 1)) :=
  (unmarked_line ("IF " ++ condition)).nests.append h.enclosed

theorem Nests.decided (h : Nests body ks) (h' : Nests rest ks') (condition : String) :
    Nests (decided condition body rest) fun d =>
      around .block d (ks (d + 1)) ++ (.otherwise, d) :: around .block d (ks' (d + 1)) := by
  intro s ms after hm
  obtain ⟨s₁, _, _, hy, hn, rfl⟩ := marks_append_iff.1 hm
  obtain ⟨s₀, ms₀, _, h₀, h₁, rfl⟩ := marks_cons_iff.1 hy
  obtain rfl : ms₀ = [] := h₀.lines.symm.trans (unmarked_line _ s)
  obtain ⟨s₂, _, _, ho, h₂, rfl⟩ := marks_cons_iff.1 hn
  obtain ⟨rfl, rfl⟩ := marks_keyword_iff.1 ho
  have hd₀ := h₀.continues.depth
  have hd₁ := h₁.continues.depth
  obtain ⟨_, _, ns, j, hb, hdb, rfl, hj, hl⟩ := h₁.of_enclosed
  obtain ⟨_, _, ns', j', hb', hdb', rfl, -, -⟩ := h₂.of_enclosed
  obtain ⟨hn, hk⟩ := h _ _ _ hb
  obtain ⟨hn', hk'⟩ := h' _ _ _ hb'
  -- the first block ends at the start of a line, so the alternative stands right below it
  have hs : stop ⟨.otherwise, s₁.depth, s₁.text.length⟩ =
      (s₁.line Keyword.otherwise.text).text.length := by
    rw [← stop_line, endLine_of_closed hl]
  rw [endLine_of_closed hl, endLine_of_closed (Script.lineOpen_line _ _), Script.depth_line, hd₁]
  rw [hd₁] at hs
  refine ⟨hn.decided _ _ _ _ _ _ hn' hj hs.symm, ?_⟩
  rw [Script.depth_line, hd₁] at hdb'
  simp [map_entry_enclosing, hk, hk', hdb, hdb', hd₀, entry]

theorem nests_of_run_error {e : StatementError} (h : ∀ s, runAll? body s = some (.error e, s)) :
    Nests body ks := by
  intro s ms after hm
  cases (h s).symm.trans hm.run

end Nests

/-- Lines of blocks have their places in what a script has become, behind what it was. -/
structure Placed (s : Script) (ms : List KeywordLine) (after : Script) : Prop where
  whole : ∀ m ∈ ms, m.StandsIn after.text
  start_le : ∀ m ∈ ms, s.text.length ≤ m.start
  ordered : ms.Pairwise fun p m => p.stop ≤ m.start

section Placed
variable {s middle after : Script} {ms ns : List KeywordLine}

theorem placed_nil : Placed s [] after := ⟨nofun, nofun, .nil⟩

theorem Placed.append (h : Placed s ms middle) (h' : Placed middle ns after)
    (hs : s.Continues middle) (hm : middle.Continues after) : Placed s (ms ++ ns) after := by
  have hw (m : KeywordLine) (hm' : m ∈ ms) : m.StandsIn after.text := (h.whole m hm').mono hm.text
  refine ⟨?_, ?_, List.pairwise_append.2 ⟨h.ordered, h'.ordered, fun p hp m hm => ?_⟩⟩
  · simpa [or_imp, forall_and] using ⟨hw, h'.whole⟩
  · intro m hm
    obtain hm | hm := List.mem_append.1 hm
    · exact h.start_le m hm
    · exact Nat.le_trans hs.length_le (h'.start_le m hm)
  · exact Nat.le_trans (h.whole p hp).stop_le (h'.start_le m hm)

theorem placed_keyword (k : Keyword) (hl : s.LineEnds) :
    Placed s [⟨k, s.depth, s.endLine.text.length⟩] (s.line k.text) := by
  refine ⟨?_, ?_, List.pairwise_singleton ..⟩
  · rintro m hm
    obtain rfl := List.mem_singleton.1 hm
    refine ⟨s.endLine.text.toList, [], ?_, String.length_toList, ?_⟩
    · simp [Script.text_line, KeywordLine.text]
    · simpa using s.continues_endLine.lineEnds hl (Script.lineOpen_endLine s)
  · rintro m hm
    obtain rfl := List.mem_singleton.1 hm
    exact s.continues_endLine.length_le

mutual

/-- The lines of blocks that an action writes fill lines of the script, one behind the other. -/
theorem placed_keywordLines : (action : Action) → (s after : Script) → s.LineEnds →
    action.run? s = some (.ok (), after) → Placed s (action.keywordLines s) after
  | keyword k, s, after, hl, h => by
    simp only [run?, Option.some.injEq, Prod.mk.injEq, true_and] at h
    exact h ▸ placed_keyword k hl
  | indented levels body, s, after, hl, h => by
    have hm : Marks [indented levels body] s _ after := ⟨by simp [runAll?, h], rfl⟩
    obtain ⟨inner, ⟨hr, hls⟩, rfl⟩ := hm.of_indented
    have hb := placed_allKeywordLines body { s with depth := s.depth + levels } inner hl hr
    exact ⟨hb.whole, hb.start_le, hb.ordered⟩
  | line _, _, _, _, _ | literal _, _, _, _, _ | start _, _, _, _, _ | endLine, _, _, _, _
  | blankLine, _, _, _, _ | showDepth, _, _, _, _ | fail _, _, _, _, _ => placed_nil

theorem placed_allKeywordLines : (actions : List Action) → (s after : Script) → s.LineEnds →
    runAll? actions s = some (.ok (), after) → Placed s (allKeywordLines actions s) after
  | [], _, _, _, _ => placed_nil
  | action :: rest, s, after, hl, h => by
    obtain ⟨result, middle, hr, hc⟩ := exists_run? action s
    simp only [runAll?, hr] at h
    cases result with
    | error e => simp at h
    | ok =>
      have ha := placed_keywordLines action s middle hl hr
      have hm : Marks rest middle _ after := ⟨h, rfl⟩
      have hb := placed_allKeywordLines rest middle after (hc.lineEnds hl) h
      rw [allKeywordLines, hr]
      exact ha.append hb hc hm.continues

end

end Placed
end Action

open GridQuery.Action

theorem CreateTable.nests_actions (t : CreateTable) :
    Nests t.actions fun d => around .block d [] := by
  rw [actions]
  cases t.items with
  | error e => exact nests_of_run_error fun _ => rfl
  | ok items =>
    exact Nests.provided (Unmarked.nests (.cons (unmarked_line _)
      (.cons ((unmarked_lines _).indented 1) (unmarked_line _)))) _

theorem AddColumn.nests_actions (a : AddColumn) :
    Nests a.actions fun d => around .block d [] := by
  rw [actions]
  cases a.column.definition with
  | error e => exact nests_of_run_error fun _ => rfl
  | ok definition => exact (unmarked_line _).nests.provided _

theorem Upsert.nests_actions (u : Upsert) : Nests u.actions fun _ => [] := by
  rw [actions]
  cases u.rowTexts with
  | error e => exact nests_of_run_error fun _ => rfl
  | ok rows =>
    have hi (t : String) : Unmarked [indented 1 [line t]] := (unmarked_line t).indented 1
    have hu : Unmarked u.updateActions := by
      unfold updateActions
      split
      · exact unmarked_nil
      · exact .cons (unmarked_line _) (hi _)
    have hr : Unmarked [indented 1 (Action.lines (commaLines rows))] :=
      (unmarked_lines _).indented 1
    exact Unmarked.nests (.append (.append (.cons (unmarked_line _) (.cons (unmarked_line _)
      (.cons hr (.cons (unmarked_line _) (unmarked_line _))))) hu)
      (.cons (unmarked_line _) (hi _)))

namespace Step

mutual

/-- The lines that the blocks of a step write themselves, from some depth on: what they say and
how deep they stand. -/
def keywords : Step → Nat → List (Keyword × Nat)
  | indented levels body, d => allKeywords body (d + levels)
  | block body, d | ifBlock _ body, d => around .block d (allKeywords body (d + 1))
  | tryCatch attempt handler, d =>
    around .attempt d (allKeywords attempt (d + 1)) ++
      around .handler d (allKeywords handler (d + 1))
  | ifElse _ yes no, d | ifObjectExists _ _ _ yes no, d =>
    around .block d (allKeywords yes (d + 1)) ++
      (.otherwise, d) :: around .block d (allKeywords no (d + 1))
  | transaction body, d => around .attempt d (allKeywords body (d + 1)) ++ around .handler d []
  | createTable _, d | addColumn _, d => around .block d []
  | _, _ => []

def allKeywords : List Step → Nat → List (Keyword × Nat)
  | [], _ => []
  | step :: rest, d => step.keywords d ++ allKeywords rest d

end

mutual

theorem nests_actions : (step : Step) → Nests step.actions step.keywords
  | .line t => (unmarked_line t).nests
  | .lines t => (unmarked_lines t).nests
  | .literal _ | .start _ | .endLine | .blankLine | .showDepth =>
    Unmarked.nests fun _ => rfl
  | .fail _ => nests_of_run_error fun _ => rfl
  | .indented levels body => (nests_allActions body).indented levels
  | .block body => (nests_allActions body).enclosed
  | .tryCatch attempt handler => (nests_allActions attempt).attempted (nests_allActions handler)
  | .ifBlock condition body => (nests_allActions body).provided condition
  | .ifElse condition yes no =>
    (nests_allActions yes).decided (nests_allActions no) condition
  | .transaction body => by
    have hl (t : String) : Nests [.line t] fun _ => [] := (unmarked_line t).nests
    have hb := (nests_allActions body).append (hl "COMMIT TRANSACTION;")
    have hu : Unmarked undone :=
      .cons (unmarked_line _) (.cons ((unmarked_line _).indented 1) (unmarked_line _))
    have ht := (hl "BEGIN TRANSACTION;").append (hb.attempted hu.nests)
    simp only [List.append_nil, List.nil_append] at ht
    exact ht
  | .ifObjectExists _ _ _ yes no => (nests_allActions yes).decided (nests_allActions no) _
  | .createTable t => t.nests_actions
  | .addColumn a => a.nests_actions
  | .upsert u => u.nests_actions

theorem nests_allActions : (steps : List Step) → Nests (allActions steps) (allKeywords steps)
  | [] => unmarked_nil.nests
  | step :: rest => (nests_actions step).append (nests_allActions rest)

end

/-- A program that ends well leaves a script in which the lines of its blocks, of which there is
one for each place in the program where a block opens, closes or turns to its alternative, nest
and fill lines of their own at the depth of that place. -/
theorem wellNested_writeAll {steps : List Step} {text : String}
    (h : (writeAll steps).script = .ok text) :
    ∃ after, runAll? (allActions steps) {} = some (.ok (), after) ∧ after.text = text ∧
      WellNested text (allKeywordLines (allActions steps) {}) ∧
      (allKeywordLines (allActions steps) {}).map entry = allKeywords steps 0 := by
  obtain ⟨after, hr, rfl⟩ := Writing.script_eq_ok_iff.1 h
  have hp := (perform_allActions steps {}).trans (congrArg some hr)
  obtain ⟨hw, -, ho⟩ := placed_allKeywordLines _ {} after (fun _ => .inl rfl) hp
  obtain ⟨hn, hk⟩ := nests_allActions steps {} _ after ⟨hp, rfl⟩
  exact ⟨after, hp, rfl, ⟨hw, ho, hn.balanced, hn.joinedIn⟩, hk⟩

def straggling : List Step :=
  [.literal "PRINT 1;", .transaction [
    .ifElse "@@ROWCOUNT = 0" [.literal "PRINT 2;"] [.start "END", .block []],
    .indented 2 [.ifBlock "1 = 1" [.literal "BEGIN\nEND"], .start "PRINT 3;"]]]

theorem wellNested_writeAll_straggling :
    ∃ text ms, (writeAll straggling).script = .ok text ∧ WellNested text ms ∧
      ms.map entry =
        [(.opens .attempt, 0),
          (.opens .block, 1), (.closes .block, 1), (.otherwise, 1),
          (.opens .block, 1), (.opens .block, 2), (.closes .block, 2), (.closes .block, 1),
          (.opens .block, 3), (.closes .block, 3),
          (.closes .attempt, 0), (.opens .handler, 0), (.closes .handler, 0)] := by
  obtain ⟨after, hr⟩ := runAll?_of_sure (allActions straggling) {} rfl
  have hp := (perform_allActions straggling {}).symm.trans hr
  have h := Writing.script_eq_ok_iff.2 ⟨after, Option.some.inj hp, rfl⟩
  obtain ⟨-, -, -, hw, hk⟩ := wellNested_writeAll h
  exact ⟨_, _, h, hw, hk⟩

end Step
end GridQuery
