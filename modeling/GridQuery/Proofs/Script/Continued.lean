import GridQuery.Proofs.Script.Action

/-! # Programs continue a script

Whatever a program of steps writes, and wherever it fails, it gives back the depth it found and
only appends to the text. A script whose line is closed stands at the start of a line before and
after. No body gives back more depth than there is. -/

namespace GridQuery

namespace Script

/-- A closed line leaves the script empty or at the start of a line. -/
def LineEnds (s : Script) : Prop :=
  s.lineOpen = false → s.text = "" ∨ s.text.toList.getLast? = some '\n'

/-- The script goes on as `after`: at the same depth, with the same text in front. -/
structure Continues (s after : Script) : Prop where
  depth : after.depth = s.depth
  text : s.text.toList <+: after.text.toList
  lineEnds : s.LineEnds → after.LineEnds

theorem lineEnds_of_open {s : Script} (h : s.lineOpen = true) : s.LineEnds := by
  intro hc
  simp [h] at hc

namespace Continues
variable {s after later : Script}

theorem refl (s : Script) : s.Continues s := ⟨rfl, List.prefix_refl _, id⟩

theorem trans (h : s.Continues after) (h' : after.Continues later) : s.Continues later :=
  ⟨h'.depth.trans h.depth, h.text.trans h'.text, h'.lineEnds ∘ h.lineEnds⟩

/-- Depth that a body takes and gives back does not show. -/
theorem deeper {levels : Nat} (h : { s with depth := s.depth + levels }.Continues after) :
    levels ≤ after.depth ∧ s.Continues { after with depth := after.depth - levels } := by
  have hd : after.depth = s.depth + levels := h.depth
  refine ⟨by omega, ?_, h.text, h.lineEnds⟩
  show after.depth - levels = s.depth
  omega

end Continues

variable (s : Script) (t : String)

theorem continues_literal : s.Continues (s.literal t) :=
  ⟨rfl, by simp, fun _ => lineEnds_of_open rfl⟩

theorem continues_endLine : s.Continues s.endLine := by
  refine ⟨by simp, by simp [text_endLine], fun h _ => ?_⟩
  cases ho : s.lineOpen
  · simpa [text_endLine, ho] using h ho
  · simp [text_endLine, ho]

theorem continues_startLine : s.Continues (s.startLine t) := by
  refine ⟨by simp, ?_, fun _ => lineEnds_of_open rfl⟩
  simpa [text_startLine] using s.continues_endLine.text.trans (List.prefix_append _ _)

theorem continues_line : s.Continues (s.line t) :=
  (s.continues_startLine t).trans (continues_endLine _)

theorem continues_blankLine : s.Continues s.blankLine := by
  refine ⟨by simp, ?_, fun _ _ => ?_⟩
  · simpa [text_blankLine] using s.continues_endLine.text.trans (List.prefix_append _ _)
  · simp [text_blankLine]

end Script

namespace Action

mutual

/-- An action gives its script back at the depth it found, with more text at the end. -/
theorem exists_run? : (action : Action) → (s : Script) →
    ∃ result after, action.run? s = some (result, after) ∧ s.Continues after
  | keyword k, s => ⟨_, _, rfl, s.continues_line k.text⟩
  | line t, s => ⟨_, _, rfl, s.continues_line t⟩
  | literal t, s => ⟨_, _, rfl, s.continues_literal t⟩
  | start t, s => ⟨_, _, rfl, s.continues_startLine t⟩
  | endLine, s => ⟨_, _, rfl, s.continues_endLine⟩
  | blankLine, s => ⟨_, _, rfl, s.continues_blankLine⟩
  | showDepth, s => ⟨_, _, rfl, s.continues_literal _⟩
  | fail e, s => ⟨_, _, rfl, .refl s⟩
  | indented levels body, s => by
    obtain ⟨result, after, hr, hc⟩ := exists_runAll? body { s with depth := s.depth + levels }
    obtain ⟨hd, hc⟩ := hc.deeper
    exact ⟨result, _, by simp [run?, hr, hd], hc⟩

theorem exists_runAll? : (actions : List Action) → (s : Script) →
    ∃ result after, runAll? actions s = some (result, after) ∧ s.Continues after
  | [], s => ⟨_, _, rfl, .refl s⟩
  | action :: rest, s => by
    obtain ⟨result, middle, hr, hc⟩ := exists_run? action s
    cases result with
    | error e => exact ⟨.error e, middle, by simp [runAll?, hr], hc⟩
    | ok =>
      obtain ⟨result, after, hr', hc'⟩ := exists_runAll? rest middle
      exact ⟨result, after, by simp [runAll?, hr, hr'], hc.trans hc'⟩

end

mutual

def isSure : Action → Bool
  | fail _ => false
  | indented _ body => allSure body
  | _ => true

def allSure : List Action → Bool
  | [] => true
  | action :: rest => action.isSure && allSure rest

end

mutual

theorem run?_of_sure : (action : Action) → (s : Script) → action.isSure = true →
    ∃ after, action.run? s = some (.ok (), after)
  | indented levels body, s, h => by
    obtain ⟨after, hr⟩ := runAll?_of_sure body { s with depth := s.depth + levels } h
    obtain ⟨_, _, hr', hc⟩ := exists_runAll? body { s with depth := s.depth + levels }
    cases hr'.symm.trans hr
    refine ⟨{ after with depth := after.depth - levels }, ?_⟩
    simp [run?, hr, hc.deeper.1]
  | keyword _, _, _ | line _, _, _ | literal _, _, _ | start _, _, _ | endLine, _, _
  | blankLine, _, _ | showDepth, _, _ => ⟨_, rfl⟩

theorem runAll?_of_sure : (actions : List Action) → (s : Script) → allSure actions = true →
    ∃ after, runAll? actions s = some (.ok (), after)
  | [], s, _ => ⟨s, rfl⟩
  | action :: rest, s, h => by
    obtain ⟨ha, hr⟩ := Bool.and_eq_true_iff.1 h
    obtain ⟨middle, ha⟩ := run?_of_sure action s ha
    obtain ⟨after, hr⟩ := runAll?_of_sure rest middle hr
    exact ⟨after, by simp [runAll?, ha, hr]⟩

end

theorem allSure_append (first rest : List Action) :
    allSure (first ++ rest) = (allSure first && allSure rest) := by
  induction first with
  | nil => rfl
  | cons action first ih => simp [allSure, ih, Bool.and_assoc]

theorem allSure_lines (t : String) : allSure (Action.lines t) = true := by
  rw [Action.lines]
  induction Text.lines t.toList with
  | nil => rfl
  | cons l ls ih => exact ih

theorem runAll?_append (first rest : List Action) (s : Script) :
    runAll? (first ++ rest) s =
      match runAll? first s with
      | some (.ok _, after) => runAll? rest after
      | other => other := by
  induction first generalizing s with
  | nil => rfl
  | cons action first ih =>
    simp only [List.cons_append, runAll?]
    rcases action.run? s with _ | ⟨_ | _, after⟩
    · rfl
    · rfl
    · exact ih after

/-- The actions do what the writing does, and the depth never falls below zero. -/
def Perform (actions : List Action) (w : Writing StatementError Unit) : Prop :=
  ∀ s, runAll? actions s = some (w.run.run s)

namespace Perform
variable {first rest body : List Action} {v w : Writing StatementError Unit}

theorem append (h : Perform first v) (h' : Perform rest w) :
    Perform (first ++ rest) (v >>= fun _ => w) := by
  intro s
  rw [runAll?_append, h s, Writing.run_bind]
  rcases v.run.run s with ⟨_ | _, after⟩
  · rfl
  · exact h' after

theorem cons {action : Action} (h : Perform [action] v) (h' : Perform rest w) :
    Perform (action :: rest) (v >>= fun _ => w) :=
  h.append h'

theorem indented (levels : Nat) (h : Perform body w) :
    Perform [.indented levels body] (Writing.indented levels w) := by
  intro s
  obtain ⟨result, after, hr, hc⟩ := exists_runAll? body { s with depth := s.depth + levels }
  have hw := h { s with depth := s.depth + levels }
  rw [hr, Option.some.injEq] at hw
  rw [Writing.run_indented, ← hw]
  cases result <;> simp [runAll?, run?, hr, hc.deeper.1]

theorem emit {action : Action} {f : Script → Script}
    (h : ∀ s, action.run? s = some (.ok (), f s)) : Perform [action] (Writing.emit f) := by
  intro s
  simp only [runAll?, h, Writing.run_emit]

theorem keyword (k : Keyword) : Perform [.keyword k] (Writing.emit (·.line k.text)) :=
  emit fun _ => rfl

theorem line (t : String) : Perform [.line t] (Writing.emit (·.line t)) := emit fun _ => rfl

theorem endLine : Perform [.endLine] (Writing.emit (·.endLine)) := emit fun _ => rfl

theorem lines (t : String) : Perform (Action.lines t) (Writing.emit (·.lines t)) := by
  intro s
  rw [Writing.run_emit, Action.lines, Script.lines]
  induction Text.lines t.toList generalizing s with
  | nil => rfl
  | cons l ls ih => exact ih (s.line (String.ofList l))

theorem enclosed (e : Enclosure) (h : Perform body w) :
    Perform (Action.enclosed e body) (do
      Writing.emit (·.line (Keyword.opens e).text)
      Writing.body w
      Writing.emit (·.line (Keyword.closes e).text)) :=
  cons (keyword _) (cons ((h.append endLine).indented 1) (keyword _))

theorem block (h : Perform body w) : Perform (Action.enclosed .block body) (Writing.block w) :=
  h.enclosed .block

theorem attempted (h : Perform body v) (h' : Perform rest w) :
    Perform (Action.attempted body rest) (Writing.tryCatch v w) := by
  have ht := (h.enclosed .attempt).append (h'.enclosed .handler)
  simp only [bind_assoc] at ht
  exact ht

theorem provided (condition : String) (h : Perform body w) :
    Perform (Action.provided condition body) (Writing.ifBlock condition w) :=
  cons (line _) h.block

theorem decided (condition : String) (h : Perform body v) (h' : Perform rest w) :
    Perform (Action.decided condition body rest) (Writing.ifElse condition v w) :=
  (h.provided condition).append (cons (keyword .otherwise) h'.block)

theorem transacted (h : Perform body w) :
    Perform (Action.transacted body) (Writing.transaction w) :=
  cons (line _) (attempted (h.append (line _))
    (cons (line _) (cons ((line _).indented 1) (line _))))

theorem ofExcept {α : Type} (x : Except StatementError α) {actions : α → List Action}
    {next : α → Writing StatementError Unit} (h : ∀ a, Perform (actions a) (next a)) :
    Perform (Action.ofExcept x actions) (liftM x >>= next) := by
  intro s
  cases x with
  | ok a => exact h a s
  | error e => rfl

end Perform
end Action

open GridQuery.Action

theorem CreateTable.perform_actions (t : CreateTable) : Perform t.actions t.write :=
  .ofExcept _ fun _ =>
    .provided _ (.cons (.line _) (.cons ((Perform.lines _).indented 1) (.line _)))

theorem AddColumn.perform_actions (a : AddColumn) : Perform a.actions a.write :=
  .ofExcept _ fun _ => .provided _ (.line _)

theorem Upsert.perform_actions (u : Upsert) : Perform u.actions u.write := by
  refine .ofExcept _ fun rows => ?_
  have hr := (Perform.lines (commaLines rows)).indented 1
  have hl (t : String) := (Perform.line t).indented 1
  cases hu : u.updated.isEmpty
  · simp only [Upsert.updateActions, hu]
    exact .cons (.line _) (.cons (.line _) (.cons hr (.cons (.line _) (.cons (.line _)
      (.cons (.line _) (.cons (hl _) (.cons (.line _) (hl _))))))))
  · simp only [Upsert.updateActions, hu]
    exact .cons (.line _) (.cons (.line _) (.cons hr (.cons (.line _) (.cons (.line _)
      (.cons (.line _) (hl _))))))

namespace Step
open Perform

mutual

/-- A step does what the actions it comes down to do. -/
theorem perform_actions : (step : Step) → Perform step.actions step.write
  | .line t => .line t
  | .lines t => .lines t
  | .literal _ | .start _ | .blankLine | .showDepth => .emit fun _ => rfl
  | .endLine => .endLine
  | .fail _ => fun _ => rfl
  | .indented levels body => (perform_allActions body).indented levels
  | .block body => (perform_allActions body).block
  | .tryCatch attempt handler => (perform_allActions attempt).attempted (perform_allActions handler)
  | .ifBlock condition body => (perform_allActions body).provided condition
  | .ifElse condition yes no =>
    (perform_allActions yes).decided condition (perform_allActions no)
  | .transaction body => (perform_allActions body).transacted
  | .ifObjectExists _ _ _ yes no => (perform_allActions yes).decided _ (perform_allActions no)
  | .createTable t => t.perform_actions
  | .addColumn a => a.perform_actions
  | .upsert u => u.perform_actions

theorem perform_allActions : (steps : List Step) → Perform (allActions steps) (writeAll steps)
  | [] => fun _ => rfl
  | step :: rest => (perform_actions step).append (perform_allActions rest)

end

/-- A program of steps, whether it ends well or fails somewhere, gives its script back at the depth
it found, with more text at the end, and at the start of a line if it closes the line. On the way
no body gives back more depth than there is. -/
theorem continues_writeAll (steps : List Step) (s : Script) (h : s.LineEnds) :
    ∃ result after, (writeAll steps).run.run s = (result, after) ∧
      runAll? (allActions steps) s = some (result, after) ∧
      after.depth = s.depth ∧ s.text.toList <+: after.text.toList ∧ after.LineEnds := by
  obtain ⟨result, after, hr, hc⟩ := exists_runAll? (allActions steps) s
  have hw := perform_allActions steps s
  rw [hr, Option.some.injEq] at hw
  exact ⟨result, after, hw.symm, hr, hc.depth, hc.text, hc.lineEnds h⟩

def interrupted : List Step :=
  [.literal "PRINT 1;", .transaction [
    .ifElse "@@ROWCOUNT = 0"
      [.addColumn { table := "Notes", column := { name := "Done", runtime := "bool" } }]
      [.start "PRINT 2;"],
    .block [.start "PRINT 3;", .fail "stop", .endLine]], .line "PRINT 4;"]

theorem continues_writeAll_interrupted :
    (({ text := "GO\n", depth := 1 } : Script).LineEnds) ∧
      ∃ after, (writeAll interrupted).run.run { text := "GO\n", depth := 1 } =
          (.error (.custom "stop"), after) ∧
        after.depth = 1 ∧ "GO\n".toList <+: after.text.toList ∧ after.LineEnds := by
  have h : ({ text := "GO\n", depth := 1 } : Script).LineEnds := fun _ => .inr (by decide)
  obtain ⟨result, after, hr, -, hd, ht, hl⟩ := continues_writeAll interrupted _ h
  have he : ((writeAll interrupted).run.run { text := "GO\n", depth := 1 }).1 =
      .error (.custom "stop") := rfl
  rw [hr] at he
  exact ⟨h, after, hr.trans (congrArg (·, after) he), hd, ht, hl⟩

end Step
end GridQuery
