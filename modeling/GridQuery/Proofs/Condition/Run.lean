import GridQuery.Filter.Condition

/-! # What writing a condition does

The condition of a filter is a text of its own: it depends on the depth of its lines and on the
number of its first placeholder, but on no literal. Writing a filter appends this text and binds
the literals of the filter from left to right, unless a pattern operator has no pattern. Then it
fails with the literals before bound. -/

namespace GridQuery

namespace Rendering

def append (r : Rendering) (t : String) (vs : List Literal) : Rendering :=
  ⟨⟨r.script.text ++ t, r.script.depth, true⟩, ⟨r.bindings.values ++ vs⟩⟩

variable (r : Rendering) (s t : String) (vs ws : List Literal)

@[simp] theorem append_append : (r.append s vs).append t ws = r.append (s ++ t) (vs ++ ws) := by
  simp [append, String.append_assoc]

@[simp] theorem depth_append : (r.append t vs).script.depth = r.script.depth := rfl

@[simp] theorem size_append : (r.append t vs).bindings.size = r.bindings.size + vs.length := by
  simp [append, Bindings.size]

end Rendering

namespace Binding
variable {α β : Type} {body next : Binding Unit} {t u : Nat → Nat → String}
  {vs ws : List Literal} {e : FilterError} (r : Rendering)

theorem run_bind (body : Binding α) (next : α → Binding β) :
    (body >>= next).run.run r =
      match body.run.run r with
      | (.ok a, r') => (next a).run.run r'
      | (.error e, r') => (.error e, r') := by
  simp only [ExceptT.run_bind, StateT.run_bind]
  rcases body.run.run r with ⟨_ | _, r'⟩ <;> rfl

theorem run_bind_of_ok {body : Binding α} {next : α → Binding β} {r r' : Rendering} {a : α}
    (h : body.run.run r = (.ok a, r')) : (body >>= next).run.run r = (next a).run.run r' := by
  rw [run_bind, h]

@[simp] theorem run_liftOk (a : α) :
    (liftM (Except.ok a : Except FilterError α) : Binding α).run.run r = (.ok a, r) := rfl

@[simp] theorem run_liftError (e : FilterError) :
    (liftM (Except.error e : Except FilterError α) : Binding α).run.run r = (.error e, r) := rfl

theorem run_emit (f : Script → Script) :
    (emit f).run.run r = (.ok (), { r with script := f r.script }) := rfl

@[simp] theorem run_literal (t : String) :
    (emit (·.literal t)).run.run r = (.ok (), r.append t []) := by
  simp [run_emit, Rendering.append, Script.literal]

theorem run_startLine (t : String) (h : r.script.lineOpen = true) :
    (emit (·.startLine t)).run.run r =
      (.ok (), r.append ("\n" ++ Script.indentation r.script.depth ++ t) []) := by
  simp [run_emit, Rendering.append, Script.startLine, Script.endLine, h, String.append_assoc]

@[simp] theorem run_register (v : Literal) :
    (register v).run.run r =
      (.ok (placeholder r.bindings.size), { r with bindings := (r.bindings.bind v).2 }) := rfl

/-- A body that always succeeds. Its text depends on the depth and on how many literals are
bound before it. -/
def Writes (body : Binding Unit) (t : Nat → Nat → String) (vs : List Literal) : Prop :=
  ∀ r : Rendering, body.run.run r = (.ok (), r.append (t r.script.depth r.bindings.size) vs)

theorem writes_literal (t : String) : Writes (emit (·.literal t)) (fun _ _ => t) [] :=
  fun r => run_literal r t

theorem Writes.bind (h : Writes body t vs) (h' : Writes next u ws) :
    Writes (body >>= fun _ => next) (fun d n => t d n ++ u d (n + vs.length)) (vs ++ ws) := by
  intro r
  rw [run_bind_of_ok (h r), h', Rendering.append_append, Rendering.depth_append,
    Rendering.size_append]

theorem Writes.grouped (h : Writes body t vs) :
    Writes (grouped body) (fun d n => "(" ++ t (d + 1) n ++ ")") vs := by
  have hi : Writes (indented 1 body) (fun d n => t (d + 1) n) vs := by
    intro r
    have hb := h { r with script := { r.script with depth := r.script.depth + 1 } }
    simp only [indented, ExceptT.run, ExceptT.mk, StateT.run] at hb ⊢
    rw [hb]
    rfl
  have hg := (writes_literal "(").bind (hi.bind (writes_literal ")"))
  simpa [Binding.grouped, String.append_assoc] using hg

/-- A text at some depth, or one level deeper between parentheses. -/
def enclose (grouped : Bool) (t : Nat → String) (depth : Nat) : String :=
  if grouped then "(" ++ t (depth + 1) ++ ")" else t depth

def Fails (body : Binding Unit) (e : FilterError) (vs : List Literal) : Prop :=
  ∀ r : Rendering, ∃ r', body.run.run r = (.error e, r') ∧
    r'.bindings.values = r.bindings.values ++ vs

theorem Fails.bind (h : Fails body e vs) : Fails (body >>= fun _ => next) e vs := by
  intro r
  obtain ⟨r', hr, hv⟩ := h r
  exact ⟨r', by rw [run_bind, hr], hv⟩

theorem Writes.bind_fails (h : Writes body t vs) (h' : Fails next e ws) :
    Fails (body >>= fun _ => next) e (vs ++ ws) := by
  intro r
  obtain ⟨r', hr, hv⟩ := h' (r.append (t r.script.depth r.bindings.size) vs)
  exact ⟨r', by rw [run_bind_of_ok (h r), hr], by simp [hv, Rendering.append]⟩

theorem fails_startLine_bind (t : String) (h : Fails next e vs) :
    Fails (emit (·.startLine t) >>= fun _ => next) e vs := by
  intro r
  obtain ⟨r', hr, hv⟩ := h { r with script := r.script.startLine t }
  exact ⟨r', hr, hv⟩

theorem Fails.grouped (h : Fails body e vs) : Fails (grouped body) e vs := by
  have hi : Fails (indented 1 body) e vs := by
    intro r
    obtain ⟨r', hr, hv⟩ := h { r with script := { r.script with depth := r.script.depth + 1 } }
    simp only [indented, ExceptT.run, ExceptT.mk, StateT.run] at hr ⊢
    rw [hr]
    exact ⟨_, rfl, hv⟩
  exact (writes_literal "(").bind_fails hi.bind

def enclosed (grouped : Bool) (body : Binding Unit) : Binding Unit :=
  if grouped then Binding.grouped body else body

theorem Writes.enclosed (h : Writes body t vs) (grouped : Bool) :
    Writes (Binding.enclosed grouped body) (fun d n => enclose grouped (t · n) d) vs := by
  cases grouped
  · exact h
  · exact h.grouped

theorem Fails.enclosed (h : Fails body e vs) (grouped : Bool) :
    Fails (Binding.enclosed grouped body) e vs := by
  cases grouped
  · exact h
  · exact h.grouped

end Binding

namespace Filter
open Binding Script

def literalCount : Filter → Nat
  | column _ => 0
  | literal v => if v.isNull then 0 else 1
  | compare left _ right | combine left _ right => left.literalCount + right.literalCount
  | not inner => inner.literalCount

/-- The text of the condition, its lines at some depth and its placeholders from some number on. -/
def conditionText : Filter → Nat → Nat → String
  | column name, _, _ => identifier name
  | literal v, _, number => if v.isNull then "NULL" else placeholder number
  | compare left op right, depth, number =>
    enclose (!left.isLeaf) (left.conditionText · number) depth ++
      (" " ++ operatorText op right ++ " " ++
        enclose (!right.isLeaf) (right.conditionText · (number + left.literalCount)) depth)
  | combine left op right, depth, number =>
    enclose left.isCombination (left.conditionText · number) depth ++
      ("\n" ++ indentation depth ++ op.sqlKeyword ++ "\n" ++ indentation depth ++
        enclose right.isCombination (right.conditionText · (number + left.literalCount)) depth)
  | not inner, depth, number => "NOT (" ++ inner.conditionText depth number ++ ")"

/-- The literals that the condition binds, from left to right: all but null, and for a pattern
operator its pattern. -/
def boundLiterals : Filter → List Literal
  | column _ => []
  | literal v => if v.isNull then [] else [v]
  | compare left op right =>
    left.boundLiterals ++
      if op.isPattern then (patternOf op right).toOption.toList else right.boundLiterals
  | combine left _ right => left.boundLiterals ++ right.boundLiterals
  | not inner => inner.boundLiterals

/-- Why the filter has no condition: its first pattern operator without a pattern. -/
def failure? : Filter → Option FilterError
  | column _ | literal _ => none
  | compare left op right =>
    left.failure? <|>
      if op.isPattern then
        match patternOf op right with
        | .ok _ => none
        | .error e => some e
      else right.failure?
  | combine left _ right => left.failure? <|> right.failure?
  | not inner => inner.failure?

def boundByFailure : Filter → List Literal
  | column _ | literal _ => []
  | compare left op right =>
    if left.failure?.isSome then left.boundByFailure
    else left.boundLiterals ++ if op.isPattern then [] else right.boundByFailure
  | combine left _ right =>
    if left.failure?.isSome then left.boundByFailure
    else left.boundLiterals ++ right.boundByFailure
  | not inner => inner.boundByFailure

theorem patternOf_eq_ok {op : Comparison} {right : Filter} {pattern : Literal}
    (h : patternOf op right = .ok pattern) :
    ∃ v text, right = literal v ∧ v.patternText = .ok text ∧ v.isNull = false ∧
      pattern = .string (op.pattern text) := by
  unfold patternOf at h
  split at h
  · rename_i v
    split at h
    · rename_i text ht
      cases h
      refine ⟨v, text, rfl, ht, ?_, rfl⟩
      cases v <;> simp_all [Literal.patternText, Literal.isNull]
    · simp at h
  · simp at h

theorem operatorText_of_isPattern {op : Comparison} (h : op.isPattern = true) (right : Filter) :
    operatorText op right = op.sqlOperator := by
  cases op <;> simp_all [Comparison.isPattern, operatorText]

theorem failure?_compare {left right : Filter} {op : Comparison} :
    (compare left op right).failure? = none ↔ left.failure? = none ∧
      if op.isPattern then ∃ pattern, patternOf op right = .ok pattern
      else right.failure? = none := by
  by_cases ho : op.isPattern
  · cases hp : patternOf op right <;> simp [failure?, ho, hp]
  · simp [failure?, ho]

theorem failure?_combine {left right : Filter} {op : Connective} :
    (combine left op right).failure? = none ↔ left.failure? = none ∧ right.failure? = none := by
  simp [failure?]

theorem length_boundLiterals {f : Filter} (h : f.failure? = none) :
    f.boundLiterals.length = f.literalCount := by
  induction f with
  | column => rfl
  | literal v => cases hv : v.isNull <;> simp [boundLiterals, literalCount, hv]
  | compare left op right ihl ihr =>
    obtain ⟨hl, hr⟩ := failure?_compare.1 h
    split at hr
    · rename_i ho
      obtain ⟨pattern, hp⟩ := hr
      obtain ⟨v, text, rfl, -, hv, rfl⟩ := patternOf_eq_ok hp
      simp [boundLiterals, literalCount, ihl hl, ho, hp, hv, Except.toOption]
    · rename_i ho
      simp [boundLiterals, literalCount, ihl hl, ihr hr, ho]
  | combine left op right ihl ihr =>
    obtain ⟨hl, hr⟩ := failure?_combine.1 h
    simp [boundLiterals, literalCount, ihl hl, ihr hr]
  | not inner ih => exact ih h

theorem writes_writeLiteral (v : Literal) :
    Writes (writeLiteral v) (fun _ n => if v.isNull then "NULL" else placeholder n)
      (if v.isNull then [] else [v]) := by
  intro r
  cases hv : v.isNull
  · simp only [writeLiteral, hv, Bool.false_eq_true, if_false, run_bind, run_register, run_literal]
    simp [Rendering.append, Bindings.bind]
  · simp [writeLiteral, hv]

theorem writes_writePattern {op : Comparison} {right : Filter} {pattern : Literal}
    (h : patternOf op right = .ok pattern) :
    Writes (writePattern op right) (fun _ n => " " ++ op.sqlOperator ++ " " ++ placeholder n)
      [pattern] := by
  obtain ⟨v, text, -, -, -, rfl⟩ := patternOf_eq_ok h
  have hw := (writes_literal (" " ++ op.sqlOperator ++ " ")).bind
    (writes_writeLiteral (.string (op.pattern text)))
  intro r
  rw [writePattern, h, run_bind, run_liftOk]
  simpa [Literal.isNull] using hw r

theorem write_compare (left right : Filter) (op : Comparison) :
    (compare left op right).write = (do
      enclosed (!left.isLeaf) left.write
      if op.isPattern then writePattern op right
      else
        emit (·.literal (" " ++ operatorText op right ++ " "))
        enclosed (!right.isLeaf) right.write) := by
  cases hl : left.isLeaf <;> cases hr : right.isLeaf <;> simp [write, enclosed, hl, hr]

theorem write_combine (left right : Filter) (op : Connective) :
    (combine left op right).write = (do
      enclosed left.isCombination left.write
      emit (·.startLine op.sqlKeyword)
      emit (·.startLine "")
      enclosed right.isCombination right.write) := by
  cases hl : left.isCombination <;> simp [write, enclosed, hl]

/-- Writing a filter whose pattern operators have patterns appends the text of its condition and
binds its literals. -/
theorem writes_write {f : Filter} (h : f.failure? = none) :
    Writes f.write f.conditionText f.boundLiterals := by
  induction f with
  | column name => exact writes_literal _
  | literal v => exact writes_writeLiteral v
  | compare left op right ihl ihr =>
    obtain ⟨hl, hr⟩ := failure?_compare.1 h
    have hn := length_boundLiterals hl
    have hw := Writes.enclosed (ihl hl) (!left.isLeaf)
    by_cases ho : op.isPattern
    · obtain ⟨pattern, hp⟩ := by simpa [ho] using hr
      obtain ⟨v, text, rfl, -, hv, rfl⟩ := patternOf_eq_ok hp
      have hb := hw.bind (writes_writePattern hp)
      intro r
      simpa [write_compare, conditionText, boundLiterals, ho, hp, hn, hv, enclose,
        show (literal v).isLeaf from rfl, operatorText_of_isPattern, Except.toOption] using hb r
    · have hr' := Writes.enclosed (ihr (by simpa [ho] using hr)) (!right.isLeaf)
      have hb := hw.bind ((writes_literal (" " ++ operatorText op right ++ " ")).bind hr')
      intro r
      simpa [write_compare, conditionText, boundLiterals, ho, hn] using hb r
  | combine left op right ihl ihr =>
    obtain ⟨hl, hr⟩ := failure?_combine.1 h
    have hn := length_boundLiterals hl
    have hw := Writes.enclosed (ihl hl) left.isCombination
    have hr' := Writes.enclosed (ihr hr) right.isCombination
    intro r
    -- every part leaves its line open, so the connective begins by ending it
    rw [write_combine, run_bind_of_ok (hw r), run_bind_of_ok (run_startLine _ _ rfl),
      run_bind_of_ok (run_startLine _ _ rfl), hr']
    simp [conditionText, boundLiterals, hn, String.append_assoc]
  | not inner ih =>
    have hb := (writes_literal "NOT (").bind ((ih h).bind (writes_literal ")"))
    intro r
    simpa [write, conditionText, boundLiterals, String.append_assoc] using hb r

theorem fails_writePattern {op : Comparison} {right : Filter} {e : FilterError}
    (h : patternOf op right = .error e) : Fails (writePattern op right) e [] := by
  intro r
  rw [writePattern, h, run_bind, run_liftError]
  exact ⟨r, rfl, by simp⟩

theorem fails_write {f : Filter} {e : FilterError} (h : f.failure? = some e) :
    Fails f.write e f.boundByFailure := by
  induction f with
  | column | literal => simp [failure?] at h
  | compare left op right ihl ihr =>
    rw [write_compare, boundByFailure]
    cases hl : left.failure? with
    | some e' =>
      obtain rfl : e' = e := by simpa [failure?, hl] using h
      exact ((ihl hl).enclosed _).bind
    | none =>
      have hw := Writes.enclosed (writes_write hl) (!left.isLeaf)
      refine hw.bind_fails ?_
      by_cases ho : op.isPattern
      · rw [if_pos ho, if_pos ho]
        cases hp : patternOf op right with
        | ok => simp [failure?, hl, ho, hp] at h
        | error e' =>
          obtain rfl : e' = e := by simpa [failure?, hl, ho, hp] using h
          exact fails_writePattern hp
      · rw [if_neg ho, if_neg ho]
        have hr : right.failure? = some e := by simpa [failure?, hl, ho] using h
        exact (writes_literal _).bind_fails ((ihr hr).enclosed _)
  | combine left op right ihl ihr =>
    rw [write_combine, boundByFailure]
    cases hl : left.failure? with
    | some e' =>
      obtain rfl : e' = e := by simpa [failure?, hl] using h
      exact ((ihl hl).enclosed _).bind
    | none =>
      have hw := Writes.enclosed (writes_write hl) left.isCombination
      have hr : right.failure? = some e := by simpa [failure?, hl] using h
      exact hw.bind_fails
        (fails_startLine_bind _ (fails_startLine_bind _ ((ihr hr).enclosed _)))
  | not inner ih => exact (writes_literal _).bind_fails (ih h).bind

theorem condition_of_failure {f : Filter} {e : FilterError} (h : f.failure? = some e)
    (b : Bindings) : f.condition b = (.error e, ⟨b.values ++ f.boundByFailure⟩) := by
  obtain ⟨r', hr, hv⟩ := fails_write h { bindings := b }
  rw [condition, hr, ← hv]
  rfl

/-- A filter has a condition exactly when every pattern operator has a pattern. -/
theorem condition_eq_ok_iff {f : Filter} {b b' : Bindings} {text : String} :
    f.condition b = (.ok text, b') ↔
      f.failure? = none ∧ text = f.conditionText 0 b.size ∧
        b' = ⟨b.values ++ f.boundLiterals⟩ := by
  cases h : f.failure? with
  | none =>
    rw [condition, writes_write h]
    simp [Rendering.append, Except.map, eq_comm]
  | some e => simp [condition_of_failure h]

end Filter
end GridQuery
