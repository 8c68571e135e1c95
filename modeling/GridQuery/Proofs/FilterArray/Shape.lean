import GridQuery.Filter.Array
import GridQuery.Proofs.Result

/-! # The shape of filters read from arrays

A filter array is folded from the left, and its first column is taken over by whatever comes next.
A comparison makes a condition of it. A connective, or the `and` before a group, joins it as it
is: the result is no filter that a statement can test, and nothing rejects it. -/

namespace GridQuery.Filter

def isColumn : Filter → Bool
  | column _ => true
  | _ => false

def isLiteral : Filter → Bool
  | literal _ => true
  | _ => false

/-- Whether the filter is a condition, and so are the operands of its connectives and negations; a
comparison is between a column or condition and a literal or condition. If `bare`, a connective
may also have a column on its left. -/
def isFormed (bare : Bool) : Filter → Bool
  | column _ | literal _ => false
  | compare left _ right =>
    (left.isColumn || left.isFormed bare) && (right.isLiteral || right.isFormed bare)
  | combine left _ right => (bare && left.isColumn || left.isFormed bare) && right.isFormed bare
  | not inner => inner.isFormed bare

def joinsNext : List Json → Bool
  | .array _ :: _ => true
  | .string text :: _ => (Connective.ofKeyword? text).isSome
  | _ => false

/-- Whether the items of a group start with a column that is joined to a condition. Of two items
the second one is a value, whatever it is. -/
def startsBare : List Json → Bool
  | .string _ :: next :: more => !more.isEmpty && joinsNext (next :: more)
  | _ => false

mutual

/-- Whether every group of the value compares the column that it starts with. -/
def comparesColumns : Json → Bool
  | .array items => !startsBare items && allCompareColumns items
  | _ => true

def allCompareColumns : List Json → Bool
  | [] => true
  | v :: rest => comparesColumns v && allCompareColumns rest

end

section Formed
variable {v : Json} {items : List Json} {left f : Filter}

theorem eq_literal_of_literalOf (h : literalOf v = .ok f) :
    (∃ l, f = literal l) ∧ comparesColumns v = true := by
  unfold literalOf at h
  split at h
  · rename_i l hl
    cases h
    refine ⟨⟨l, rfl⟩, ?_⟩
    cases v with
    | array => cases hl
    | _ => rfl
  · cases h

def IsOperand (f : Filter) : Prop := f.isColumn = true ∨ f.isFormed true = true

/-- The filter is formed but for bare columns, and without them exactly if its groups compare the
columns that they start with. -/
structure FormedAs (compared : Bool) (f : Filter) : Prop where
  formed : f.isFormed true = true
  eq : f.isFormed false = compared

namespace FormedAs
variable {compared : Bool}

theorem isOperand (h : FormedAs compared f) : IsOperand f := .inr h.formed

theorem not_isColumn (h : FormedAs compared f) : f.isColumn = false := by
  cases f with
  | column => cases h.formed
  | _ => rfl

theorem not_isLiteral (h : FormedAs compared f) : f.isLiteral = false := by
  cases f with
  | literal => cases h.formed
  | _ => rfl

theorem not (h : FormedAs compared f) : FormedAs compared f.not := ⟨h.formed, h.eq⟩

theorem combine (h : FormedAs compared f) (hl : IsOperand left) (op : Connective) :
    FormedAs (left.isFormed false && compared) (left.combine op f) := by
  refine ⟨?_, by simp [isFormed, h.eq]⟩
  simpa [isFormed, h.formed] using show left.isColumn = true ∨ left.isFormed true = true from hl

theorem compare (h : FormedAs compared f) (hl : IsOperand left) (op : Comparison) :
    FormedAs ((left.isColumn || left.isFormed false) && compared) (left.compare op f) := by
  refine ⟨?_, by simp [isFormed, h.eq, h.not_isLiteral]⟩
  simpa [isFormed, h.formed] using show left.isColumn = true ∨ left.isFormed true = true from hl

theorem compare_literal (hl : IsOperand left) (op : Comparison) (v : Literal) :
    FormedAs (left.isColumn || left.isFormed false) (left.compare op (literal v)) := by
  refine ⟨?_, by simp [isFormed, isLiteral]⟩
  simpa [isFormed, isLiteral] using show left.isColumn = true ∨ left.isFormed true = true from hl

end FormedAs

def FormedBehind (left : Filter) (items : List Json) (f : Filter) : Prop :=
  FormedAs ((left.isColumn && !joinsNext items || left.isFormed false) &&
    allCompareColumns items) f

theorem FormedBehind.formedAs {compared : Bool} (h : FormedBehind left items f)
    (hl : FormedAs compared left) : FormedAs (compared && allCompareColumns items) f := by
  simpa [FormedBehind, hl.not_isColumn, hl.eq] using h

theorem startsBare_string (name : String) (hs : ∀ v, items ≠ [v]) :
    startsBare (.string name :: items) = joinsNext items := by
  match items with
  | [] | [_] => simp_all [startsBare, joinsNext]
  | _ :: _ :: _ => simp [startsBare]

mutual

theorem formedAs_ofGroup (v : Json) {f : Filter} (h : ofGroup v = .ok f) :
    FormedAs (comparesColumns v) f := by
  match v with
  | .array items => exact formedAs_ofItems items h
  | .null | .bool _ | .int _ | .float _ | .string _ | .object _ => cases h

theorem formedAs_ofItems (items : List Json) {f : Filter} (h : ofItems items = .ok f) :
    FormedAs (comparesColumns (.array items)) f := by
  unfold ofItems at h
  split at h
  · cases h
  · split at h
    · rename_i inner
      obtain ⟨g, hg, he⟩ := bind_eq_ok_iff.1 h
      cases he
      have hn := (formedAs_ofGroup inner hg).not
      simpa [startsBare, allCompareColumns, comparesColumns] using hn
    · cases h
  · rename_i name rest _
    split at h
    · rename_i v
      obtain ⟨g, hg, he⟩ := bind_eq_ok_iff.1 h
      cases he
      obtain ⟨⟨l, rfl⟩, hv⟩ := eq_literal_of_literalOf hg
      have hc := FormedAs.compare_literal (.inl rfl : IsOperand (column name)) .eq l
      simpa [startsBare, allCompareColumns, comparesColumns, isColumn, hv] using hc
    · rename_i hs
      have hr : FormedBehind (column name) rest f := formedBehind_ofRest _ (.inl rfl) rest h
      have hb := startsBare_string name hs
      simpa [FormedBehind, comparesColumns, allCompareColumns, hb, isColumn, isFormed] using hr
  · rename_i items rest
    obtain ⟨g, hg, hr⟩ := bind_eq_ok_iff.1 h
    have hf := formedAs_ofItems items hg
    have hr := (formedBehind_ofRest g hf.isOperand rest hr).formedAs hf
    simpa [startsBare, allCompareColumns, comparesColumns] using hr
  · cases h

theorem formedBehind_ofRest (left : Filter) (hl : IsOperand left) (items : List Json)
    {f : Filter} (h : ofRest left items = .ok f) : FormedBehind left items f := by
  unfold FormedBehind
  match items with
  | [] =>
    cases left with
    | column => cases h
    | _ =>
      cases h
      exact ⟨hl.resolve_left nofun, by simp [isColumn, allCompareColumns]⟩
  | .array items :: rest =>
    obtain ⟨g, hg, hr⟩ := bind_eq_ok_iff.1 h
    have hj := (formedAs_ofItems items hg).combine hl .and
    have hr := (formedBehind_ofRest _ hj.isOperand rest hr).formedAs hj
    simpa [joinsNext, allCompareColumns, Bool.and_assoc] using hr
  | .string text :: [] => cases h
  | .string text :: next :: rest =>
    unfold ofRest at h
    simp only at h
    split at h
    · rename_i op ho
      obtain ⟨g, hg, hr⟩ := bind_eq_ok_iff.1 h
      have hj := (formedAs_ofGroup next hg).combine hl op
      have hr := (formedBehind_ofRest _ hj.isOperand rest hr).formedAs hj
      simpa [joinsNext, ho, allCompareColumns, comparesColumns, Bool.and_assoc] using hr
    · rename_i ho
      -- what follows is a comparison, which takes a column as well as a condition
      have hn : joinsNext (.string text :: next :: rest) = false := by simp [joinsNext, ho]
      split at h
      · rename_i op _
        split at h
        · rename_i items
          obtain ⟨g, hg, hr⟩ := bind_eq_ok_iff.1 h
          have hj := (formedAs_ofItems items hg).compare hl op
          have hr := (formedBehind_ofRest _ hj.isOperand rest hr).formedAs hj
          simpa [hn, allCompareColumns, comparesColumns, Bool.and_assoc] using hr
        · obtain ⟨g, hg, hr⟩ := bind_eq_ok_iff.1 h
          obtain ⟨⟨l, rfl⟩, hv⟩ := eq_literal_of_literalOf hg
          have hj := FormedAs.compare_literal hl op l
          have hr := (formedBehind_ofRest _ hj.isOperand rest hr).formedAs hj
          simpa [hn, allCompareColumns, comparesColumns, hv] using hr
      · cases h
  | .null :: _ | .bool _ :: _ | .int _ :: _ | .float _ :: _ | .object _ :: _ => cases h

end

/-- The filter of an array is formed but for columns on the left of connectives, and it has none
of these exactly if every group compares the column that it starts with. -/
theorem isFormed_ofJson (h : ofJson v = .ok f) :
    f.isFormed true = true ∧ f.isFormed false = comparesColumns v := by
  obtain ⟨hf, he⟩ := formedAs_ofGroup v h
  exact ⟨hf, he⟩

end Formed

def joinedColumn : Json :=
  .array [.string "A", .string "and", .array [.string "B", .string "=", .int 1]]

theorem isFormed_ofJson_joinedColumn :
    ∃ f, ofJson (.array [.string "!", .array [joinedColumn, .string "or", .array
        [.string "C", .string "contains", .string "x"]]]) = .ok f ∧
      f.isFormed true = true ∧ f.isFormed false = false := by
  obtain ⟨f, hf⟩ : ∃ f, ofJson (.array [.string "!", .array [joinedColumn, .string "or", .array
      [.string "C", .string "contains", .string "x"]]]) = .ok f := ⟨_, rfl⟩
  obtain ⟨ht, he⟩ := isFormed_ofJson hf
  exact ⟨f, hf, ht, he.trans (by decide)⟩

/-- Not every filter of an array is well formed. -/
theorem not_isFormed_joinedColumn :
    ofJson joinedColumn =
        .ok (combine (column "A") .and (compare (column "B") .eq (literal (.int 1)))) ∧
      isFormed false (combine (column "A") .and (compare (column "B") .eq (literal (.int 1)))) =
        false :=
  ⟨rfl, rfl⟩

end GridQuery.Filter
