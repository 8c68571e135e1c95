import GridQuery.Proofs.FilterArray.Shape

/-! # Arrays of filters put together

The items of an array are read from left to right, and those that are read already count only as the
filter that they make. So an array goes on with further groups: each is joined to the filter of all
that stands before it, and the first that cannot be read is why the whole cannot. An array that
holds nothing but an array is read as this one. -/

namespace GridQuery.Filter
open Text
variable {first more : List Json} {left f : Filter}

/-- Items that make a filter are the left operand of those behind them. -/
theorem ofRest_append (left : Filter) (first : List Json) (h : ofRest left first = .ok f) :
    ofRest left (first ++ more) = ofRest f more := by
  match first with
  | [] =>
    cases left with
    | column => cases h
    | _ =>
      cases h
      rfl
  | .array group :: rest =>
    obtain ⟨g, hg, hr⟩ := bind_eq_ok_iff.1 h
    rw [List.cons_append, ofRest, hg]
    exact ofRest_append _ rest hr
  | .string text :: [] => cases h
  | .string text :: next :: rest =>
    rw [ofRest] at h
    rw [List.cons_append, List.cons_append, ofRest]
    simp only at h ⊢
    split at h
    · obtain ⟨g, hg, hr⟩ := bind_eq_ok_iff.1 h
      rw [hg]
      exact ofRest_append _ rest hr
    · split at h
      · split at h
        all_goals
          obtain ⟨g, hg, hr⟩ := bind_eq_ok_iff.1 h
          rw [hg]
          exact ofRest_append _ rest hr
      · cases h
  | .null :: _ | .bool _ :: _ | .int _ :: _ | .float _ :: _ | .object _ :: _ => cases h

/-- The items are not led by `!`, and they are not just a column and its value. -/
def IsExtensible (items : List Json) : Prop :=
  items.head? ≠ some (.string "!") ∧ ∀ name v, items ≠ [.string name, v]

theorem ofItems_append (h : ofItems first = .ok f) (hx : IsExtensible first) :
    ofItems (first ++ more) = ofRest f more := by
  obtain ⟨hn, hp⟩ := hx
  match first with
  | [] => cases h
  | .string name :: rest =>
    have hn : name ≠ "!" := by simpa using hn
    have hr (rest : List Json) (hs : ∀ v, rest ≠ [v]) :
        ofItems (.string name :: rest) = ofRest (column name) rest := by
      rw [ofItems]
      · exact hn
      · exact hs
    have hp (v : Json) : rest ≠ [v] := by simpa using hp name v
    rw [hr rest hp] at h
    rw [List.cons_append, hr, ofRest_append _ rest h]
    intro v hv
    -- a column alone is no filter, so something stands behind it already
    cases rest with
    | nil => cases h
    | cons w rest =>
      have he : rest = [] := by simp_all
      exact hp w (by rw [he])
  | .array group :: rest =>
    obtain ⟨g, hg, hr⟩ := bind_eq_ok_iff.1 h
    rw [List.cons_append, ofItems, hg]
    exact ofRest_append _ rest hr
  | .null :: _ | .bool _ :: _ | .int _ :: _ | .float _ :: _ | .object _ :: _ => cases h

/-- A group that is joined to what stands before it: by a connective in any ASCII case, or right
behind it. -/
inductive Link where
  | spelled (op : Connective) (text : String) (group : List Json)
      (h : equalIgnoringCase text op.sqlKeyword = true)
  | adjacent (group : List Json)

namespace Link

def op : Link → Connective
  | spelled op .. => op
  | adjacent _ => .and

def group : Link → List Json
  | spelled _ _ group _ | adjacent group => group

def items : Link → List Json
  | spelled _ text group _ => [.string text, .array group]
  | adjacent group => [.array group]

def join (left : Filter) (link : Link) : Except FilterError Filter :=
  (ofItems link.group).map (combine left link.op)

end Link

theorem ofKeyword?_of_equalIgnoringCase {text : String} {op : Connective}
    (h : equalIgnoringCase text op.sqlKeyword = true) : Connective.ofKeyword? text = some op := by
  have hl : lowerAscii text = lowerAscii op.sqlKeyword := eq_of_beq h
  unfold Connective.ofKeyword? equalIgnoringCase
  rw [hl]
  cases op <;> decide

theorem ofRest_link (left : Filter) (link : Link) :
    ofRest left (link.items ++ more) = link.join left >>= (ofRest · more) := by
  have hm {f : Filter → Filter} (x : Except FilterError Filter) :
      (do ofRest (f (← x)) more) = x.map f >>= (ofRest · more) := by
    cases x <;> rfl
  cases link with
  | spelled op text group h =>
    simp only [Link.items, List.cons_append, List.nil_append]
    rw [ofRest, ofKeyword?_of_equalIgnoringCase h]
    exact hm (ofItems group)
  | adjacent group =>
    exact hm (ofItems group)

theorem ofRest_links (hl : left.isColumn = false) (links : List Link) :
    ofRest left (links.flatMap Link.items) = links.foldlM Link.join left := by
  induction links generalizing left with
  | nil =>
    cases left with
    | column => cases hl
    | _ => rfl
  | cons link links ih =>
    rw [List.flatMap_cons, ofRest_link, List.foldlM_cons]
    cases hj : link.join left with
    | error e => rfl
    | ok f =>
      obtain ⟨g, -, rfl⟩ := map_eq_ok_iff.1 hj
      exact ih rfl

/-- Items inside arrays that hold nothing else, to some depth. -/
def wrapped : Nat → List Json → List Json
  | 0, items => items
  | n + 1, items => [.array (wrapped n items)]

theorem ofItems_array_cons (group rest : List Json) :
    ofItems (.array group :: rest) = ofItems group >>= (ofRest · rest) := by
  rw [ofItems]

theorem ofItems_wrapped (n : Nat) (items : List Json) :
    ofItems (wrapped n items) = ofItems items := by
  induction n with
  | zero => rfl
  | succ n ih =>
    rw [wrapped, ofItems_array_cons, ih]
    cases hf : ofItems items with
    | error e => rfl
    | ok f => exact ofRest_links (formedAs_ofItems items hf).not_isColumn []

/-- Arrays around an array change nothing. Behind items that make a filter a further group is joined
to this filter, or is why the whole cannot be read, unless the items are led by `!` or are just a
column and its value. So a chain of groups is joined from left to right. -/
theorem ofJson_wrapped_and_chained :
    (∀ n items, ofJson (.array (wrapped n items)) = ofJson (.array items)) ∧
    (∀ items f, ofJson (.array items) = .ok f → IsExtensible items →
      ∀ group op text, equalIgnoringCase text op.sqlKeyword = true →
        ofJson (.array (items ++ [.string text, .array group])) =
          (ofJson (.array group)).map (combine f op) ∧
        ofJson (.array (items ++ [.array group])) =
          (ofJson (.array group)).map (combine f .and)) ∧
    ∀ group (links : List Link), ofJson (.array (.array group :: links.flatMap Link.items)) =
      ofJson (.array group) >>= (links.foldlM Link.join ·) := by
  refine ⟨ofItems_wrapped, fun items f h hx group op text ht => ?_, fun group links => ?_⟩
  · have hf : f.isColumn = false := (formedAs_ofItems items h).not_isColumn
    have hl (link : Link) : ofItems (items ++ link.items) = link.join f := by
      have hr := ofRest_links hf [link]
      rw [List.flatMap_singleton] at hr
      rw [ofItems_append h hx, hr]
      simp
    exact ⟨hl (.spelled op text group ht), hl (.adjacent group)⟩
  · show ofItems _ = ofItems group >>= _
    rw [ofItems_array_cons]
    cases hg : ofItems group with
    | error e => rfl
    | ok f => exact ofRest_links (formedAs_ofItems group hg).not_isColumn links

theorem ofJson_wrapped_and_chained_adults :
    ofJson (.array [.string "Age", .string ">", .int 18, .string "oR",
        .array [.string "!", .array [.string "Name", .null]]]) =
      .ok (combine (compare (column "Age") .gt (literal (.int 18))) .or
        (not (compare (column "Name") .eq (literal .null)))) ∧
    ofJson (.array [.string "Age", .string ">", .int 18, .array [.string "Name"]]) =
      .error (.array (.bareColumn "Name")) := by
  have h : ofJson (.array [.string "Age", .string ">", .int 18]) =
      .ok (compare (column "Age") .gt (literal (.int 18))) := rfl
  have hx : IsExtensible [.string "Age", .string ">", .int 18] := ⟨by simp, by simp⟩
  have hj := ofJson_wrapped_and_chained.2.1 _ _ h hx
  exact ⟨(hj [.string "!", .array [.string "Name", .null]] .or "oR" (by decide)).1,
    (hj [.string "Name"] .and "and" (by decide)).2⟩

end GridQuery.Filter
