import GridQuery.Proofs.Arguments
import GridQuery.Proofs.Batch.Assembly
import GridQuery.Proofs.Placeholder

/-! # Values do not shape a batch

Two requests have the same shape if they differ only in values: in the literals of their filters
other than null, and in the values of their parameters. Their batches have the same text and the
same placeholders, and without pattern operators one has a batch exactly if the other has. -/

namespace GridQuery

namespace Filter
open Binding

/-- The filters differ only in the values of their literals, and null stands only for null. -/
inductive SameShape : Filter → Filter → Prop where
  | column (name : String) : SameShape (column name) (column name)
  | literal {v w : Literal} : v.isNull = w.isNull → SameShape (literal v) (literal w)
  | compare {l l' r r' : Filter} (op : Comparison) : SameShape l l' → SameShape r r' →
      SameShape (compare l op r) (compare l' op r')
  | combine {l l' r r' : Filter} (op : Connective) : SameShape l l' → SameShape r r' →
      SameShape (combine l op r) (combine l' op r')
  | not {f f' : Filter} : SameShape f f' → SameShape (not f) (not f')

def usesPattern : Filter → Bool
  | column _ | literal _ => false
  | compare left op right => op.isPattern || left.usesPattern || right.usesPattern
  | combine left _ right => left.usesPattern || right.usesPattern
  | not inner => inner.usesPattern

namespace SameShape
variable {f f' : Filter}

theorem isLeaf_eq (h : SameShape f f') : f.isLeaf = f'.isLeaf := by cases h <;> rfl

theorem isCombination_eq (h : SameShape f f') : f.isCombination = f'.isCombination := by
  cases h <;> rfl

theorem isNull_eq (h : SameShape f f') : f.isNull = f'.isNull := by
  cases h with
  | literal hv => exact hv
  | _ => rfl

theorem operatorText_eq (h : SameShape f f') (op : Comparison) :
    operatorText op f = operatorText op f' := by
  cases op <;> simp only [operatorText, h.isNull_eq]

theorem literalCount_eq (h : SameShape f f') : f.literalCount = f'.literalCount := by
  induction h with
  | column => rfl
  | literal hv => simp only [literalCount, hv]
  | compare op _ _ ihl ihr => simp only [literalCount, ihl, ihr]
  | combine op _ _ ihl ihr => simp only [literalCount, ihl, ihr]
  | not _ ih => exact ih

theorem conditionText_eq (h : SameShape f f') (d n : Nat) :
    f.conditionText d n = f'.conditionText d n := by
  induction h generalizing d n with
  | column => rfl
  | literal hv => simp only [conditionText, hv]
  | compare op hl hr ihl ihr =>
    simp only [conditionText, hl.isLeaf_eq, hr.isLeaf_eq, hl.literalCount_eq,
      hr.operatorText_eq, ihl, ihr]
  | combine op hl hr ihl ihr =>
    simp only [conditionText, hl.isCombination_eq, hr.isCombination_eq, hl.literalCount_eq,
      ihl, ihr]
  | not _ ih => simp only [conditionText, ih]

theorem usesPattern_eq (h : SameShape f f') : f.usesPattern = f'.usesPattern := by
  induction h with
  | column | literal => rfl
  | compare op _ _ ihl ihr => simp only [usesPattern, ihl, ihr]
  | combine op _ _ ihl ihr => simp only [usesPattern, ihl, ihr]
  | not _ ih => exact ih

end SameShape

theorem failure?_of_not_usesPattern {f : Filter} (h : f.usesPattern = false) :
    f.failure? = none := by
  induction f with
  | column | literal => rfl
  | compare left op right ihl ihr =>
    simp only [usesPattern, Bool.or_eq_false_iff] at h
    simp [failure?, h.1.1, ihl h.1.2, ihr h.2]
  | combine left op right ihl ihr =>
    simp only [usesPattern, Bool.or_eq_false_iff] at h
    simp [failure?, ihl h.1, ihr h.2]
  | not inner ih => exact ih h

end Filter

/-- The requests differ only in the literals of their filters and in the values of their
parameters. -/
structure Request.SameShape (r r' : Request) : Prop where
  filter : Option.Rel Filter.SameShape r.filter r'.filter
  keys : r.userData.map Prod.fst = r'.userData.map Prod.fst
  others : r' = { r with filter := r'.filter, userData := r'.userData }

namespace Request.SameShape
variable {r r' : Request}

theorem filter_cases (h : r.SameShape r') :
    (r.filter = none ∧ r'.filter = none) ∨
      ∃ f f', r.filter = some f ∧ r'.filter = some f' ∧ f.SameShape f' := by
  obtain ⟨hf, -, -⟩ := h
  generalize r.filter = o, r'.filter = o' at hf
  cases hf with
  | none => exact .inl ⟨rfl, rfl⟩
  | some hs => exact .inr ⟨_, _, rfl, rfl, hs⟩

theorem conditionText?_eq (h : r.SameShape r') (n : Nat) :
    r.conditionText? n = r'.conditionText? n := by
  obtain ⟨hr, hr'⟩ | ⟨f, f', hr, hr', hs⟩ := h.filter_cases
  · simp [conditionText?, hr, hr']
  · simp [conditionText?, hr, hr', hs.conditionText_eq]

theorem literalCount_eq (h : r.SameShape r') : r.literalCount = r'.literalCount := by
  obtain ⟨hr, hr'⟩ | ⟨f, f', hr, hr', hs⟩ := h.filter_cases
  · simp [literalCount, hr, hr']
  · simp [literalCount, hr, hr', hs.literalCount_eq]

theorem usesPattern_iff (h : r.SameShape r') :
    (∀ f ∈ r.filter, f.usesPattern = false) ↔ ∀ f ∈ r'.filter, f.usesPattern = false := by
  obtain ⟨hr, hr'⟩ | ⟨f, f', hr, hr', hs⟩ := h.filter_cases
  · simp [hr, hr']
  · simp [hr, hr', hs.usesPattern_eq]

end Request.SameShape

namespace Batch
variable {r r' : Request} {name : ObjectName} {info : ObjectInfo} {options : Options}
  {describe : Describe} {object : String}

theorem script_eq_of_sameShape (h : r.SameShape r') (source : Fragments)
    (condition : Option String) (page : Option Fragments) :
    script r source condition page = script r' source condition page := by
  rw [h.others]
  rfl

theorem paging?_eq_of_sameShape (h : r.SameShape r') (options : Options) :
    paging? options r = paging? options r' := by
  rw [h.others]
  rfl

theorem targetOf_of_sameShape (h : r.SameShape r') (name : ObjectName) (info : ObjectInfo) :
    (targetOf name info r).1 = (targetOf name info r').1 ∧
      (targetOf name info r).2.size = (targetOf name info r').2.size := by
  have hs : (fun p => (valueFor? r.userData p).isSome) =
      fun p => (valueFor? r'.userData p).isSome := by
    funext p
    rw [isSome_valueFor?, isSome_valueFor?, h.keys]
  cases hk : info.kind
  · simp [targetOf, hk]
  · simp only [targetOf, hk, resolveArguments_eq, Bindings.size, List.length_append,
      length_parameterValues, hs]
    trivial

/-- Literals and parameter values do not show in the text of a batch or in the names of its
placeholders, and without pattern operators they do not decide whether there is a batch. -/
theorem ofRequest_sameShape (h : r.SameShape r') (describe : Describe) (object : String)
    (options : Options) :
    (∀ b b', ofRequest describe object r options = .ok b →
      ofRequest describe object r' options = .ok b' →
        b.sql = b'.sql ∧ b.bindings.entries.map Prod.fst = b'.bindings.entries.map Prod.fst) ∧
    ((∀ f ∈ r.filter, f.usesPattern = false) →
      ((∃ b, ofRequest describe object r options = .ok b) ↔
        ∃ b', ofRequest describe object r' options = .ok b')) := by
  constructor
  · intro b b' hb hb'
    obtain ⟨name, info, hn, hd, hc⟩ := ofRequest_eq_ok_iff.1 hb
    obtain ⟨name', info', hn', hd', hc'⟩ := ofRequest_eq_ok_iff.1 hb'
    obtain rfl : name = name' := Option.some.inj (hn.symm.trans hn')
    obtain rfl : info = info' := Option.some.inj (Except.ok.inj (hd.symm.trans hd'))
    obtain ⟨hf, page, hp, rfl⟩ := compile_eq_ok_iff.1 hc
    obtain ⟨hf', page', hp', rfl⟩ := compile_eq_ok_iff.1 hc'
    obtain rfl : page = page' := by
      rw [paging?_eq_of_sameShape h, hp'] at hp
      exact (Except.ok.inj hp).symm
    obtain ⟨ht, hs⟩ := targetOf_of_sameShape h name info
    refine ⟨by rw [ht, hs, h.conditionText?_eq, script_eq_of_sameShape h], ?_⟩
    rw [Bindings.map_fst_entries, Bindings.map_fst_entries]
    unfold Bindings.size at hs ⊢
    rw [List.length_append, List.length_append, hs, Request.length_boundLiterals hf,
      Request.length_boundLiterals hf', h.literalCount_eq]
  · intro hu
    have hf : ∀ f ∈ r.filter, f.failure? = none :=
      fun f hm => Filter.failure?_of_not_usesPattern (hu f hm)
    have hf' : ∀ f ∈ r'.filter, f.failure? = none :=
      fun f hm => Filter.failure?_of_not_usesPattern (h.usesPattern_iff.1 hu f hm)
    rw [exists_ofRequest_iff, exists_ofRequest_iff, paging?_eq_of_sameShape h]
    exact and_congr_right fun _ => and_congr_left fun _ => ⟨fun _ => hf', fun _ => hf⟩

def peopleAged (day name age : Literal) : Request :=
  (({} : Request).withValue "@day" day).filterBy
    (((Filter.column "Name").compare .ne (.literal name)).combine .and
      ((Filter.column "Age").compare .eq (.literal age)))

theorem ofRequest_sameShape_peopleAged :
    ∃ b b', ofRequest (fun _ => .ok (some ⟨.function, ["Day", "Unit"]⟩)) "hr.People"
        (peopleAged (.string "Monday") (.string "x'; --") (.int 30)) {} = .ok b ∧
      ofRequest (fun _ => .ok (some ⟨.function, ["Day", "Unit"]⟩)) "hr.People"
        (peopleAged .null (.bool true) (.string "@0")) {} = .ok b' ∧
      b.sql = b'.sql ∧ b.bindings.entries.map Prod.fst = b'.bindings.entries.map Prod.fst := by
  have hs : (peopleAged (.string "Monday") (.string "x'; --") (.int 30)).SameShape
      (peopleAged .null (.bool true) (.string "@0")) :=
    ⟨.some (.combine _ (.compare _ (.column _) (.literal rfl)) (.compare _ (.column _)
      (.literal rfl))), rfl, rfl⟩
  obtain ⟨h, hi⟩ :=
    ofRequest_sameShape hs (fun _ => .ok (some ⟨.function, ["Day", "Unit"]⟩)) "hr.People" {}
  have hu : ∀ f ∈ (peopleAged (.string "Monday") (.string "x'; --") (.int 30)).filter,
      f.usesPattern = false := by
    rintro f ⟨⟩
    rfl
  obtain ⟨b', hb'⟩ := (hi hu).1 ⟨_, rfl⟩
  exact ⟨_, b', rfl, hb', h _ b' rfl hb'⟩

end Batch
end GridQuery
