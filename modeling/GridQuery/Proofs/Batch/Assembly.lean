import GridQuery.Batch.Basic
import GridQuery.Proofs.Condition.Text

/-! # How a batch is put together

A batch is compiled exactly when its object is known, its filter has a condition and its page can
be counted. Its text is one statement, or two, each made of lines. -/

namespace GridQuery

namespace Request

def boundLiterals (r : Request) : List Literal := r.filter.elim [] Filter.boundLiterals

def literalCount (r : Request) : Nat := r.filter.elim 0 Filter.literalCount

/-- The text of the condition of a request, its placeholders from some number on. -/
def conditionText? (r : Request) (number : Nat) : Option String :=
  r.filter.map (·.conditionText 0 number)

theorem length_boundLiterals {r : Request} (h : ∀ f ∈ r.filter, f.failure? = none) :
    r.boundLiterals.length = r.literalCount := by
  unfold boundLiterals literalCount
  cases hf : r.filter with
  | none => rfl
  | some f => exact Filter.length_boundLiterals (h f hf)

end Request

namespace Batch
open Text
variable {options : Options} {r : Request} {target : Target} {bindings after : Bindings}
  {condition : Option String} {b : Batch} {describe : Describe} {object : String}

theorem conditionOf_eq_ok_iff :
    conditionOf r bindings = .ok (condition, after) ↔
      (∀ f ∈ r.filter, f.failure? = none) ∧ condition = r.conditionText? bindings.size ∧
        after = ⟨bindings.values ++ r.boundLiterals⟩ := by
  unfold conditionOf
  split
  · rename_i hf
    have ha : (⟨bindings.values ++ []⟩ : Bindings) = bindings := by rw [List.append_nil]
    simp only [Request.conditionText?, Request.boundLiterals, hf, Option.elim, ha]
    simp [eq_comm]
  · rename_i f hf
    simp only [Request.conditionText?, Request.boundLiterals, hf]
    split
    · rename_i text b' hc
      obtain ⟨hn, rfl, rfl⟩ := Filter.condition_eq_ok_iff.1 hc
      simp [hn, eq_comm]
    · rename_i e b' hc
      have hn : f.failure? ≠ none := by
        intro hn
        rw [Filter.condition_eq_ok_iff.2 ⟨hn, rfl, rfl⟩] at hc
        cases hc
      simp [hn]

def script (r : Request) (source : Fragments) (condition : Option String)
    (page : Option Fragments) : Script :=
  let rows := writeRows r source condition page {}
  if r.showTotal then writeCount source condition rows else rows

theorem compile_eq_ok_iff :
    compile options r target bindings = .ok b ↔
      (∀ f ∈ r.filter, f.failure? = none) ∧ ∃ page, paging? options r = .ok page ∧
        b = ⟨(script r target.source (r.conditionText? bindings.size) page).text,
          ⟨bindings.values ++ r.boundLiterals⟩⟩ := by
  unfold compile
  constructor
  · intro h
    cases hc : conditionOf r bindings with
    | error e =>
      rw [hc] at h
      cases h
    | ok result =>
      obtain ⟨hn, hr, ha⟩ := conditionOf_eq_ok_iff.1 hc
      cases hp : paging? options r with
      | error e =>
        rw [hc, hp] at h
        cases h
      | ok page =>
        rw [hc, hp] at h
        cases h
        exact ⟨hn, page, rfl, by rw [hr, ha, script]⟩
  · rintro ⟨hn, page, hp, rfl⟩
    rw [conditionOf_eq_ok_iff.2 ⟨hn, rfl, rfl⟩, hp]
    rfl

theorem ofRequest_eq_ok_iff :
    ofRequest describe object r options = .ok b ↔
      ∃ name info, ObjectName.parse? object options.defaultSchema = some name ∧
        describe name = .ok (some info) ∧
        compile options r (targetOf name info r).1 (targetOf name info r).2 = .ok b := by
  unfold ofRequest
  cases hn : ObjectName.parse? object options.defaultSchema with
  | none => simp
  | some name =>
    cases hd : describe name with
    | error reason => simp [hd]
    | ok info? => cases info? <;> simp [hd]

/-- A request has a batch exactly when its object is known, its pattern operators have patterns
and its page can be counted. -/
theorem exists_ofRequest_iff :
    (∃ b, ofRequest describe object r options = .ok b) ↔
      (∃ name info, ObjectName.parse? object options.defaultSchema = some name ∧
        describe name = .ok (some info)) ∧
      (∀ f ∈ r.filter, f.failure? = none) ∧ ∃ page, paging? options r = .ok page := by
  simp only [ofRequest_eq_ok_iff, compile_eq_ok_iff]
  constructor
  · rintro ⟨b, name, info, hn, hd, hf, page, hp, -⟩
    exact ⟨⟨name, info, hn, hd⟩, hf, page, hp⟩
  · rintro ⟨⟨name, info, hn, hd⟩, hf, page, hp⟩
    exact ⟨_, name, info, hn, hd, hf, page, hp, rfl⟩

end Batch
end GridQuery
