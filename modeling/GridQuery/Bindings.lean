import GridQuery.Literal.Basic

/-! # Bindings

Literals are bound to the placeholders `@0`, `@1`, … in the order in which they are bound. -/

namespace GridQuery

/-- The bound literals, in order. -/
structure Bindings where
  values : List Literal := []

def placeholder (n : Nat) : String := "@" ++ toString n

theorem placeholder_injective : Function.Injective placeholder := by
  intro m n h
  have hd : Nat.toDigits 10 m = Nat.toDigits 10 n := by
    simpa [placeholder] using congrArg String.toList h
  have hv := congrArg (Nat.ofDigitChars 10 · 0) hd
  simpa using hv

namespace Bindings
variable (b : Bindings)

def size : Nat := b.values.length

def isEmpty : Bool := b.values.isEmpty

/-- Binds a literal to the next placeholder. -/
def bind (v : Literal) : String × Bindings := (placeholder b.size, ⟨b.values ++ [v]⟩)

def entries : List (String × Literal) := b.values.mapIdx fun i v => (placeholder i, v)

def get? (name : String) : Option Literal := b.entries.lookup name

def toJson : Json := .object (b.entries.map fun (name, v) => (name, v.toJson))

variable (v : Literal)

@[simp] theorem fst_bind : (b.bind v).1 = placeholder b.size := rfl

@[simp] theorem values_bind : (b.bind v).2.values = b.values ++ [v] := rfl

@[simp] theorem size_bind : (b.bind v).2.size = b.size + 1 := by simp [size]

@[simp] theorem length_entries : b.entries.length = b.size := by simp [entries, size]

theorem entries_bind : (b.bind v).2.entries = b.entries ++ [(placeholder b.size, v)] := by
  simp [entries, size]

theorem map_fst_entries : b.entries.map Prod.fst = (List.range b.size).map placeholder := by
  apply List.ext_getElem <;> simp [entries, size]

theorem mem_entries_iff {i : Nat} {v : Literal} :
    (placeholder i, v) ∈ b.entries ↔ b.values[i]? = some v := by
  simp only [entries, List.mem_mapIdx, List.getElem?_eq_some_iff]
  constructor
  · rintro ⟨j, hj, he⟩
    obtain ⟨hn, rfl⟩ := Prod.mk.inj he
    obtain rfl := placeholder_injective hn
    exact ⟨hj, rfl⟩
  · rintro ⟨hi, rfl⟩
    exact ⟨i, hi, rfl⟩

end Bindings
end GridQuery
