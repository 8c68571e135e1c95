import GridQuery.Source.Directory

/-! # Arguments of a function

Which parameters have a value is settled by the keys of the values. The values bound for a
function are those of its parameters, in their order, and the arguments are numbered likewise. -/

namespace GridQuery
open Text

/-- The arguments for parameters of which some have a value, numbered from some number on. -/
def numberedArguments (hasValue : String → Bool) : Nat → List String → List Argument
  | _, [] => []
  | n, parameter :: rest =>
    if hasValue parameter then
      .placeholder (placeholder n) :: numberedArguments hasValue (n + 1) rest
    else .default :: numberedArguments hasValue n rest

def parameterValues (values : Assoc String Literal) (parameters : List String) : List Literal :=
  parameters.filterMap (valueFor? values)

variable (values : Assoc String Literal) (parameters : List String)

theorem isSome_valueFor? (parameter : String) :
    (valueFor? values parameter).isSome = (values.map Prod.fst).any fun key =>
      equalIgnoringCase (parameterName key) (parameterName parameter) := by
  rw [Bool.eq_iff_iff]
  simp [valueFor?, List.find?_isSome]

theorem resolveArguments_eq (b : Bindings) :
    resolveArguments values b parameters =
      (numberedArguments (fun p => (valueFor? values p).isSome) b.size parameters,
        ⟨b.values ++ parameterValues values parameters⟩) := by
  induction parameters generalizing b with
  | nil => simp [resolveArguments, numberedArguments, parameterValues]
  | cons parameter rest ih =>
    cases hv : valueFor? values parameter <;>
      simp [resolveArguments, numberedArguments, parameterValues, hv, ih]

section place
variable {parameters : List String} {parameter : String} {i : Nat}

/-- A parameter is passed as a placeholder if it has a value, numbered behind those of the
parameters before it, and as the default if not. -/
theorem map_getElem?_numberedArguments (hasValue : String → Bool) (n : Nat)
    (parameters : List String) (i : Nat) :
    (numberedArguments hasValue n parameters)[i]? = parameters[i]?.map fun parameter =>
      if hasValue parameter then
        .placeholder (placeholder (n + (parameters.take i).countP hasValue))
      else .default := by
  induction parameters generalizing i n with
  | nil => rfl
  | cons q rest ih =>
    cases i with
    | zero => cases hq : hasValue q <;> simp [numberedArguments, hq]
    | succ i =>
      cases hq : hasValue q
      · simp [numberedArguments, hq, ih]
      · simp [numberedArguments, hq, ih, Nat.add_assoc, Nat.add_comm 1]

theorem getElem?_numberedArguments (hasValue : String → Bool) (n : Nat)
    (hp : parameters[i]? = some parameter) (hv : hasValue parameter = true) :
    (numberedArguments hasValue n parameters)[i]? =
      some (.placeholder (placeholder (n + (parameters.take i).countP hasValue))) := by
  simp [map_getElem?_numberedArguments, hp, hv]

theorem getElem?_parameterValues {v : Literal} (hp : parameters[i]? = some parameter)
    (hv : valueFor? values parameter = some v) :
    (parameterValues values parameters)[
      (parameters.take i).countP fun p => (valueFor? values p).isSome]? = some v := by
  induction parameters generalizing i with
  | nil => simp at hp
  | cons q rest ih =>
    cases i with
    | zero =>
      obtain rfl : q = parameter := by simpa using hp
      simp [parameterValues, hv]
    | succ i =>
      have hi := ih (by simpa using hp)
      cases hq : valueFor? values q <;> simpa [parameterValues, hq] using hi

end place

theorem length_parameterValues :
    (parameterValues values parameters).length =
      parameters.countP fun p => (valueFor? values p).isSome :=
  List.length_filterMap_eq_countP

end GridQuery
