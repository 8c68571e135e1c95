import GridQuery.Proofs.Arguments
import GridQuery.Proofs.Placeholder
import GridQuery.Proofs.Result

/-! # Resolving the parameters of a function

Each parameter is resolved by itself: to the first value whose key names it, and to the default if
there is none. Only the number of its placeholder depends on the parameters before it, by how many
of them have a value. -/

namespace GridQuery
open Text

inductive SameLetter : Char → Char → Prop where
  | refl (c : Char) : SameLetter c c
  | lower {c d : Char} : 65 ≤ c.toNat → c.toNat ≤ 90 → d.toNat = c.toNat + 32 → SameLetter c d
  | upper {c d : Char} : 65 ≤ d.toNat → d.toNat ≤ 90 → c.toNat = d.toNat + 32 → SameLetter c d

/-- The key names the parameter: behind all of their `@` signs in front they are equal, up to the
case of ASCII letters. -/
def SameName (key parameter : String) : Prop :=
  ∃ m n s t, key.toList = List.replicate m '@' ++ s ∧ s.head? ≠ some '@' ∧
    parameter.toList = List.replicate n '@' ++ t ∧ t.head? ≠ some '@' ∧
    List.Forall₂ SameLetter s t

section Names
variable {c d : Char} {l s : List Char} {key parameter : String}

theorem sameLetter_iff : SameLetter c d ↔ c.toLower = d.toLower := by
  rw [← Char.toNat_inj, toNat_toLower, toNat_toLower]
  constructor
  · rintro (_ | _ | _) <;> split_ifs <;> omega
  · intro h
    split at h <;> split at h
    · obtain rfl : c = d := Char.toNat_inj.1 (by omega)
      exact .refl c
    · exact .lower (by omega) (by omega) (by omega)
    · exact .upper (by omega) (by omega) (by omega)
    · obtain rfl : c = d := Char.toNat_inj.1 h
      exact .refl c

theorem equalIgnoringCase_iff {s t : String} :
    equalIgnoringCase s t = true ↔ List.Forall₂ SameLetter s.toList t.toList := by
  have hf : SameLetter = fun c d => c.toLower = d.toLower := by
    ext c d
    exact sameLetter_iff
  simp only [equalIgnoringCase, lowerAscii, beq_iff_eq, String.ofList_inj, hf]
  rw [← List.forall₂_eq_eq_eq, List.forall₂_map_left_iff, List.forall₂_map_right_iff]

theorem dropWhile_eq_iff :
    l.dropWhile (· == c) = s ↔ ∃ n, l = List.replicate n c ++ s ∧ s.head? ≠ some c := by
  constructor
  · rintro rfl
    have ht : l.takeWhile (· == c) = List.replicate (l.takeWhile (· == c)).length c :=
      List.eq_replicate_of_mem fun d hd => by simpa using List.mem_takeWhile_imp hd
    refine ⟨_, by rw [← ht, List.takeWhile_append_dropWhile], fun hc => ?_⟩
    have hn := List.head?_dropWhile_not (· == c) l
    simp [hc] at hn
  · rintro ⟨n, rfl, hs⟩
    refine (takeWhile_append_of_ends (fun d hd => ?_) fun d hd => ?_).2
    · simpa using List.eq_of_mem_replicate hd
    · exact beq_eq_false_iff_ne.2 fun he => hs (he ▸ hd)

theorem sameName_iff :
    equalIgnoringCase (parameterName key) (parameterName parameter) = true ↔
      SameName key parameter := by
  rw [equalIgnoringCase_iff]
  simp only [parameterName, String.toList_ofList]
  constructor
  · intro h
    obtain ⟨m, hm, hs⟩ := dropWhile_eq_iff.1 (Eq.refl (key.toList.dropWhile (· == '@')))
    obtain ⟨n, hn, ht⟩ := dropWhile_eq_iff.1 (Eq.refl (parameter.toList.dropWhile (· == '@')))
    exact ⟨m, n, _, _, hm, hs, hn, ht, h⟩
  · rintro ⟨m, n, s, t, hm, hs, hn, ht, h⟩
    rwa [dropWhile_eq_iff.2 ⟨m, hm, hs⟩, dropWhile_eq_iff.2 ⟨n, hn, ht⟩]

instance (key parameter : String) : Decidable (SameName key parameter) :=
  decidable_of_iff _ sameName_iff

end Names

def IsGiven (values : Assoc String Literal) (parameter : String) : Prop :=
  ∃ e ∈ values, SameName e.1 parameter

instance (values : Assoc String Literal) (parameter : String) :
    Decidable (IsGiven values parameter) :=
  inferInstanceAs (Decidable (∃ e ∈ values, SameName e.1 parameter))

section IsGiven
variable {values : Assoc String Literal} {parameter : String} {v : Literal}

/-- The value of a parameter is the first one whose key names it. -/
theorem valueFor?_eq_some_iff_isFirst :
    valueFor? values parameter = some v ↔ ∃ before key,
      IsFirst (fun e => SameName e.1 parameter) values before (key, v) := by
  simp only [valueFor?, Option.map_eq_some_iff, Prod.exists, exists_eq_right,
    find?_eq_some_iff_isFirst, sameName_iff]
  exact exists_comm

theorem isGiven_iff_exists_valueFor? :
    IsGiven values parameter ↔ ∃ v, valueFor? values parameter = some v := by
  rw [IsGiven, ← exists_isFirst_iff]
  simp only [valueFor?_eq_some_iff_isFirst, Prod.exists]
  constructor
  · rintro ⟨before, key, v, h⟩
    exact ⟨v, before, key, h⟩
  · rintro ⟨v, before, key, h⟩
    exact ⟨before, key, v, h⟩

theorem decide_isGiven :
    decide (IsGiven values parameter) = (valueFor? values parameter).isSome := by
  rw [Bool.eq_iff_iff, decide_eq_true_iff, Option.isSome_iff_exists, isGiven_iff_exists_valueFor?]

end IsGiven

def givenCount (values : Assoc String Literal) (parameters : List String) : Nat :=
  parameters.countP fun p => IsGiven values p

structure Resolves (values : Assoc String Literal) (b : Bindings) (parameters : List String)
    (arguments : List Argument) (b' : Bindings) : Prop where
  length : arguments.length = parameters.length
  /-- A parameter has the default exactly if no key names it. -/
  default_iff : ∀ (i : Nat) p, parameters[i]? = some p →
    (arguments[i]? = some .default ↔ ∀ e ∈ values, ¬ SameName e.1 p)
  /-- Otherwise it is passed as the next placeholder behind those of the parameters before it,
  which is bound to the first value whose key names the parameter. -/
  bound : ∀ (i : Nat) p, parameters[i]? = some p → IsGiven values p →
    ∃ before key v, IsFirst (fun e => SameName e.1 p) values before (key, v) ∧
      arguments[i]? = some (.placeholder (placeholder
        (b.size + givenCount values (parameters.take i)))) ∧
      b'.get? (placeholder (b.size + givenCount values (parameters.take i))) = some v
  /-- No two parameters share a placeholder, not even if they are the same. -/
  distinct : ∀ (i j : Nat) name, i < j → arguments[i]? = some (.placeholder name) →
    arguments[j]? ≠ some (.placeholder name)
  size : b'.size = b.size + givenCount values parameters
  kept : b.entries <+: b'.entries

section Resolves
variable {values : Assoc String Literal} {b : Bindings} {parameters : List String}
  {hasValue : String → Bool} {n i j : Nat} {p name : String}

theorem givenCount_eq (values : Assoc String Literal) (parameters : List String) :
    givenCount values parameters = parameters.countP fun p => (valueFor? values p).isSome := by
  simp only [givenCount, decide_isGiven]

theorem length_numberedArguments (hasValue : String → Bool) (n : Nat) (parameters : List String) :
    (numberedArguments hasValue n parameters).length = parameters.length := by
  induction parameters generalizing n with
  | nil => rfl
  | cons p rest ih => cases hp : hasValue p <;> simp [numberedArguments, hp, ih]

theorem eq_placeholder_of_numberedArguments
    (h : (numberedArguments hasValue n parameters)[i]? = some (.placeholder name)) :
    ∃ p, parameters[i]? = some p ∧ hasValue p = true ∧
      name = placeholder (n + (parameters.take i).countP hasValue) := by
  rw [map_getElem?_numberedArguments] at h
  obtain ⟨p, hp, he⟩ := Option.map_eq_some_iff.1 h
  cases hv : hasValue p with
  | false => simp [hv] at he
  | true => exact ⟨p, hp, hv, by simpa [hv, eq_comm] using he⟩

theorem countP_take_lt (hp : parameters[i]? = some p) (hv : hasValue p = true) (hij : i < j) :
    (parameters.take i).countP hasValue < (parameters.take j).countP hasValue := by
  have hs : (parameters.take (i + 1)).countP hasValue =
      (parameters.take i).countP hasValue + 1 := by
    simp [List.take_add_one, hp, hv]
  have hle : (parameters.take (i + 1)).countP hasValue ≤ (parameters.take j).countP hasValue :=
    (List.take_prefix_take_left hij).sublist.countP_le
  omega

theorem distinct_numberedArguments (hij : i < j)
    (hi : (numberedArguments hasValue n parameters)[i]? = some (.placeholder name)) :
    (numberedArguments hasValue n parameters)[j]? ≠ some (.placeholder name) := by
  intro hj
  obtain ⟨p, hp, hv, rfl⟩ := eq_placeholder_of_numberedArguments hi
  obtain ⟨-, -, -, hn⟩ := eq_placeholder_of_numberedArguments hj
  have := placeholder_injective hn
  have := countP_take_lt hp hv hij
  omega

theorem entries_prefix_append (b : Bindings) (vs : List Literal) :
    b.entries <+: Bindings.entries ⟨b.values ++ vs⟩ := by
  simp only [Bindings.entries, List.mapIdx_append]
  exact List.prefix_append _ _

/-- The parameters of a function are resolved in their order. Each one has the default exactly if
no key names it, and else a placeholder of its own, bound to the first value whose key names it. -/
theorem resolves_resolveArguments (values : Assoc String Literal) (b : Bindings)
    (parameters : List String) :
    Resolves values b parameters (resolveArguments values b parameters).1
      (resolveArguments values b parameters).2 := by
  rw [resolveArguments_eq]
  constructor
  case length => exact length_numberedArguments _ _ _
  case default_iff =>
    intro i p hp
    have hn : (∀ e ∈ values, ¬ SameName e.1 p) ↔ ¬ IsGiven values p := by simp [IsGiven]
    rw [map_getElem?_numberedArguments, hp, hn]
    by_cases hm : IsGiven values p <;> simp [← decide_isGiven, hm]
  case bound =>
    intro i p hp hm
    obtain ⟨v, hv⟩ := isGiven_iff_exists_valueFor?.1 hm
    obtain ⟨before, key, hfirst⟩ := valueFor?_eq_some_iff_isFirst.1 hv
    rw [givenCount_eq]
    refine ⟨before, key, v, hfirst, getElem?_numberedArguments _ _ hp (by simp [hv]), ?_⟩
    rw [Bindings.get?_placeholder, Bindings.size, List.getElem?_append_right (by omega),
      Nat.add_sub_cancel_left]
    exact getElem?_parameterValues values hp hv
  case distinct => exact fun i j name hij => distinct_numberedArguments hij
  case size =>
    rw [givenCount_eq, ← length_parameterValues]
    simp [Bindings.size]
  case kept => exact entries_prefix_append b _

example :
    (resolveArguments [("since", .null), ("@CUSTOMERID", .int 4), ("CustomerId", .int 2)]
      ⟨[.bool true]⟩ ["customerId", "Region", "@@Since", "customerId"]).1 =
        [.placeholder "@1", .default, .placeholder "@2", .placeholder "@3"] := by
  decide +kernel

end Resolves
end GridQuery
