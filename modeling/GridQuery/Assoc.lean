/-! # Insertion-ordered entries

Entries keep the order in which their keys were first put; putting a known key replaces its
value in place. -/

namespace GridQuery

/-- Keys with values, in the order of first insertion. -/
abbrev Assoc (κ β : Type) := List (κ × β)

namespace Assoc
variable {κ β : Type} [BEq κ]

def put : Assoc κ β → κ → β → Assoc κ β
  | [], k, v => [(k, v)]
  | (k', v') :: rest, k, v => if k' == k then (k', v) :: rest else (k', v') :: put rest k v

section Lawful
variable [LawfulBEq κ] {k k' : κ}

theorem lookup_cons_of_ne (v : β) (m : Assoc κ β) (h : k ≠ k') :
    List.lookup k ((k', v) :: m) = m.lookup k := by
  rw [List.lookup_cons, beq_false_of_ne h]

theorem lookup_cons_cons_comm (v w : β) (m : Assoc κ β) (h : k ≠ k') {i : κ} :
    List.lookup i ((k, v) :: (k', w) :: m) = List.lookup i ((k', w) :: (k, v) :: m) := by
  by_cases hi : i = k
  · subst hi
    rw [List.lookup_cons_self, lookup_cons_of_ne w _ h, List.lookup_cons_self]
  · rw [lookup_cons_of_ne v _ hi, List.lookup_cons, List.lookup_cons, lookup_cons_of_ne v _ hi]

theorem lookup_put (m : Assoc κ β) (k : κ) (v : β) : (m.put k v).lookup k = some v := by
  induction m with
  | nil => exact List.lookup_cons_self
  | cons e m ih =>
    obtain ⟨k', w⟩ := e
    by_cases h : k' = k
    · simp [put, h]
    · simp [put, h, lookup_cons_of_ne _ _ (Ne.symm h), ih]

theorem lookup_put_of_ne (m : Assoc κ β) (v : β) (h : k ≠ k') :
    (m.put k v).lookup k' = m.lookup k' := by
  induction m with
  | nil => exact lookup_cons_of_ne v [] (Ne.symm h)
  | cons e m ih =>
    obtain ⟨k'', w⟩ := e
    by_cases he : k'' = k
    · subst he
      simp [put, lookup_cons_of_ne _ _ (Ne.symm h)]
    · by_cases hk : k' = k''
      · subst hk
        simp [put, he]
      · simp [put, he, lookup_cons_of_ne _ _ hk, ih]

theorem lookup_eq_none_iff_notMem (m : Assoc κ β) (k : κ) :
    m.lookup k = none ↔ k ∉ m.map Prod.fst := by
  rw [List.lookup_eq_none_iff]
  constructor
  · intro h hk
    obtain ⟨e, he, rfl⟩ := List.mem_map.1 hk
    simpa using h e he
  · intro h e he
    rw [bne_iff_ne]
    rintro rfl
    exact h (List.mem_map_of_mem he)

end Lawful
end Assoc
end GridQuery
