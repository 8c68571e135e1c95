import GridQuery.Assoc
import Mathlib.Data.List.Nodup

/-! # Putting entries one after the other

A key keeps the place where it was put first and has the value that was put last. -/

namespace GridQuery.Assoc
variable {κ β : Type} [BEq κ] {k : κ} {v : β}

def putAll (m entries : Assoc κ β) : Assoc κ β := entries.foldl (fun m e => m.put e.1 e.2) m

section Lawful
variable [LawfulBEq κ]

/-- A key that was put has its last value, and any other key the value it had. -/
theorem lookup_putAll (m entries : Assoc κ β) (k : κ) :
    (m.putAll entries).lookup k = (entries.reverse.lookup k).or (m.lookup k) := by
  induction entries generalizing m with
  | nil => rfl
  | cons e entries ih =>
    obtain ⟨k', v⟩ := e
    show ((m.put k' v).putAll entries).lookup k = _
    rw [ih, List.reverse_cons, List.lookup_append, Option.or_assoc]
    congr 1
    by_cases hk : k' = k
    · subst hk
      simp [lookup_put]
    · simp [lookup_put_of_ne m v hk, lookup_cons_of_ne v [] (Ne.symm hk)]

theorem find?_keys_put (m : Assoc κ β) (k : κ) (v : β) (p : κ → Bool) :
    ((m.put k v).map Prod.fst).find? p = (m.map Prod.fst ++ [k]).find? p := by
  induction m with
  | nil => rfl
  | cons e m ih =>
    by_cases he : e.1 = k
    · subst he
      cases hp : p e.1 <;> simp [put, hp]
    · cases hp : p e.1 <;> simp_all [put]

/-- Where no key comes twice, looking a key up gives the value that stands with it. -/
theorem lookup_eq_some_iff_mem {m : Assoc κ β} (h : (m.map Prod.fst).Nodup) :
    m.lookup k = some v ↔ (k, v) ∈ m := by
  rw [List.lookup_eq_some_iff]
  constructor
  · rintro ⟨l, l', rfl, -⟩
    simp
  · intro hm
    obtain ⟨l, l', rfl⟩ := List.append_of_mem hm
    refine ⟨l, l', rfl, fun e he => ?_⟩
    rw [List.map_append, List.nodup_append] at h
    rw [bne_iff_ne]
    exact (h.2.2 _ (List.mem_map_of_mem he) k (by simp)).symm

theorem exists_or_lookup (m entries : Assoc κ β)
    (h : k ∈ (m ++ entries).map Prod.fst) :
    ∃ v, (entries.reverse.lookup k).or (m.lookup k) = some v := by
  rw [← Option.ne_none_iff_exists', ne_eq, Option.or_eq_none_iff, lookup_eq_none_iff_notMem,
    lookup_eq_none_iff_notMem]
  simp only [List.map_append, List.mem_append, List.map_reverse, List.mem_reverse] at h ⊢
  exact fun hno => h.elim hno.2 hno.1

/-- Putting keeps the order of keys, so a key that comes first stays first. -/
theorem find?_keys_putAll (m entries : Assoc κ β) (p : κ → Bool) :
    ((m.putAll entries).map Prod.fst).find? p =
      ((m ++ entries).map Prod.fst).find? p := by
  induction entries generalizing m with
  | nil => simp [putAll]
  | cons e entries ih =>
    show (((m.put e.1 e.2).putAll entries).map Prod.fst).find? p = _
    rw [ih]
    simp only [List.map_append, List.map_cons, List.find?_append, find?_keys_put, Option.or_assoc]
    cases hp : p e.1 <;> simp [hp]

/-- The first value whose key has a property is the value of the first such key. -/
theorem map_snd_find? (m : Assoc κ β) (p : κ → Bool) :
    Option.map Prod.snd (List.find? (fun e => p e.1) m) =
      ((m.map Prod.fst).find? p).bind (m.lookup ·) := by
  induction m with
  | nil => rfl
  | cons e m ih =>
    obtain ⟨k', v⟩ := e
    cases hp : p k'
    · have hf : (List.map Prod.fst ((k', v) :: m)).find? p = (m.map Prod.fst).find? p := by
        simp [hp]
      rw [List.find?_cons_of_neg (by simp [hp]), ih, hf]
      refine Option.bind_congr fun k hk => ?_
      -- the key has the property, so it is not the one before
      have hne : k ≠ k' := by
        rintro rfl
        simp [List.find?_some hk] at hp
      exact (lookup_cons_of_ne v m hne).symm
    · simp [hp]

theorem keys_prefix_keys_put (m : Assoc κ β) (k : κ) (v : β) :
    m.map Prod.fst <+: (m.put k v).map Prod.fst := by
  induction m with
  | nil => exact List.nil_prefix
  | cons e m ih =>
    by_cases he : e.1 = k
    · simp [put, he]
    · simpa [put, he] using ih

theorem keys_prefix_keys_putAll (m entries : Assoc κ β) :
    m.map Prod.fst <+: (m.putAll entries).map Prod.fst := by
  induction entries generalizing m with
  | nil => exact List.prefix_rfl
  | cons e entries ih => exact (keys_prefix_keys_put m e.1 e.2).trans (ih _)

theorem mem_keys_putAll {m entries : Assoc κ β} {k : κ} :
    k ∈ (m.putAll entries).map Prod.fst ↔ k ∈ (m ++ entries).map Prod.fst := by
  rw [← not_iff_not, ← lookup_eq_none_iff_notMem, lookup_putAll, Option.or_eq_none_iff,
    lookup_eq_none_iff_notMem, lookup_eq_none_iff_notMem]
  simp [and_comm, not_or]

theorem nodup_keys_put {m : Assoc κ β} (h : (m.map Prod.fst).Nodup) (k : κ) (v : β) :
    ((m.put k v).map Prod.fst).Nodup := by
  induction m with
  | nil => simp [put]
  | cons e m ih =>
    obtain ⟨he, hm⟩ := List.nodup_cons.1 h
    by_cases hk : e.1 = k
    · simpa [put, hk] using h
    · have hp : put (e :: m) k v = e :: put m k v := by simp [put, hk]
      have hn : e.1 ∉ (put m k v).map Prod.fst := by
        rw [← lookup_eq_none_iff_notMem, lookup_put_of_ne m v (Ne.symm hk),
          lookup_eq_none_iff_notMem]
        exact he
      rw [hp, List.map_cons, List.nodup_cons]
      exact ⟨hn, ih hm⟩

theorem nodup_keys_putAll {m : Assoc κ β} (h : (m.map Prod.fst).Nodup) (entries : Assoc κ β) :
    ((m.putAll entries).map Prod.fst).Nodup := by
  induction entries generalizing m with
  | nil => exact h
  | cons e entries ih => exact ih (nodup_keys_put h e.1 e.2)

theorem put_of_notMem {m : Assoc κ β} (h : k ∉ m.map Prod.fst) (v : β) :
    m.put k v = m ++ [(k, v)] := by
  induction m with
  | nil => rfl
  | cons e m ih =>
    obtain ⟨he, hm⟩ := not_or.1 (mt List.mem_cons.2 h)
    simp [put, Ne.symm he, ih hm]

theorem putAll_eq_append {m entries : Assoc κ β} (h : ((m ++ entries).map Prod.fst).Nodup) :
    m.putAll entries = m ++ entries := by
  induction entries generalizing m with
  | nil => simp [putAll]
  | cons e entries ih =>
    have hs : m ++ e :: entries = (m ++ [e]) ++ entries := by simp
    have hk : e.1 ∉ m.map Prod.fst := by
      rw [List.map_append, List.nodup_append] at h
      exact fun hm => h.2.2 _ hm _ (by simp) rfl
    show (m.put e.1 e.2).putAll entries = _
    rw [put_of_notMem hk, hs]
    exact ih (by rwa [← hs])

theorem eq_or_mem_of_mem_put {m : Assoc κ β} {e : κ × β} (h : e ∈ m.put k v) :
    e = (k, v) ∨ e ∈ m := by
  induction m with
  | nil => exact .inl (by simpa [put] using h)
  | cons e' m ih =>
    by_cases he : e'.1 = k
    · subst he
      rcases List.mem_cons.1 (by simpa [put] using h) with he | he
      · exact .inl he
      · exact .inr (List.mem_cons_of_mem _ he)
    · rcases List.mem_cons.1 (by simpa [put, he] using h) with rfl | he
      · exact .inr List.mem_cons_self
      · exact (ih he).imp_right (List.mem_cons_of_mem _)

end Lawful
end GridQuery.Assoc
