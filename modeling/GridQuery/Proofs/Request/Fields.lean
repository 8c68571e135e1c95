import GridQuery.Proofs.Result
import GridQuery.Request.Body

/-! # Records read field by field

The fields of an object may stand in any order, with others among them. What they make of a record
is said along the keys that were met: a part has its value once its key was met, and until then its
default. -/

namespace GridQuery

/-- A part of a record after some keys: its value if its key is among them, else its default. -/
def met {α : Type} (keys : List String) (key : String) (value default : α) : α :=
  if key ∈ keys then value else default

section Met
variable {α : Type} {keys : List String} {key key' : String} {value default : α}

@[simp] theorem met_nil : met [] key value default = default := if_neg List.not_mem_nil

@[simp] theorem met_append_self : met (keys ++ [key]) key value default = value :=
  if_pos (by simp)

theorem met_append_of_ne (h : key ≠ key') :
    met (keys ++ [key']) key value default = met keys key value default := by
  simp [met, h]

theorem met_eq (h : key ∈ keys ∨ value = default) : met keys key value default = value := by
  unfold met
  split
  · rfl
  · rename_i hk
    exact (h.resolve_left hk).symm

end Met

/-- The fields give a part under a key: every field with the key has a value of the part, and there
is such a field unless the part may be left out. -/
structure Gives (fields : List (String × Json)) (key : String) (isValue : Json → Prop)
    (mayLack : Prop) : Prop where
  value : ∀ v, (key, v) ∈ fields → isValue v
  present : key ∈ fields.map Prod.fst ∨ mayLack

theorem Gives.perm_append {fields extra all : List (String × Json)} {key : String}
    {isValue : Json → Prop} {mayLack : Prop} (h : Gives fields key isValue mayLack)
    (hx : ∀ v, (key, v) ∈ extra → isValue v) (hp : all.Perm (fields ++ extra)) :
    Gives all key isValue mayLack where
  value v hv := (List.mem_append.1 (hp.mem_iff.1 hv)).elim (h.value v) (hx v)
  present := by
    refine h.present.imp_left fun hk => ?_
    rw [(hp.map Prod.fst).mem_iff, List.map_append]
    exact List.mem_append_left _ hk

/-- A value spells a list: an array spells its items, and null spells none. -/
inductive SpellsList {α : Type} (spells : α → Json → Prop) : List α → Json → Prop where
  | null : SpellsList spells [] .null
  | array {xs : List α} {items : List Json} :
      List.Forall₂ spells xs items → SpellsList spells xs (.array items)

/-- A value spells an option: null spells that there is none. -/
inductive SpellsOption {α : Type} (spells : α → Json → Prop) : Option α → Json → Prop where
  | null : SpellsOption spells none .null
  | some {x : α} {v : Json} : spells x v → SpellsOption spells (some x) v

theorem SpellsList.null_of_eq {α : Type} {spells : α → Json → Prop} {xs : List α} (h : xs = []) :
    SpellsList spells xs .null :=
  h ▸ .null

theorem SpellsOption.null_of_eq {α : Type} {spells : α → Json → Prop} {x : Option α}
    (h : x = none) : SpellsOption spells x .null :=
  h ▸ .null

namespace Json
variable {α β : Type} {spells : α → Json → Prop} {decode : Json → Except ShapeError β} {v : Json}

theorem asBool_eq {b : Bool} (h : v = .bool b) : v.asBool = .ok b := by
  rw [h]
  rfl

theorem asOptional_of_ne_null (h : v ≠ .null) : v.asOptional decode = (decode v).map some := by
  cases v with
  | null => exact absurd rfl h
  | _ => rfl

/-- A list is decoded item by item, and no items are as good as none. -/
theorem exists_asOptional_asList (back : β → α → Prop) {xs : List α}
    (hd : ∀ x v, spells x v → ∃ y, decode v = .ok y ∧ back y x) (h : SpellsList spells xs v) :
    ∃ ys, v.asOptional (asList decode) = .ok ys ∧ List.Forall₂ back (ys.getD []) xs := by
  cases h with
  | null => exact ⟨none, rfl, .nil⟩
  | @array _ items hs =>
    have hm : ∃ ys, items.mapM decode = .ok ys ∧ List.Forall₂ back ys xs := by
      simp only [mapM_eq_ok_iff]
      induction hs with
      | nil => exact ⟨[], .nil, .nil⟩
      | cons hx _ ih =>
        obtain ⟨y, hy, hb⟩ := hd _ _ hx
        obtain ⟨ys, hys, hbs⟩ := ih
        exact ⟨y :: ys, .cons hy hys, .cons hb hbs⟩
    obtain ⟨ys, hys, hb⟩ := hm
    refine ⟨some ys, ?_, hb⟩
    rw [asOptional_of_ne_null (v := .array items) nofun, asList, hys]
    rfl

theorem exists_asOptional_asList_eq {decode : Json → Except ShapeError α} {xs : List α}
    (hd : ∀ x v, spells x v → decode v = .ok x) (h : SpellsList spells xs v) :
    ∃ ys, v.asOptional (asList decode) = .ok ys ∧ ys.getD [] = xs := by
  obtain ⟨ys, hy, hb⟩ := exists_asOptional_asList Eq (fun x v hx => ⟨x, hd x v hx, rfl⟩) h
  exact ⟨ys, hy, by rwa [List.forall₂_eq_eq_eq] at hb⟩

theorem asOptional_eq {decode : Json → Except ShapeError α} {x : Option α}
    (hd : ∀ x, spells x v → v ≠ .null ∧ decode v = .ok x) (h : SpellsOption spells x v) :
    v.asOptional decode = .ok x := by
  cases h with
  | null => rfl
  | some hx =>
    obtain ⟨hn, hx⟩ := hd _ hx
    rw [asOptional_of_ne_null hn, hx]
    rfl

end Json

namespace RecordShape
variable {σ : Type} {shape : RecordShape σ} {start : σ} {fields : List (String × Json)}

/-- Sets one field by name; an unknown name is skipped. -/
def setField (shape : RecordShape σ) (s : σ) (key : String) (v : Json) : Except ShapeError σ :=
  match shape.fields.find? (·.1 == key) with
  | some (_, set) => set s v
  | none => .ok s

theorem ofFields_cons (s : σ) (key : String) (v : Json) :
    shape.ofFields s ((key, v) :: fields) =
      shape.setField s key v >>= fun s => shape.ofFields s fields :=
  List.foldlM_cons

theorem setField_cases (shape : RecordShape σ) (s : σ) (key : String) (v : Json) :
    (∃ e ∈ shape.fields, e.1 = key ∧ shape.setField s key v = e.2 s v) ∨
      (∀ e ∈ shape.fields, e.1 ≠ key) ∧ shape.setField s key v = .ok s := by
  cases he : shape.fields.find? (·.1 == key) with
  | some e =>
    refine .inl ⟨e, List.mem_of_find?_eq_some he, by simpa using List.find?_some he, ?_⟩
    rw [setField, he]
  | none =>
    refine .inr ⟨fun e hm => by simpa using List.find?_eq_none.1 he e hm, ?_⟩
    rw [setField, he]

theorem exists_ofFields_eq_error {key : String} {v : Json} (hm : (key, v) ∈ fields)
    (hv : ∀ s, ∃ e, shape.setField s key v = .error e) (start : σ) :
    ∃ e, shape.ofFields start fields = .error e := by
  induction fields generalizing start with
  | nil => cases hm
  | cons field fields ih =>
    rw [ofFields_cons]
    rcases List.mem_cons.1 hm with rfl | hm
    · obtain ⟨e, he⟩ := hv start
      exact ⟨e, by rw [he]; rfl⟩
    · cases hs : shape.setField start field.1 field.2 with
      | error e => exact ⟨e, rfl⟩
      | ok s => exact ih hm s

/-- Reading a record keeps an invariant along the keys that were met, and succeeds, if each field
with a known name does so and the others do not matter to the invariant. -/
theorem exists_ofFields (shape : RecordShape σ) (holds : List String → σ → Prop)
    (hs : holds [] start)
    (hset : ∀ e ∈ shape.fields, ∀ keys s v, (e.1, v) ∈ fields → holds keys s →
      ∃ s', e.2 s v = .ok s' ∧ holds (keys ++ [e.1]) s')
    (hskip : ∀ key, (∀ e ∈ shape.fields, e.1 ≠ key) → ∀ keys s, holds keys s →
      holds (keys ++ [key]) s) :
    ∃ s, shape.ofFields start fields = .ok s ∧ holds (fields.map Prod.fst) s := by
  have step (key : String) (v : Json) (hm : (key, v) ∈ fields) (keys : List String) (s : σ)
      (hk : holds keys s) : ∃ s', shape.setField s key v = .ok s' ∧ holds (keys ++ [key]) s' := by
    rcases shape.setField_cases s key v with ⟨e, he, rfl, h⟩ | ⟨hn, h⟩ <;> rw [h]
    · exact hset e he keys s v hm hk
    · exact ⟨s, rfl, hskip key hn keys s hk⟩
  have run (rest : List (String × Json)) (hr : ∀ field ∈ rest, field ∈ fields)
      (keys : List String) (s : σ) (hk : holds keys s) :
      ∃ s', shape.ofFields s rest = .ok s' ∧ holds (keys ++ rest.map Prod.fst) s' := by
    induction rest generalizing keys s with
    | nil => exact ⟨s, rfl, by simpa using hk⟩
    | cons field rest ih =>
      obtain ⟨hf, hr⟩ := List.forall_mem_cons.1 hr
      obtain ⟨s', h, hk⟩ := step field.1 field.2 hf keys s hk
      rw [ofFields_cons, h, List.map_cons, List.append_cons]
      exact ih hr _ _ hk
  simpa using run fields (fun _ h => h) [] start hs

variable {ρ α : Type} {stands : σ → ρ → Prop}

/-- A field adds the part with its key: whatever value is under the key, setting it makes of a
record that stands for something one that stands for it with the part. -/
def Adds (stands : σ → ρ → Prop) (fields : List (String × Json))
    (field : String × (σ → Json → Except ShapeError σ)) (part : String × (ρ → ρ)) : Prop :=
  field.1 = part.1 ∧ ∀ v, (field.1, v) ∈ fields → ∀ s x, stands s x →
    ∃ s', field.2 s v = .ok s' ∧ stands s' (part.2 x)

theorem Adds.of_decode {key : String} {decode : Json → Except ShapeError α} {put : σ → α → σ}
    {part : ρ → ρ}
    (h : ∀ v, (key, v) ∈ fields →
      ∃ a, decode v = .ok a ∧ ∀ s x, stands s x → stands (put s a) (part x)) :
    Adds stands fields (key, fun s v => decode v >>= fun a => pure (put s a)) (key, part) := by
  refine ⟨rfl, fun v hv s x hs => ?_⟩
  obtain ⟨a, hd, ha⟩ := h v hv
  exact ⟨put s a, congrArg (· >>= fun a => pure (put s a)) hd, ha s x hs⟩

/-- Reading a record adds the parts whose keys are met, if each known field adds its part. -/
theorem exists_ofFields_stands {parts : List (String × (ρ → ρ))} (only : List String → ρ)
    (hs : stands start (only []))
    (hadd : List.Forall₂ (Adds stands fields) shape.fields parts)
    (honly : ∀ p ∈ parts, ∀ keys, only (keys ++ [p.1]) = p.2 (only keys))
    (hskip : ∀ key, (∀ p ∈ parts, p.1 ≠ key) → ∀ keys, only (keys ++ [key]) = only keys) :
    ∃ s, shape.ofFields start fields = .ok s ∧ stands s (only (fields.map Prod.fst)) := by
  refine shape.exists_ofFields (fun keys s => stands s (only keys)) hs ?_ ?_
  · intro e he keys s v hv hk
    obtain ⟨p, hp, hep, hset⟩ := exists_mem_of_forall₂ hadd he
    rw [hep, honly p hp]
    exact hset v hv s _ hk
  · intro key hn keys s hk
    rw [hskip key (fun p hp => ?_) keys]
    · exact hk
    · obtain ⟨e, he, hep, -⟩ := exists_mem_of_forall₂ hadd.flip hp
      exact hep ▸ hn e he

end RecordShape
end GridQuery
