import GridQuery.Proofs.Assoc
import GridQuery.Proofs.FilterArray.Written
import GridQuery.Proofs.Request.Fields

/-! # Requests written as bodies

A body spells a request if each part is under its own key, as an array, an object or a scalar, in
any order and with any other keys among them. A part that is as by default may be left out, and be
null unless it is a truth value. Such a body is read as the request. -/

namespace GridQuery
open RecordShape

def SpellsString (s : String) (v : Json) : Prop := v = .string s

def SpellsCount (n : UInt64) (v : Json) : Prop := v = .int n.toNat

inductive Grouping.SpelledBy (g : Grouping) : Json → Prop where
  | object {fields : List (String × Json)}
      (selector : Gives fields "selector" (SpellsString g.column) False)
      (expanded : Gives fields "expanded" (· = .bool g.expanded) (g.expanded = false)) :
      g.SpelledBy (.object fields)

def SortKey.column? : SortKey → Option String
  | column name => some name
  | expression _ => none

def SortKey.expression? : SortKey → Option String
  | column _ => none
  | expression text => some text

/-- An object spells a sort item, by its column or by its expression. -/
inductive SortItem.SpelledBy (i : SortItem) : Json → Prop where
  | object {fields : List (String × Json)}
      (selector : Gives fields "selector" (SpellsOption SpellsString i.key.column?)
        (i.key.column? = none))
      (expression : Gives fields "expression" (SpellsOption SpellsString i.key.expression?)
        (i.key.expression? = none))
      (desc : Gives fields "desc" (· = .bool i.descending) (i.descending = false)) :
      i.SpelledBy (.object fields)

def valuesToJson (values : Assoc String Literal) : Json :=
  .object (values.map fun e => (e.1, e.2.toJson))

/-- An object spells the values of parameters, and null spells that there are none. -/
inductive SpellsValues : Assoc String Literal → Json → Prop where
  | null : SpellsValues [] .null
  | object (values : Assoc String Literal) : SpellsValues values (valuesToJson values)

theorem SpellsValues.null_of_eq {values : Assoc String Literal} (h : values = []) :
    SpellsValues values .null :=
  h ▸ .null

namespace Request
variable {r : Request} {sp : Filter.Spelling} {fields : List (String × Json)}

/-- The fields of an object spell a request. -/
structure SpelledBy (sp : Filter.Spelling) (r : Request) (fields : List (String × Json)) :
    Prop where
  group : Gives fields "group" (SpellsList Grouping.SpelledBy r.grouping) (r.grouping = [])
  select : Gives fields "select" (SpellsList SpellsString r.fields) (r.fields = [])
  filter : Gives fields "filter" (SpellsOption (fun f v => v = f.array sp) r.filter)
    (r.filter = none)
  orderBy : Gives fields "orderby" (SpellsList SortItem.SpelledBy r.sort) (r.sort = [])
  take : Gives fields "take" (SpellsOption SpellsCount r.take) (r.take = none)
  skip : Gives fields "skip" (SpellsOption SpellsCount r.skip) (r.skip = none)
  showTotal : Gives fields "showTotal" (· = .bool r.showTotal) (r.showTotal = false)
  loadAll : Gives fields "loadAll" (· = .bool r.loadAll) (r.loadAll = false)
  userData : Gives fields "userData" (SpellsValues r.userData) (r.userData = [])

structure Writable (r : Request) : Prop where
  filter : ∀ f ∈ r.filter, f.Plain (· ≠ "!")
  scalar : ∀ e ∈ r.userData, e.2.isScalar = true
  nodup : (r.userData.map Prod.fst).Nodup

end Request

section Parts
variable {v : Json}

def Grouping.parts (g : Grouping) : List (String × (BodyGroup → BodyGroup)) :=
  [("selector", fun s => { s with selector := some g.column }),
    ("expanded", fun s => { s with expanded := g.expanded })]

def Grouping.after (g : Grouping) (keys : List String) : BodyGroup where
  selector := met keys "selector" (some g.column) none
  expanded := met keys "expanded" g.expanded false

theorem SpellsString.asString_eq {s : String} (h : SpellsString s v) : v.asString = .ok s := by
  rw [h]
  rfl

theorem Grouping.SpelledBy.decode_eq {g : Grouping} (h : g.SpelledBy v) :
    BodyGroup.decode v = .ok g := by
  cases h with
  | @object fields selector expanded =>
    have hadd : List.Forall₂ (Adds Eq fields) BodyGroup.shape.fields g.parts := by
      simp only [BodyGroup.shape, Grouping.parts, List.forall₂_cons]
      refine ⟨.of_decode fun v hv => ?_, .of_decode fun v hv => ?_, .nil⟩
      · exact ⟨_, (selector.value v hv).asString_eq, fun _ _ hs => hs ▸ rfl⟩
      · exact ⟨_, Json.asBool_eq (expanded.value v hv), fun _ _ hs => hs ▸ rfl⟩
    obtain ⟨_, hr, rfl⟩ := exists_ofFields_stands g.after (rfl : ({} : BodyGroup) = _) hadd
      (by simp [Grouping.parts, Grouping.after, met_append_of_ne])
      (by simp +contextual [Grouping.parts, Grouping.after, met_append_of_ne])
    rw [BodyGroup.decode, RecordShape.decode, hr, Grouping.after,
      met_eq (selector.present.imp_right False.elim), met_eq expanded.present]
    rfl

def SortItem.parts (i : SortItem) : List (String × (BodySort → BodySort)) :=
  [("selector", fun s => { s with selector := i.key.column? }),
    ("expression", fun s => { s with expression := i.key.expression? }),
    ("desc", fun s => { s with descending := i.descending })]

def SortItem.after (i : SortItem) (keys : List String) : BodySort where
  selector := met keys "selector" i.key.column? none
  expression := met keys "expression" i.key.expression? none
  descending := met keys "desc" i.descending false

theorem asOptional_spellsString {s : Option String} (h : SpellsOption SpellsString s v) :
    v.asOptional Json.asString = .ok s := by
  refine Json.asOptional_eq (fun s hs => ⟨?_, hs.asString_eq⟩) h
  rintro rfl
  cases hs

theorem asOptional_spellsCount {n : Option UInt64} (h : SpellsOption SpellsCount n v) :
    v.asOptional Json.asUnsigned = .ok n := by
  refine Json.asOptional_eq ?_ h
  rintro n rfl
  exact ⟨nofun, by rw [Json.asUnsigned, unsigned?_toNat]⟩

theorem SortItem.SpelledBy.exists_decode {i : SortItem} (h : i.SpelledBy v) :
    ∃ s, BodySort.shape.decode {} v = .ok s ∧ s.toItem = .ok i := by
  cases h with
  | @object fields selector expression desc =>
    have hadd : List.Forall₂ (Adds Eq fields) BodySort.shape.fields i.parts := by
      simp only [BodySort.shape, SortItem.parts, List.forall₂_cons]
      refine ⟨.of_decode fun v hv => ?_, .of_decode fun v hv => ?_, .of_decode fun v hv => ?_, .nil⟩
      · exact ⟨_, asOptional_spellsString (selector.value v hv), fun _ _ hs => hs ▸ rfl⟩
      · exact ⟨_, asOptional_spellsString (expression.value v hv), fun _ _ hs => hs ▸ rfl⟩
      · exact ⟨_, Json.asBool_eq (desc.value v hv), fun _ _ hs => hs ▸ rfl⟩
    obtain ⟨_, hr, rfl⟩ := exists_ofFields_stands i.after (rfl : ({} : BodySort) = _) hadd
      (by simp [SortItem.parts, SortItem.after, met_append_of_ne])
      (by simp +contextual [SortItem.parts, SortItem.after, met_append_of_ne])
    refine ⟨_, hr, ?_⟩
    rw [SortItem.after, met_eq selector.present, met_eq expression.present, met_eq desc.present]
    obtain ⟨key, descending⟩ := i
    cases key <;> rfl

theorem exists_asOptional_filter {sp : Filter.Spelling} {f : Option Filter}
    (hf : ∀ g ∈ f, g.Plain (· ≠ "!")) (h : SpellsOption (fun g v => v = g.array sp) f v) :
    ∃ o : Option Json, v.asOptional .ok = .ok o ∧ Filter.ofValue (o.getD .null) = .ok f := by
  cases h with
  | null => exact ⟨none, rfl, rfl⟩
  | @some g _ hv =>
    obtain ⟨items, hi, ho⟩ := Filter.ofItems_array (hf g rfl) sp
    rw [hv, hi]
    refine ⟨some (.array items), rfl, ?_⟩
    cases items with
    | nil => cases ho
    | cons first rest =>
      show (Filter.ofItems (first :: rest)).map some = _
      rw [ho]
      rfl

/-- Scalars under different keys are read in their order. -/
theorem values_toJson {values : Assoc String Literal} (hv : ∀ e ∈ values, e.2.isScalar = true)
    (hn : (values.map Prod.fst).Nodup) :
    Body.values (values.map fun e => (e.1, e.2.toJson)) = values := by
  have hp : Body.values (values.map fun e => (e.1, e.2.toJson)) = Assoc.putAll [] values := by
    rw [Body.values, List.foldl_map]
    refine List.foldl_ext _ _ _ fun m e he => ?_
    simp only [Literal.ofJson_toJson (hv e he)]
  rw [hp, Assoc.putAll_eq_append (by simpa using hn), List.nil_append]

theorem exists_asOptional_values {values : Assoc String Literal} (hv : ∀ e ∈ values, e.2.isScalar = true)
    (hn : (values.map Prod.fst).Nodup) (h : SpellsValues values v) :
    ∃ o : Option (List (String × Json)), v.asOptional Json.asFields = .ok o ∧
      Body.values (o.getD []) = values := by
  cases h with
  | null => exact ⟨none, rfl, rfl⟩
  | object => exact ⟨some _, rfl, values_toJson hv hn⟩

end Parts

/-- The parts of a body stand for those of a request. -/
structure Body.StandsFor (b : Body) (r : Request) : Prop where
  group : b.group.getD [] = r.grouping
  select : b.select.getD [] = r.fields
  filter : Filter.ofValue (b.filter.getD .null) = .ok r.filter
  orderBy : (b.orderBy.getD []).mapM BodySort.toItem = .ok r.sort
  take : b.take = r.take
  skip : b.skip = r.skip
  showTotal : b.showTotal = r.showTotal
  loadAll : b.loadAll = r.loadAll
  userData : Body.values (b.userData.getD []) = r.userData

theorem Body.StandsFor.toRequest_eq {b : Body} {r : Request} (h : b.StandsFor r) :
    b.toRequest = .ok r := by
  simp only [Body.toRequest, h.orderBy, h.filter, h.group, h.select, h.take, h.skip, h.showTotal,
    h.loadAll, h.userData]
  rfl

namespace Request
variable {r : Request} {sp : Filter.Spelling} {fields : List (String × Json)}

/-- The request with only the parts whose keys are given, and all others as by default. -/
def only (keys : List String) (r : Request) : Request where
  grouping := met keys "group" r.grouping []
  fields := met keys "select" r.fields []
  filter := met keys "filter" r.filter none
  sort := met keys "orderby" r.sort []
  take := met keys "take" r.take none
  skip := met keys "skip" r.skip none
  showTotal := met keys "showTotal" r.showTotal false
  loadAll := met keys "loadAll" r.loadAll false
  userData := met keys "userData" r.userData []

/-- What each key adds to a request. -/
def parts (r : Request) : List (String × (Request → Request)) :=
  [("group", fun s => { s with grouping := r.grouping }),
    ("select", fun s => { s with fields := r.fields }),
    ("filter", fun s => { s with filter := r.filter }),
    ("orderby", fun s => { s with sort := r.sort }),
    ("take", fun s => { s with take := r.take }),
    ("skip", fun s => { s with skip := r.skip }),
    ("showTotal", fun s => { s with showTotal := r.showTotal }),
    ("loadAll", fun s => { s with loadAll := r.loadAll }),
    ("userData", fun s => { s with userData := r.userData })]

theorem only_append_of_known (r : Request) :
    ∀ p ∈ r.parts, ∀ keys, r.only (keys ++ [p.1]) = p.2 (r.only keys) := by
  simp [parts, only, met_append_of_ne]

theorem only_append_of_unknown (r : Request) :
    ∀ key, (∀ p ∈ r.parts, p.1 ≠ key) → ∀ keys, r.only (keys ++ [key]) = r.only keys := by
  simp +contextual [parts, only, met_append_of_ne]

theorem SpelledBy.only_eq (h : r.SpelledBy sp fields) : r.only (fields.map Prod.fst) = r := by
  simp only [only, met_eq h.group.present, met_eq h.select.present, met_eq h.filter.present,
    met_eq h.orderBy.present, met_eq h.take.present, met_eq h.skip.present,
    met_eq h.showTotal.present, met_eq h.loadAll.present, met_eq h.userData.present]

theorem SpelledBy.adds (h : r.SpelledBy sp fields) (hw : r.Writable) :
    List.Forall₂ (Adds Body.StandsFor fields) Body.shape.fields r.parts := by
  simp only [Body.shape, parts, List.forall₂_cons]
  refine ⟨.of_decode ?group, .of_decode ?select, .of_decode ?filter, .of_decode ?orderBy,
    .of_decode ?take, .of_decode ?skip, .of_decode ?showTotal, .of_decode ?loadAll,
    .of_decode ?userData, .nil⟩ <;> intro v hv
  case group =>
    obtain ⟨x, hx, hg⟩ := Json.exists_asOptional_asList_eq (fun _ _ hg => hg.decode_eq)
      (h.group.value v hv)
    exact ⟨x, hx, fun _ _ hb => { hb with group := hg }⟩
  case select =>
    obtain ⟨x, hx, hs⟩ := Json.exists_asOptional_asList_eq (fun _ _ hs => hs.asString_eq)
      (h.select.value v hv)
    exact ⟨x, hx, fun _ _ hb => { hb with select := hs }⟩
  case filter =>
    obtain ⟨x, hx, hf⟩ := exists_asOptional_filter hw.filter (h.filter.value v hv)
    exact ⟨x, hx, fun _ _ hb => { hb with filter := hf }⟩
  case orderBy =>
    obtain ⟨x, hx, hs⟩ := Json.exists_asOptional_asList (fun (s : BodySort) i => s.toItem = .ok i)
      (fun _ _ hs => hs.exists_decode) (h.orderBy.value v hv)
    exact ⟨x, hx, fun _ _ hb => { hb with orderBy := mapM_eq_ok_iff.2 hs }⟩
  case take =>
    exact ⟨_, asOptional_spellsCount (h.take.value v hv), fun _ _ hb => { hb with take := rfl }⟩
  case skip =>
    exact ⟨_, asOptional_spellsCount (h.skip.value v hv), fun _ _ hb => { hb with skip := rfl }⟩
  case showTotal =>
    exact ⟨_, Json.asBool_eq (h.showTotal.value v hv), fun _ _ hb => { hb with showTotal := rfl }⟩
  case loadAll =>
    exact ⟨_, Json.asBool_eq (h.loadAll.value v hv), fun _ _ hb => { hb with loadAll := rfl }⟩
  case userData =>
    obtain ⟨x, hx, hu⟩ := exists_asOptional_values hw.scalar hw.nodup (h.userData.value v hv)
    exact ⟨x, hx, fun _ _ hb => { hb with userData := hu }⟩

/-- A body that spells a request is read as the request. -/
theorem SpelledBy.ofJson_eq (h : r.SpelledBy sp fields) (hw : r.Writable) :
    Request.ofJson (.object fields) = .ok r := by
  have hs : Body.StandsFor {} (r.only []) := by
    constructor <;> simp [only, Filter.ofValue, Body.values, pure, Except.pure]
  obtain ⟨b, hr, hb⟩ := exists_ofFields_stands r.only hs (h.adds hw) r.only_append_of_known
    r.only_append_of_unknown
  rw [h.only_eq] at hb
  rw [Request.ofJson, RecordShape.decode, hr]
  exact hb.toRequest_eq

end Request
end GridQuery
