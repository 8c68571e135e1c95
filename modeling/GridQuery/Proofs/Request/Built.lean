import GridQuery.Proofs.Request.Written
import Mathlib.Tactic.MkIffOfInductiveProp

/-! # Requests built step by step

A request that is built from the default one has a body that is read as the request: the fields of
its parts, also among unknown fields and nulls for the parts that it does not have. -/

namespace GridQuery

def Grouping.toJson (g : Grouping) : Json :=
  .object [("selector", .string g.column), ("expanded", .bool g.expanded)]

def SortItem.toJson (i : SortItem) : Json :=
  .object [match i.key with
    | .column name => ("selector", .string name)
    | .expression text => ("expression", .string text), ("desc", .bool i.descending)]

def listPart? {α : Type} (toJson : α → Json) (xs : List α) : Option Json :=
  if xs.isEmpty then none else some (.array (xs.map toJson))

def boolPart? (b : Bool) : Option Json := if b then some (.bool true) else none

def valuesPart? (values : Assoc String Literal) : Option Json :=
  if values.isEmpty then none else some (valuesToJson values)

section Parts
variable {α : Type} {spells : α → Json → Prop} {toJson : α → Json} {key : String} {v : Option Json}
  {fields : List (String × Json)} {isValue : Json → Prop} {mayLack : Prop}

theorem gives_part (h : ∀ w, (key, w) ∈ fields ↔ v = some w) (hv : ∀ w, v = some w → isValue w)
    (hl : v = none → mayLack) : Gives fields key isValue mayLack where
  value w hw := hv w ((h w).1 hw)
  present := by
    cases v with
    | none => exact .inr (hl rfl)
    | some w => exact .inl (List.mem_map_of_mem (f := Prod.fst) ((h w).2 rfl))

theorem gives_list {xs : List α} (h : ∀ w, (key, w) ∈ fields ↔ listPart? toJson xs = some w)
    (hs : ∀ x, spells x (toJson x)) : Gives fields key (SpellsList spells xs) (xs = []) := by
  refine gives_part h (fun w hw => ?_) fun hn => ?_
  · obtain ⟨-, ⟨⟩⟩ := Option.ite_none_left_eq_some.1 hw
    exact .array (List.forall₂_map_right_iff.2 (List.forall₂_same.2 fun x _ => hs x))
  · simpa [listPart?] using hn

theorem gives_option {x : Option α} (h : ∀ w, (key, w) ∈ fields ↔ x.map toJson = some w)
    (hs : ∀ x, spells x (toJson x)) : Gives fields key (SpellsOption spells x) (x = none) := by
  refine gives_part h (fun w hw => ?_) Option.map_eq_none_iff.1
  obtain ⟨x, rfl, rfl⟩ := Option.map_eq_some_iff.1 hw
  exact .some (hs x)

theorem gives_bool {b : Bool} (h : ∀ w, (key, w) ∈ fields ↔ boolPart? b = some w) :
    Gives fields key (· = .bool b) (b = false) := by
  refine gives_part h (fun w hw => ?_) fun hn => ?_
  · obtain ⟨rfl, ⟨⟩⟩ := Option.ite_none_right_eq_some.1 hw
    rfl
  · simpa [boolPart?] using hn

theorem gives_values {values : Assoc String Literal}
    (h : ∀ w, (key, w) ∈ fields ↔ valuesPart? values = some w) :
    Gives fields key (SpellsValues values) (values = []) := by
  refine gives_part h (fun w hw => ?_) fun hn => ?_
  · obtain ⟨-, ⟨⟩⟩ := Option.ite_none_left_eq_some.1 hw
    exact .object values
  · simpa [valuesPart?] using hn

end Parts

theorem spellsString_string (s : String) : SpellsString s (.string s) := rfl

theorem spellsCount_toNat (n : UInt64) : SpellsCount n (.int n.toNat) := rfl

theorem Grouping.spelledBy_toJson (g : Grouping) : g.SpelledBy g.toJson :=
  .object ⟨by simp [SpellsString], by simp⟩ ⟨by simp, by simp⟩

theorem SortItem.spelledBy_toJson (i : SortItem) : i.SpelledBy i.toJson := by
  obtain ⟨key, descending⟩ := i
  refine .object (gives_option ?_ spellsString_string) (gives_option ?_ spellsString_string)
    ⟨?_, ?_⟩ <;>
  cases key <;> simp [SortKey.column?, SortKey.expression?, eq_comm]

namespace Request
variable {r : Request} {sp : Filter.Spelling} {fields extra all : List (String × Json)}

/-- The fields of a request: those of the parts that are not as by default. -/
def bodyFields (sp : Filter.Spelling) (r : Request) : List (String × Json) :=
  [("group", listPart? Grouping.toJson r.grouping),
    ("select", listPart? .string r.fields),
    ("filter", r.filter.map (Filter.array sp)),
    ("orderby", listPart? SortItem.toJson r.sort),
    ("take", r.take.map fun n => .int n.toNat),
    ("skip", r.skip.map fun n => .int n.toNat),
    ("showTotal", boolPart? r.showTotal),
    ("loadAll", boolPart? r.loadAll),
    ("userData", valuesPart? r.userData)].filterMap fun part => part.2.map (part.1, ·)

theorem spelledBy_bodyFields (sp : Filter.Spelling) (r : Request) :
    r.SpelledBy sp (r.bodyFields sp) where
  group := gives_list (by simp [bodyFields]) Grouping.spelledBy_toJson
  select := gives_list (by simp [bodyFields]) spellsString_string
  filter := gives_option (by simp [bodyFields]) fun _ => rfl
  orderBy := gives_list (by simp [bodyFields]) SortItem.spelledBy_toJson
  take := gives_option (by simp [bodyFields]) spellsCount_toNat
  skip := gives_option (by simp [bodyFields]) spellsCount_toNat
  showTotal := gives_bool (by simp [bodyFields])
  loadAll := gives_bool (by simp [bodyFields])
  userData := gives_values (by simp [bodyFields])

/-- The request has nothing under the key of an optional part. -/
@[mk_iff]
inductive Lacks (r : Request) : String → Prop where
  | group : r.grouping = [] → r.Lacks "group"
  | select : r.fields = [] → r.Lacks "select"
  | filter : r.filter = none → r.Lacks "filter"
  | orderBy : r.sort = [] → r.Lacks "orderby"
  | take : r.take = none → r.Lacks "take"
  | skip : r.skip = none → r.Lacks "skip"
  | userData : r.userData = [] → r.Lacks "userData"

/-- The field has an unknown key, or is null for a part that the request does not have. -/
def Ignores (r : Request) (field : String × Json) : Prop :=
  (∀ e ∈ Body.shape.fields, e.1 ≠ field.1) ∨ r.Lacks field.1 ∧ field.2 = .null

theorem SpelledBy.perm_append (h : r.SpelledBy sp fields) (hx : ∀ e ∈ extra, r.Ignores e)
    (hp : all.Perm (fields ++ extra)) : r.SpelledBy sp all := by
  have add {key : String} {isValue : Json → Prop} {mayLack : Prop}
      (hg : Gives fields key isValue mayLack) (hn : r.Lacks key → isValue .null)
      (hk : key ∈ Body.shape.fields.map Prod.fst := by simp [Body.shape]) :
      Gives all key isValue mayLack := by
    obtain ⟨e, he, rfl⟩ := List.mem_map.1 hk
    refine hg.perm_append (fun v hv => ?_) hp
    obtain ⟨hl, rfl⟩ := (hx _ hv).resolve_left fun hn => hn e he rfl
    exact hn hl
  exact
    { group := add h.group fun hl => .null_of_eq (by simpa [lacks_iff] using hl)
      select := add h.select fun hl => .null_of_eq (by simpa [lacks_iff] using hl)
      filter := add h.filter fun hl => .null_of_eq (by simpa [lacks_iff] using hl)
      orderBy := add h.orderBy fun hl => .null_of_eq (by simpa [lacks_iff] using hl)
      take := add h.take fun hl => .null_of_eq (by simpa [lacks_iff] using hl)
      skip := add h.skip fun hl => .null_of_eq (by simpa [lacks_iff] using hl)
      showTotal := add h.showTotal fun hl => by simp [lacks_iff] at hl
      loadAll := add h.loadAll fun hl => by simp [lacks_iff] at hl
      userData := add h.userData fun hl => .null_of_eq (by simpa [lacks_iff] using hl) }

inductive Change where
  | select (fields : List String)
  | filterBy (filter : Filter)
  | groupBy (column : String)
  | orderBy (item : SortItem)
  | skipping (n : UInt64)
  | taking (n : UInt64)
  | withTotal
  | withAllRows
  | withValue (key : String) (v : Literal)

def apply (r : Request) : Change → Request
  | .select fields => r.select fields
  | .filterBy filter => r.filterBy filter
  | .groupBy column => r.groupBy column
  | .orderBy item => r.orderBy item
  | .skipping n => r.skipping n
  | .taking n => r.taking n
  | .withTotal => r.withTotal
  | .withAllRows => r.withAllRows
  | .withValue key v => r.withValue key v

def build (changes : List Change) : Request := changes.foldl apply {}

/-- Filters and values are those that have a body. -/
def Change.IsPlain : Change → Prop
  | filterBy f => f.Plain (· ≠ "!")
  | withValue _ v => v.isScalar = true
  | _ => True

theorem Writable.apply {c : Change} (h : r.Writable) (hc : c.IsPlain) : (r.apply c).Writable := by
  cases c with
  | filterBy f => exact { h with filter := by rintro _ ⟨⟩; exact hc }
  | withValue key v =>
    refine { h with scalar := fun e he => ?_, nodup := Assoc.nodup_keys_put h.nodup key v }
    rcases Assoc.eq_or_mem_of_mem_put he with rfl | he
    · exact hc
    · exact h.scalar e he
  | _ => exact ⟨h.filter, h.scalar, h.nodup⟩

theorem Writable.foldl_apply {changes : List Change} (h : r.Writable)
    (hc : ∀ c ∈ changes, c.IsPlain) : (changes.foldl Request.apply r).Writable := by
  induction changes generalizing r with
  | nil => exact h
  | cons c changes ih =>
    obtain ⟨hc, hr⟩ := List.forall_mem_cons.1 hc
    exact ih (h.apply hc) hr

theorem writable_build {changes : List Change} (hc : ∀ c ∈ changes, c.IsPlain) :
    (build changes).Writable :=
  Writable.foldl_apply ⟨nofun, nofun, List.nodup_nil⟩ hc

/-- A truth value of a body cannot be null. -/
theorem exists_ofJson_eq_error_of_null {key : String} (hk : key = "showTotal" ∨ key = "loadAll")
    (h : (key, .null) ∈ fields) : ∃ e, Request.ofJson (.object fields) = .error e := by
  have hs (b : Body) : ∃ e, Body.shape.setField b key .null = .error e := by
    rcases hk with rfl | rfl <;> exact ⟨_, rfl⟩
  obtain ⟨e, he⟩ := RecordShape.exists_ofFields_eq_error h hs {}
  refine ⟨.body e, ?_⟩
  rw [Request.ofJson, RecordShape.decode, he]
  rfl

/-- A request that is built step by step is what its fields are read as, in any order and among
unknown fields and nulls for parts that it does not have, and so is any other spelling of it. -/
theorem ofJson_build {changes : List Change} (hc : ∀ c ∈ changes, c.IsPlain)
    (sp : Filter.Spelling) :
    (∀ extra fields, (∀ e ∈ extra, (build changes).Ignores e) →
      fields.Perm ((build changes).bodyFields sp ++ extra) →
      Request.ofJson (.object fields) = .ok (build changes)) ∧
    (∀ fields, (build changes).SpelledBy sp fields →
      Request.ofJson (.object fields) = .ok (build changes)) ∧
    ∀ fields key, key = "showTotal" ∨ key = "loadAll" → (key, .null) ∈ fields →
      ∃ e, Request.ofJson (.object fields) = .error e :=
  ⟨fun _ _ hx hp => ((spelledBy_bodyFields sp _).perm_append hx hp).ofJson_eq (writable_build hc),
    fun _ h => h.ofJson_eq (writable_build hc), fun _ _ => exists_ofJson_eq_error_of_null⟩

def olderThan : List Change :=
  [.withValue "Tenant" (.int 3), .select ["Id"], .taking 25, .withValue "Region" .null,
    .filterBy (.not (.compare (.column "Age") .le (.literal (.int 17)))),
    .orderBy ⟨.expression "LEN(Name)", true⟩, .taking 10, .withTotal,
    .withValue "Tenant" (.string "x")]

theorem ofJson_build_olderThan :
    Request.ofJson (.object
      [("userData", .object [("Tenant", .string "x"), ("Region", .null)]),
        ("orderby", .array [.object [("desc", .bool true), ("selector", .null),
          ("expression", .string "LEN(Name)")]]),
        ("requireTotalCount", .bool true),
        ("filter", .array [.string "!", .array [.string "Age", .string "<=", .int 17]]),
        ("skip", .null), ("select", .array [.string "Id"]), ("group", .null),
        ("take", .int 10), ("showTotal", .bool true)]) = .ok (build olderThan) := by
  have hc : ∀ c ∈ olderThan, c.IsPlain := by
    simp only [olderThan, List.forall_mem_cons, Change.IsPlain]
    exact ⟨rfl, trivial, trivial, rfl, .not (.compare .le (by decide) rfl), trivial, trivial,
      trivial, rfl, nofun⟩
  have expression : SortItem.SpelledBy ⟨.expression "LEN(Name)", true⟩ (.object
      [("desc", .bool true), ("selector", .null), ("expression", .string "LEN(Name)")]) :=
    .object ⟨by simpa using .null, by simp⟩ ⟨by simpa using .some rfl, by simp⟩
      ⟨by simp, by simp⟩
  refine (ofJson_build hc .symbols).2.1 _ ?_
  exact
    { group := ⟨by simpa using .null, by simp⟩
      select := ⟨by simpa using .array (.cons rfl .nil), by simp⟩
      filter := ⟨by simpa using .some rfl, by simp⟩
      orderBy := ⟨by simpa using .array (.cons expression .nil), by simp⟩
      take := ⟨by simpa using .some rfl, by simp⟩
      skip := ⟨by simpa using .null, by simp⟩
      showTotal := ⟨by simpa using show (build olderThan).showTotal = true from rfl, by simp⟩
      loadAll := ⟨by simp, .inr rfl⟩
      userData := ⟨by simpa using .object [("Tenant", .string "x"), ("Region", .null)], by simp⟩ }

end Request
end GridQuery
