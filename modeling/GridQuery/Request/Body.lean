import GridQuery.Decimal.Numeral
import GridQuery.Filter.Array
import GridQuery.Filter.Scanner
import GridQuery.Json.Reader
import GridQuery.Request.Basic
import GridQuery.Request.Error

/-! # Request bodies

A request is read from a JSON record. A record may also be given as the array of its fields in
their order. The whole shape is checked before the parts are given their meaning. -/

namespace GridQuery
open Text

namespace Json

def asString : Json → Except ShapeError String
  | string s => .ok s
  | v => .error (.wrongType v .string)

def asBool : Json → Except ShapeError Bool
  | bool b => .ok b
  | v => .error (.wrongType v .boolean)

def asUnsigned : Json → Except ShapeError UInt64
  | int n =>
    match unsigned? n with
    | some m => .ok m
    | none => .error (.wrongValue (int n) .unsigned)
  | v => .error (.wrongType v .unsigned)

def asList {α : Type} (item : Json → Except ShapeError α) : Json → Except ShapeError (List α)
  | array items => items.mapM item
  | v => .error (.wrongType v .sequence)

def asFields : Json → Except ShapeError (List (String × Json))
  | object fields => .ok fields
  | v => .error (.wrongType v .map)

def asOptional {α : Type} (decode : Json → Except ShapeError α) :
    Json → Except ShapeError (Option α)
  | null => .ok none
  | v => (decode v).map some

end Json

/-- A record: its name, and its fields with what each of them sets. -/
structure RecordShape (σ : Type) where
  name : String
  fields : List (String × (σ → Json → Except ShapeError σ))

namespace RecordShape
variable {σ : Type} (shape : RecordShape σ)

/-- Sets fields by name, in the order of the object; unknown names are skipped. -/
def ofFields (start : σ) (fields : List (String × Json)) : Except ShapeError σ :=
  fields.foldlM (fun state (name, v) =>
    match shape.fields.find? (·.1 == name) with
    | some (_, set) => set state v
    | none => .ok state) start

def ofItems (start : σ) (items : List Json) : Except ShapeError σ := do
  let state ← (shape.fields.zip items).foldlM (fun state ((_, set), v) => set state v) start
  if shape.fields.length < items.length then .error (.tooLong items.length)
  pure state

def decode (start : σ) : Json → Except ShapeError σ
  | .object fields => shape.ofFields start fields
  | .array items => shape.ofItems start items
  | v => .error (.wrongType v (.record shape.name))

end RecordShape

structure BodyGroup where
  selector : Option String := none
  expanded : Bool := false

def BodyGroup.shape : RecordShape BodyGroup where
  name := "WireGroup"
  fields :=
    [("selector", fun g v => do pure { g with selector := some (← v.asString) }),
      ("expanded", fun g v => do pure { g with expanded := ← v.asBool })]

/-- Decodes a grouping column, which needs a selector. -/
def BodyGroup.decode (v : Json) : Except ShapeError Grouping := do
  let g ← BodyGroup.shape.decode {} v
  match g.selector, v with
  | some column, _ => pure { column, expanded := g.expanded }
  | none, .array items =>
    .error (.tooShort items.length BodyGroup.shape.name BodyGroup.shape.fields.length)
  | none, _ => .error (.missingField "selector")

structure BodySort where
  selector : Option String := none
  expression : Option String := none
  descending : Bool := false

def BodySort.shape : RecordShape BodySort where
  name := "WireSort"
  fields :=
    [("selector", fun s v => do pure { s with selector := ← v.asOptional Json.asString }),
      ("expression", fun s v => do pure { s with expression := ← v.asOptional Json.asString }),
      ("desc", fun s v => do pure { s with descending := ← v.asBool })]

/-- The sort item, which sorts either by a column or by an expression. -/
def BodySort.toItem (s : BodySort) : Except QueryError SortItem :=
  match s.selector, s.expression with
  | some name, none => .ok ⟨.column name, s.descending⟩
  | none, some text => .ok ⟨.expression text, s.descending⟩
  | some _, some _ => .error (.request .twoSortKeys)
  | none, none => .error (.request .noSortKey)

structure Body where
  group : Option (List Grouping) := none
  select : Option (List String) := none
  filter : Option Json := none
  orderBy : Option (List BodySort) := none
  take : Option UInt64 := none
  skip : Option UInt64 := none
  showTotal : Bool := false
  loadAll : Bool := false
  userData : Option (List (String × Json)) := none

namespace Body

def shape : RecordShape Body where
  name := "WireRequest"
  fields :=
    [("group", fun b v => do
        pure { b with group := ← v.asOptional (Json.asList BodyGroup.decode) }),
      ("select", fun b v => do
        pure { b with select := ← v.asOptional (Json.asList Json.asString) }),
      ("filter", fun b v => do pure { b with filter := ← v.asOptional .ok }),
      ("orderby", fun b v => do
        pure { b with orderBy := ← v.asOptional (Json.asList (BodySort.shape.decode {})) }),
      ("take", fun b v => do pure { b with take := ← v.asOptional Json.asUnsigned }),
      ("skip", fun b v => do pure { b with skip := ← v.asOptional Json.asUnsigned }),
      ("showTotal", fun b v => do pure { b with showTotal := ← v.asBool }),
      ("loadAll", fun b v => do pure { b with loadAll := ← v.asBool }),
      ("userData", fun b v => do pure { b with userData := ← v.asOptional Json.asFields })]

/-- The scalars among the values for parameters; all others are left out. -/
def values (fields : List (String × Json)) : Assoc String Literal :=
  fields.foldl (fun m (k, v) =>
    match Literal.ofJson v with
    | .ok l => m.put k l
    | .error _ => m) []

end Body

/-- The filter that a JSON value stands for: none for null, an empty array or a blank text, else
the filter of the text or of the array. -/
def Filter.ofValue : Json → Except FilterError (Option Filter)
  | .null => .ok none
  | .array [] => .ok none
  | .string text =>
    if (trim text.toList).isEmpty then .ok none else (Filter.ofText text).map some
  | v => (Filter.ofJson v).map some

def Body.toRequest (b : Body) : Except QueryError Request := do
  let sort ← (b.orderBy.getD []).mapM BodySort.toItem
  let filter ← ((b.filter.getD .null |> Filter.ofValue).mapError .filter)
  pure
    { grouping := b.group.getD []
      fields := b.select.getD []
      filter
      sort
      skip := b.skip
      take := b.take
      showTotal := b.showTotal
      loadAll := b.loadAll
      userData := Body.values (b.userData.getD []) }

def Request.ofJson (v : Json) : Except QueryError Request := do
  let body ← (Body.shape.decode {} v).mapError .body
  body.toRequest

def Request.ofBody (text : String) : Except QueryError Request :=
  match Json.read? text with
  | some v => Request.ofJson v
  | none => .error .malformedBody

end GridQuery
