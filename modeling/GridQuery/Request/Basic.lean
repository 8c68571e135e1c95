import GridQuery.Assoc
import GridQuery.Filter.Basic

/-! # Requests

What a caller asks of a grid: columns, rows, their order, and a page of them. -/

namespace GridQuery

structure Grouping where
  column : String
  expanded : Bool := false
  deriving DecidableEq

inductive SortKey where
  | column (name : String)
  /-- An expression such as the number of a column. -/
  | expression (text : String)
  deriving DecidableEq

structure SortItem where
  key : SortKey
  descending : Bool := false
  deriving DecidableEq

structure Request where
  grouping : List Grouping := []
  /-- The columns to show; none stands for all. -/
  fields : List String := []
  filter : Option Filter := none
  sort : List SortItem := []
  skip : Option UInt64 := none
  take : Option UInt64 := none
  showTotal : Bool := false
  loadAll : Bool := false
  /-- Values for the parameters of a function. -/
  userData : Assoc String Literal := []

namespace Request
variable (r : Request)

def select (fields : List String) : Request := { r with fields }

def filterBy (filter : Filter) : Request := { r with filter := some filter }

/-- Groups by one more column. -/
def groupBy (column : String) : Request := { r with grouping := r.grouping ++ [{ column }] }

def orderBy (item : SortItem) : Request := { r with sort := r.sort ++ [item] }

def skipping (n : UInt64) : Request := { r with skip := some n }

def taking (n : UInt64) : Request := { r with take := some n }

def withTotal : Request := { r with showTotal := true }

/-- Asks for all rows, whatever the page. -/
def withAllRows : Request := { r with loadAll := true }

def withValue (key : String) (v : Literal) : Request :=
  { r with userData := r.userData.put key v }

def isPaged : Bool := !r.loadAll && (r.skip.isSome || r.take.isSome)

end Request
end GridQuery
