import GridQuery.Assoc
import GridQuery.Bindings
import GridQuery.Source.Target
import GridQuery.Text.Lowercase

/-! # Known objects

What is known of an object decides how it is queried. A directory knows some objects, under
names without regard to case. The arguments of a function are taken from a caller's values. -/

namespace GridQuery
open Text

structure ObjectInfo where
  kind : ObjectKind
  /-- The parameters of a function, in the order of its call. -/
  parameters : List String
  deriving DecidableEq

/-- The answer to what an object is: none if it does not exist, and a reason if it cannot be
told. -/
abbrev Describe := ObjectName → Except String (Option ObjectInfo)

/-- Known objects, by the lower case of their names. -/
structure Directory where
  objects : Assoc ObjectName ObjectInfo := []

namespace Directory

def key (n : ObjectName) : ObjectName := ⟨lower n.schema, lower n.name⟩

/-- Adds an object, in place of one of the same name. -/
def insert (d : Directory) (n : ObjectName) (info : ObjectInfo) : Directory :=
  ⟨d.objects.put (key n) info⟩

def find? (d : Directory) (n : ObjectName) : Option ObjectInfo := d.objects.lookup (key n)

def describe (d : Directory) : Describe := fun n => .ok (d.find? n)

def size (d : Directory) : Nat := d.objects.length

end Directory

/-- A parameter name without leading `@` signs. -/
def parameterName (p : String) : String := String.ofList (p.toList.dropWhile (· == '@'))

/-- The first value whose key names the parameter, in any ASCII case. -/
def valueFor? (values : Assoc String Literal) (parameter : String) : Option Literal :=
  let names (entry : String × Literal) : Bool :=
    equalIgnoringCase (parameterName entry.1) (parameterName parameter)
  Option.map Prod.snd (List.find? names values)

/-- The arguments of a function: for each parameter the placeholder of its value, or the default
if there is no value. -/
def resolveArguments (values : Assoc String Literal) (b : Bindings) :
    List String → List Argument × Bindings
  | [] => ([], b)
  | parameter :: rest =>
    match valueFor? values parameter with
    | some v =>
      let (name, b) := b.bind v
      let (arguments, b) := resolveArguments values b rest
      (.placeholder name :: arguments, b)
    | none =>
      let (arguments, b) := resolveArguments values b rest
      (.default :: arguments, b)

end GridQuery
