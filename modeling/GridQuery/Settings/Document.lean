import GridQuery.Decimal.Numeral
import GridQuery.Settings.Basic
import GridQuery.Toml.Document

/-! # Settings documents

Settings are read from a TOML document. Unknown keys are skipped, though no number below them may
be too large, and missing ones take their defaults. A table of fixed keys may also be given as the
array of its values, of which only as many are looked at as there are keys. -/

namespace GridQuery

namespace Toml

def asString? : Toml → Option String
  | string s => some s
  | _ => none

def asStrings? : Toml → Option (List String)
  | array items => items.mapM asString?
  | _ => none

def asUnsigned? : Toml → Option UInt64
  | integer n => unsigned? n
  | _ => none

/-- The values of a table of fixed keys, by key or by position. A date has none of them. -/
def fields? (keys : List String) : Toml → Option (List (String × Toml))
  | table entries =>
    let (known, unknown) := entries.partition fun (k, _) => keys.contains k
    if entriesFit unknown then some known else none
  | array items => some (keys.zip items)
  | dateTime _ => some []
  | _ => none

end Toml

namespace LogFormat

/-- The form that a value names, either as a string or as the only key of a table. -/
def ofToml? : Toml → Option LogFormat
  | .string s => named? s
  | .table [(k, .table [])] => named? k
  | .table [(k, .array [])] => named? k
  | _ => none

end LogFormat

namespace Settings

def setCompiler (s : Settings) (key : String) (v : Toml) : Option Settings :=
  if key = "default_take" then do pure { s with defaultTake := ← v.asUnsigned? }
  else if key = "default_schema" then do pure { s with defaultSchema := ← v.asString? }
  else some s

def setLogging (s : Settings) (key : String) (v : Toml) : Option Settings :=
  if key = "level" then do pure { s with logLevel := ← v.asString? }
  else if key = "format" then do pure { s with logFormat := ← LogFormat.ofToml? v }
  else some s

/-- The settings of an object, which need a kind. -/
def objectOf? (v : Toml) : Option ObjectSettings := do
  let fields ← v.fields? ["kind", "parameters"]
  let kind ← (← fields.lookup "kind").asString?
  let parameters ← match fields.lookup "parameters" with
    | some v => v.asStrings?
    | none => some []
  pure { kind, parameters }

def objectsOf? : Toml → Option (List (String × ObjectSettings))
  | .table entries => do
    let objects ← entries.mapM fun (key, v) => do pure (key, ← objectOf? v)
    pure (sortObjects objects)
  | _ => none

def setTop (s : Settings) (key : String) (v : Toml) : Option Settings :=
  if key = "compiler" then do
    (← v.fields? ["default_take", "default_schema"]).foldlM (fun s (k, v) => s.setCompiler k v) s
  else if key = "logging" then do
    (← v.fields? ["level", "format"]).foldlM (fun s (k, v) => s.setLogging k v) s
  else if key = "objects" then do pure { s with objects := ← objectsOf? v }
  else if v.fits then some s
  else none

def ofDocument? (text : String) : Option Settings := do
  (← Toml.read? text).foldlM (fun s (k, v) => s.setTop k v) {}

def ofText (text : String) : Except SettingsError Settings :=
  match ofDocument? text with
  | none => .error .malformed
  | some s => s.checked

end Settings
end GridQuery
