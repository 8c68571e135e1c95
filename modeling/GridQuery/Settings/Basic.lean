import GridQuery.Batch.Basic

/-! # Settings

Settings hold the options of queries, how events are logged, and the known objects. Valid
settings make a directory of the objects. -/

namespace GridQuery
open Text

inductive LogFormat where
  | pretty
  | compact
  | json
  deriving DecidableEq

namespace LogFormat

def name : LogFormat → String
  | pretty => "pretty"
  | compact => "compact"
  | json => "json"

def named? : String → Option LogFormat
  | "pretty" => some pretty
  | "compact" => some compact
  | "json" => some json
  | _ => none

end LogFormat

structure ObjectSettings where
  kind : String
  parameters : List String := []
  deriving DecidableEq

structure Settings where
  defaultTake : UInt64 := 200
  defaultSchema : String := "dbo"
  logLevel : String := "info"
  logFormat : LogFormat := .pretty
  /-- The known objects, ordered by their keys. -/
  objects : List (String × ObjectSettings) := []

inductive InvalidSettings where
  | zeroTake
  | blankSchema
  | badKey (key : String)
  | unknownKind (key kind : String)
  | viewParameters (key : String)
  deriving DecidableEq

def InvalidSettings.ofObject (key detail : String) : String :=
  "objects.\"" ++ key ++ "\": " ++ detail

def InvalidSettings.message : InvalidSettings → String
  | zeroTake => "compiler.default_take must be positive"
  | blankSchema => "compiler.default_schema must not be empty"
  | badKey key => ofObject key (QueryError.invalidName key).message
  | unknownKind key kind => ofObject key ("unknown kind '" ++ kind ++ "'")
  | viewParameters key => ofObject key "a view takes no parameters"

inductive SettingsError where
  | notFound (path : String)
  | unreadable (reason : String)
  | malformed
  | invalid (cause : InvalidSettings)
  deriving DecidableEq

def SettingsError.message : SettingsError → String
  | notFound path => "Config file not found: " ++ path
  | unreadable reason => "Failed to read config file: " ++ reason
  | malformed => "Failed to parse config file: not a document of this form"
  | invalid cause => "Invalid configuration: " ++ cause.message

namespace Settings
variable (s : Settings)

/-- Puts an object at its place in the order of keys, or in place of one with the same key. -/
def insertObject (key : String) (o : ObjectSettings) :
    List (String × ObjectSettings) → List (String × ObjectSettings)
  | [] => [(key, o)]
  | (k, p) :: rest =>
    if key < k then (key, o) :: (k, p) :: rest
    else if key = k then (key, o) :: rest
    else (k, p) :: insertObject key o rest

def sortObjects (objects : List (String × ObjectSettings)) : List (String × ObjectSettings) :=
  objects.foldl (fun sorted (key, o) => insertObject key o sorted) []

def options : Options := { defaultTake := s.defaultTake, defaultSchema := s.defaultSchema }

def objectInfo (key : String) (o : ObjectSettings) :
    Except InvalidSettings (ObjectName × ObjectInfo) :=
  match ObjectName.parse? key s.defaultSchema with
  | none => .error (.badKey key)
  | some name =>
    match ObjectKind.named? o.kind with
    | none => .error (.unknownKind key o.kind)
    | some .view =>
      if o.parameters.isEmpty then .ok (name, ⟨.view, []⟩) else .error (.viewParameters key)
    | some .function => .ok (name, ⟨.function, o.parameters⟩)

def directory : Except InvalidSettings Directory :=
  s.objects.foldlM (fun d (key, o) => do
    let (name, info) ← s.objectInfo key o
    pure (d.insert name info)) {}

/-- The directory of settings that are valid. -/
def validate : Except InvalidSettings Directory :=
  if s.defaultTake = 0 then .error .zeroTake
  else if (trim s.defaultSchema.toList).isEmpty then .error .blankSchema
  else s.directory

def checked : Except SettingsError Settings :=
  match s.validate with
  | .ok _ => .ok s
  | .error cause => .error (.invalid cause)

end Settings
end GridQuery
