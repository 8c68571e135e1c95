import GridQuery.ColumnType
import GridQuery.CommandLine.Arguments
import GridQuery.CommandLine.Files
import GridQuery.Literal.Basic
import GridQuery.Request.Body
import GridQuery.Request.QueryString
import GridQuery.Settings.Document

/-! # Running commands

A command is a function of its words, of two variables and of the files it reads. It gives what
is printed and a code: 0 for success, 1 for a failure, 2 for a wrong command line. -/

namespace GridQuery.CommandLine
open Text

/-- What a command finds around it. -/
structure Surroundings where
  /-- The path of the settings that the environment gives. -/
  configVariable : Option String
  /-- The path of the user's own settings. -/
  userConfig : Option String
  status : String → FileStatus

structure Outcome where
  code : UInt32
  out : String := ""
  err : String := ""
  deriving DecidableEq

def failure (message : String) : Outcome := { code := 1, err := message ++ "\n" }

def localConfig : String := "gridsql.toml"

/-- The files that a command may read. -/
def paths (i : Invocation) (configVariable userConfig : Option String) : List String :=
  let config := match i.config, configVariable with
    | some path, _ => [path]
    | none, some path => [path]
    | none, none => localConfig :: userConfig.toList
  let request := match i.command with
    | .compile c => c.request.toList
    | _ => []
  config ++ request

def settingsOf (path : String) (status : FileStatus) : Except SettingsError Settings :=
  match status with
  | .text content => Settings.ofText content
  | .unreadable true reason => .error (.unreadable reason)
  | .unreadable false _ => .error (.notFound path)

/-- The settings: those of the given path, else of the variable, else of the current directory,
else the user's own, else the defaults. -/
def settings (s : Surroundings) (config : Option String) : Except SettingsError Settings :=
  match config, s.configVariable with
  | some path, _ => settingsOf path (s.status path)
  | none, some path => settingsOf path (s.status path)
  | none, none =>
    if (s.status localConfig).isFound then settingsOf localConfig (s.status localConfig)
    else
      match s.userConfig with
      | some path => if (s.status path).isFound then settingsOf path (s.status path) else .ok {}
      | none => .ok {}

/-- A binding as a comment on one line. -/
def bindingComment (name : String) (v : Literal) : String :=
  let shown := match v.quote with
    | .ok text => text
    | .error _ => v.toJson.compact
  "-- " ++ name ++ " = " ++ onOneLine shown

def shownBatch (b : Batch) : OutputFormat → String
  | .sql =>
    String.join (b.bindings.entries.map fun (name, v) => bindingComment name v ++ "\n") ++
      String.ofList (trimRight b.sql.toList) ++ "\n"
  | .json => b.toJson.indented ++ "\n"

def requestOf (s : Surroundings) (request json : Option String) : Except String Request :=
  let parsed (text : String) : Except String Request :=
    (Request.ofBody text).mapError fun e => "Invalid request: " ++ e.message
  match request, json with
  | some path, _ =>
    match s.status path with
    | .text content => parsed content
    | .unreadable _ reason => .error ("Error reading request '" ++ path ++ "': " ++ reason)
  | none, some text => parsed text
  | none, none => .ok {}

def withQuery (r : Request) (query : Option String) : Except String Request :=
  match query with
  | none => .ok r
  | some query =>
    match r.applyQuery query with
    | (none, r) => .ok r
    | (some e, _) => .error ("Invalid query string: " ++ e.message)

/-- The known objects: only the named one if its kind is given, else those of the settings. -/
def directoryOf (settings : Settings) (c : CompileCommand) : Except String Directory :=
  match c.kind with
  | none =>
    settings.directory.mapError fun cause =>
      "Configuration error: " ++ (SettingsError.invalid cause).message
  | some kind =>
    match ObjectName.parse? c.object settings.defaultSchema with
    | none => .error ("Compilation error: " ++ (QueryError.invalidName c.object).message)
    | some name =>
      let parameters := match kind with
        | .view => []
        | .function => c.params
      .ok (Directory.insert {} name ⟨kind, parameters⟩)

def compiled (s : Surroundings) (settings : Settings) (c : CompileCommand) :
    Except String Batch := do
  let r ← requestOf s c.request c.json
  let r ← withQuery r c.query
  let d ← directoryOf settings c
  (Batch.ofRequest d.describe c.object r settings.options).mapError fun e =>
    "Compilation error: " ++ e.message

def compiledFilter (text : String) : Except String Batch := do
  let filter ← (Filter.ofText text).mapError fun e => "Filter error: " ++ e.message
  match filter.condition {} with
  | (.ok sql, bindings) => pure ⟨sql, bindings⟩
  | (.error e, _) => .error ("Compilation error: " ++ e.message)

/-- Text filled up with spaces to a width. -/
def column (width : Nat) (text : String) : String :=
  text ++ String.ofList (List.replicate (width - text.length) ' ')

def typeRow (name runtime wire canonical : String) : String :=
  column 18 name ++ " " ++ column 24 runtime ++ " " ++ column 8 wire ++ " " ++ canonical ++ "\n"

def typeList : String :=
  typeRow "sql" "runtime" "wire" "canonical" ++
    String.join (ColumnType.catalog.map fun t =>
      typeRow t.name t.runtime t.wire.name (if t.canonical then "yes" else ""))

def batchOutcome (format : OutputFormat) : Except String Batch → Outcome
  | .ok b => { code := 0, out := shownBatch b format }
  | .error message => failure message

def runInvocation (s : Surroundings) (i : Invocation) : Outcome :=
  match settings s i.config with
  | .error e => failure ("Configuration error: " ++ e.message)
  | .ok settings =>
    match i.command with
    | .compile c => batchOutcome c.format (compiled s settings c)
    | .filter text format => batchOutcome format (compiledFilter text)
    | .types => { code := 0, out := typeList }

def usage : String :=
  "Usage: gridsql [--config <CONFIG>] <compile|filter|types>\n"

def stopOutcome : Stop → Outcome
  | .version => { code := 0, out := "gridsql 0.1.0\n" }
  | .help => { code := 0, out := usage }
  | .usage => { code := 2, err := usage }

def run (s : Surroundings) (words : List String) : Outcome :=
  match parse words with
  | .ok i => runInvocation s i
  | .error stop => stopOutcome stop

end GridQuery.CommandLine
