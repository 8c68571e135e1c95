import GridQuery.Source.Target

/-! # Arguments

The command line has three commands, `compile`, `filter` and `types`. Options are long or short
and take a value, either attached or as the next word; `--` ends the options. -/

namespace GridQuery.CommandLine

inductive OutputFormat where
  | sql
  | json
  deriving DecidableEq

def OutputFormat.named? : String → Option OutputFormat
  | "sql" => some sql
  | "json" => some json
  | _ => none

def kindNamed? : String → Option ObjectKind
  | "view" => some .view
  | "function" => some .function
  | _ => none

inductive OptionName where
  | config
  | request
  | json
  | query
  | kind
  | param
  | format
  deriving DecidableEq

namespace OptionName

def all : List OptionName := [config, request, json, query, kind, param, format]

def long : OptionName → String
  | config => "config"
  | request => "request"
  | json => "json"
  | query => "query"
  | kind => "kind"
  | param => "param"
  | format => "format"

def short? : OptionName → Option Char
  | config => none
  | request => some 'r'
  | json => some 'j'
  | query => some 'q'
  | kind => some 'k'
  | param => some 'p'
  | format => some 'f'

end OptionName

/-- Why no command is run. -/
inductive Stop where
  | version
  | help
  | usage
  deriving DecidableEq

structure Values where
  plain : List String := []
  config : Option String := none
  request : Option String := none
  json : Option String := none
  query : Option String := none
  kind : Option ObjectKind := none
  params : List String := []
  format : Option OutputFormat := none

/-- Sets a value that may be set once. -/
def once {α : Type} (old : Option α) (new : Option α) : Except Stop (Option α) :=
  match old, new with
  | none, some v => .ok (some v)
  | _, _ => .error .usage

/-- A path, which must not be empty. -/
def pathOf? (text : String) : Option String := if text.isEmpty then none else some text

def Values.set (v : Values) (name : OptionName) (text : String) : Except Stop Values :=
  match name with
  | .config => do pure { v with config := ← once v.config (pathOf? text) }
  | .request => do pure { v with request := ← once v.request (pathOf? text) }
  | .json => do pure { v with json := ← once v.json (some text) }
  | .query => do pure { v with query := ← once v.query (some text) }
  | .kind => do pure { v with kind := ← once v.kind (kindNamed? text) }
  | .param => .ok { v with params := v.params ++ [text] }
  | .format => do pure { v with format := ← once v.format (OutputFormat.named? text) }

inductive Word where
  /-- The end of the options. -/
  | escape
  | long (name : String) (value : Option String)
  | short (name : Char) (rest : List Char)
  | plain

/-- What a word is. A single `-` is plain. -/
def Word.of (text : String) : Word :=
  match text.toList with
  | ['-', '-'] => .escape
  | '-' :: '-' :: rest =>
    match rest.span (· != '=') with
    | (name, '=' :: value) => .long (String.ofList name) (some (String.ofList value))
    | (name, _) => .long (String.ofList name) none
  | '-' :: c :: rest => .short c rest
  | _ => .plain

def attached? : List Char → Option String
  | [] => none
  | '=' :: rest => some (String.ofList rest)
  | rest => some (String.ofList rest)

/-- What a command takes. -/
structure Level where
  options : List OptionName
  /-- How many plain words it takes. -/
  plain : Nat
  hasVersion : Bool := false

inductive Flag where
  | stop (s : Stop)
  | option (name : OptionName) (value : Option String)

/-- What an option word of a level asks for; `none` for a plain word. -/
def Level.flag? (level : Level) (text : String) : Option Flag :=
  match Word.of text with
  | .escape | .plain => none
  | .long name value =>
    match level.options.find? (·.long == name), value with
    | some o, value => some (.option o value)
    | none, some _ => some (.stop .usage)
    | none, none =>
      if name = "help" then some (.stop .help)
      else if name = "version" ∧ level.hasVersion then some (.stop .version)
      else some (.stop .usage)
  | .short name rest =>
    match level.options.find? (·.short? == some name) with
    | some o => some (.option o (attached? rest))
    | none =>
      if name = 'h' then some (.stop .help)
      else if name = 'V' ∧ level.hasVersion then some (.stop .version)
      else some (.stop .usage)

def Values.addPlain (v : Values) (level : Level) (texts : List String) : Except Stop Values :=
  if v.plain.length + texts.length ≤ level.plain then .ok { v with plain := v.plain ++ texts }
  else .error .usage

/-- Whether the next word can be the value of an option. -/
def isPlain (text : String) : Bool :=
  match Word.of text with
  | .plain => true
  | _ => false

def scan (level : Level) (v : Values) : List String → Except Stop Values
  | [] => .ok v
  | text :: rest =>
    match level.flag? text with
    | some (.stop s) => .error s
    | some (.option o (some value)) => do scan level (← v.set o value) rest
    | some (.option o none) =>
      match rest with
      | value :: rest =>
        if isPlain value then do scan level (← v.set o value) rest else .error .usage
      | [] => .error .usage
    | none =>
      match Word.of text with
      | .escape => v.addPlain level rest
      | _ => do scan level (← v.addPlain level [text]) rest

structure CompileCommand where
  object : String
  request : Option String
  json : Option String
  query : Option String
  kind : Option ObjectKind
  params : List String
  format : OutputFormat

inductive Command where
  | compile (c : CompileCommand)
  | filter (text : String) (format : OutputFormat)
  | types

structure Invocation where
  config : Option String
  command : Command

def compileLevel : Level := { options := OptionName.all, plain := 1 }

def filterLevel : Level := { options := [.config, .format], plain := 1 }

def typesLevel : Level := { options := [.config], plain := 0 }

/-- What stands before the command. -/
def topLevel : Level := { options := [.config], plain := 0, hasVersion := true }

def compileCommand (v : Values) : Except Stop Command :=
  match v.plain with
  | [object] =>
    if v.request.isSome && v.json.isSome then .error .usage
    else if !v.params.isEmpty && v.kind.isNone then .error .usage
    else .ok (.compile
      { object, request := v.request, json := v.json, query := v.query, kind := v.kind,
        params := v.params, format := v.format.getD .sql })
  | _ => .error .usage

def filterCommand (v : Values) : Except Stop Command :=
  match v.plain with
  | [text] => .ok (.filter text (v.format.getD .sql))
  | _ => .error .usage

/-- Whether help is there for the words behind `help`. -/
def helpTopic : List String → Stop
  | [] => .help
  | [topic] => if ["compile", "filter", "types", "help"].contains topic then .help else .usage
  | _ => .usage

/-- A command with its words. A path of settings behind the command replaces one before it. -/
def commandOf (top : Values) (name : String) (rest : List String) : Except Stop Invocation :=
  if name = "compile" then do
    let v ← scan compileLevel {} rest
    pure ⟨v.config <|> top.config, ← compileCommand v⟩
  else if name = "filter" then do
    let v ← scan filterLevel {} rest
    pure ⟨v.config <|> top.config, ← filterCommand v⟩
  else if name = "types" then do
    let v ← scan typesLevel {} rest
    pure ⟨v.config <|> top.config, .types⟩
  else if name = "help" then .error (helpTopic rest)
  else .error .usage

def parseFrom (top : Values) : List String → Except Stop Invocation
  | [] => .error .usage
  | text :: rest =>
    match topLevel.flag? text with
    | some (.stop s) => .error s
    | some (.option o (some value)) => do parseFrom (← top.set o value) rest
    | some (.option o none) =>
      match rest with
      | value :: rest =>
        if isPlain value then do parseFrom (← top.set o value) rest else .error .usage
      | [] => .error .usage
    | none => commandOf top text rest

def parse (words : List String) : Except Stop Invocation := parseFrom {} words

end GridQuery.CommandLine
