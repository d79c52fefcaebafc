import EntityModel.Json.Reader
import EntityModel.Options

/-!
# Settings

The settings of a process that drives runs. They are given directly or by environment variables,
whose names are matched in any case; a variable that holds a mapping is a JSON text. Settings are
checked before they are used.
-/

namespace EntityModel

/-- How much is logged. -/
inductive LogLevel where
  | debug | info | warning | error | critical
  deriving DecidableEq, Repr

namespace LogLevel

/-- Every level, from the most to the least that is logged. -/
def all : List LogLevel := [debug, info, warning, error, critical]

def name : LogLevel → String
  | debug => "DEBUG"
  | info => "INFO"
  | warning => "WARNING"
  | error => "ERROR"
  | critical => "CRITICAL"

def ofName? (written : String) : Option LogLevel := all.find? (·.name == Text.uppercase written)

/-- Whether a level lets notices through. -/
def showsInfo : LogLevel → Bool
  | debug | info => true
  | _ => false

end LogLevel

/-- How lines of the log are written. -/
inductive LogFormat where
  | text | json
  deriving DecidableEq, Repr

namespace LogFormat

def name : LogFormat → String
  | text => "text"
  | json => "json"

def ofName? (written : String) : Option LogFormat := [text, json].find? (·.name == written)

end LogFormat

/-- Settings as they are given. -/
structure Settings where
  apiPrefix : String := "/api"
  pluralization : List (String × String) := []
  tables : List (String × String) := []
  logLevel : String := "INFO"
  logFormat : String := "text"
  deriving Repr

/-- What checked settings say about the log. -/
structure Logging where
  level : LogLevel
  format : LogFormat
  deriving Repr

namespace Settings

/-! ### Reading -/

def readText : Value → Outcome String
  | .text s => .ok s
  | _ => .error .invalidSettings

def readTexts : Value → Outcome (List (String × String))
  | .map entries => entries.mapM fun (k, v) => do return (← readText (.scalar k), ← readText v)
  | _ => .error .invalidSettings

/-- The settings with one more that is given under its name. -/
def set (s : Settings) (name : String) (v : Value) : Outcome Settings :=
  match name with
  | "api_prefix" => do return { s with apiPrefix := ← readText v }
  | "pluralization" => do return { s with pluralization := ← readTexts v }
  | "table_map" => do return { s with tables := ← readTexts v }
  | "log_level" => do return { s with logLevel := ← readText v }
  | "log_format" => do return { s with logFormat := ← readText v }
  | _ => .error .invalidSettings

/-- Settings that are given under their names. -/
def ofValues (values : List (String × Value)) : Outcome Settings :=
  values.foldlM (fun s entry => s.set entry.1 entry.2) {}

/-- The start of the names of environment variables, in lowercase. -/
def variableStart : String := "schemac_"

def names : List String := ["api_prefix", "pluralization", "table_map", "log_level", "log_format"]

def mappingNames : List String := ["pluralization", "table_map"]

/-- The value that an environment variable gives to a setting. -/
def readVariable (name text : String) : Outcome Value :=
  if mappingNames.contains name then
    match Json.read? text with
    | some v => .ok v
    | none => .error .unreadableSettings
  else .ok (.text text)

/-- The variable of a setting; of several spellings the last one counts. -/
def findVariable (environment : List (String × String)) (name : String) : Option String :=
  (environment.reverse.find? fun entry => Text.lowercase entry.1 == variableStart ++ name).map (·.2)

def ofEnvironment (environment : List (String × String)) : Outcome Settings := do
  let given ← names.filterMapM fun name =>
    match findVariable environment name with
    | some text => do return some (name, ← readVariable name text)
    | none => return none
  ofValues given

/-! ### Checks -/

/-- The first entity that is given an empty table name. -/
def emptyTable? (s : Settings) : Option String := (s.tables.find? (·.2.isEmpty)).map (·.1)

/-- What the settings say about the log, if they make sense. -/
def checked (s : Settings) : Outcome Logging := do
  if !s.apiPrefix.isEmpty && s.apiPrefix.toList.head? != some '/' then
    refuse (.apiPrefix s.apiPrefix)
  let some level := LogLevel.ofName? s.logLevel
    | refuse (.logLevel s.logLevel (LogLevel.all.map LogLevel.name))
  let some format := LogFormat.ofName? s.logFormat | refuse (.logFormat s.logFormat)
  match s.emptyTable? with
  | some entity => refuse (.emptyTable entity)
  | none => return ⟨level, format⟩

/-! ### Use -/

def textMap (entries : List (String × String)) : Value :=
  .record (entries.map fun (k, v) => (k, .text v))

def options (s : Settings) : Outcome Options :=
  Options.make (textMap s.pluralization) (textMap s.tables) (.text s.apiPrefix)

def encode (s : Settings) : Value :=
  .record [("api_prefix", .text s.apiPrefix), ("pluralization", textMap s.pluralization),
    ("table_map", textMap s.tables), ("log_level", .text s.logLevel),
    ("log_format", .text s.logFormat)]

def notice (s : Settings) : Value :=
  .record [("message", .text "Compiler configuration loaded"), ("api_prefix", .text s.apiPrefix),
    ("pluralization_overrides", .int s.pluralization.length),
    ("table_overrides", .int s.tables.length), ("log_level", .text s.logLevel)]

def notices (s : Settings) (l : Logging) : List Value :=
  if l.level.showsInfo then [s.notice] else []

end Settings

end EntityModel
