import MediaDepot.Files.Tree
import MediaDepot.Number.Integer
import MediaDepot.Text.Blank
import MediaDepot.Text.Case
import MediaDepot.Text.Utf8

/-!
# Settings

The settings of the program come from environment variables and at most one file. Before they are
read they are checked, and everything that is missing or invalid is reported at once.

* `Environment.get?` — a variable without blanks around it; a blank one counts as unset.
* `missingVariables`, `invalidVariables`, `validate` — the checks.
* `Settings.load` — the settings, after the checks.
-/

namespace MediaDepot

open Number Text

/-- Environment variables with their values. -/
abbrev Environment := List (String × String)

namespace Environment

/-- A variable without blanks around it; a blank one counts as unset. -/
def get? (env : Environment) (name : String) : Option String :=
  match env.lookup name with
  | some value => if (trim value).isEmpty then none else some (trim value)
  | none => none

/-- A variable in small letters, or its default. -/
def word (env : Environment) (name default : String) : String :=
  lower ((env.get? name).getD default)

end Environment

/-- The settings of the program. -/
structure Settings where
  environment : String
  showDetails : Bool
  mediaHandler : String
  mediaConfig : Option String
  fileStore : String
  databaseUrl : Option String
  databaseName : Option String
  sweepPeriod : Int
  sweepSize : Int
  sweepAge : Int
  deriving DecidableEq, Repr, Inhabited

namespace Settings

/-- The handlers that may be chosen. -/
def handlerNames : List String := ["fs", "s3"]

/-- The kinds of record stores that may be chosen. -/
def storeNames : List String := ["memory", "mongodb"]

/-- The chosen handler. -/
def handlerOf (env : Environment) : String := env.word "MEDIA_HANDLER" "fs"

/-- The chosen kind of record store. -/
def storeOf (env : Environment) : String := env.word "FILE_STORE" "memory"

/-- Is the variable unset? -/
def isUnset (env : Environment) (name : String) : Bool := (env.get? name).isNone

/-- The variables that must be set and are not, in alphabetical order. -/
def missingVariables (env : Environment) : List String :=
  let forStore := storeOf env == "mongodb"
  (if forStore && isUnset env "DB_NAME" then ["DB_NAME"] else [])
    ++ (if handlerOf env == "s3" && isUnset env "MEDIA_CONFIG" &&
      isUnset env "MEDIA_CONFIG_FILE" then
      ["MEDIA_CONFIG"] else [])
    ++ (if forStore && isUnset env "MONGO_URL" then ["MONGO_URL"] else [])

/-- The variables that hold whole numbers, none of them negative. -/
def numberVariables : List String :=
  ["FILE_GC_PERIOD_SECONDS", "FILE_GC_BLOCK_SIZE", "FILE_GC_MIN_AGE_SECONDS"]

/-- Does the text spell a whole number that is not negative? -/
def isCount (text : String) : Bool :=
  match ofSettingText? text with
  | some n => 0 ≤ n
  | none => false

/-- What is said of a variable that should hold a number and does not. -/
def numberFault? (env : Environment) (name : String) : Option String :=
  match env.get? name with
  | none => none
  | some value => if isCount value then none else some (name ++ " must be a non-negative integer")

/-- What is said of the configuration file if it is no file. -/
def fileFault? (env : Environment) (files : FileTree) : Except Fault (List String) :=
  match env.get? "MEDIA_CONFIG_FILE" with
  | none => .ok []
  | some name =>
    (files.isFile (.ofText name)).map fun found =>
      if found then [] else ["MEDIA_CONFIG_FILE must point to an existing file"]

/-- What is said of the variables with invalid values. -/
def invalidVariables (env : Environment) (files : FileTree) : Except Fault (List String) :=
  (fileFault? env files).map fun fileFaults =>
    (if handlerNames.contains (handlerOf env) then [] else ["MEDIA_HANDLER must be one of: fs, s3"])
      ++ (if storeNames.contains (storeOf env) then []
        else ["FILE_STORE must be one of: memory, mongodb"])
      ++ fileFaults ++ numberVariables.filterMap (numberFault? env)

/-- A part of the report: a headline and the entries under it. -/
def reportPart (headline : String) (entries : List String) : List String :=
  if entries.isEmpty then [] else "" :: headline :: entries.map ("- " ++ ·)

/-- The report on the variables. -/
def report (missing invalid : List String) : String :=
  "\n".intercalate <|
    "Application startup blocked by invalid environment configuration."
      :: reportPart "Missing required environment variables:" missing
      ++ reportPart "Invalid environment values:" invalid

/-- Checks the variables. -/
def validate (env : Environment) (files : FileTree) : Except Fault Unit :=
  (invalidVariables env files).bind fun invalid =>
    let missing := missingVariables env
    if missing.isEmpty && invalid.isEmpty then .ok () else .error (.state (report missing invalid))

/-- A text with line feeds alone at its line ends. -/
def unifyLines : List Char → List Char
  | '\r' :: '\n' :: rest => '\n' :: unifyLines rest
  | '\r' :: rest => '\n' :: unifyLines rest
  | c :: rest => c :: unifyLines rest
  | [] => []

/-- The text of a file. -/
def readText (files : FileTree) (path : FilePath) : Except Fault String :=
  (files.read path).bind fun bytes =>
    match ofUtf8? bytes with
    | some text => .ok (String.ofList (unifyLines text.toList))
    | none => .error .notUtf8

/-- The configuration of the handler: from the file, if one is named. -/
def configOf (env : Environment) (files : FileTree) : Except Fault (Option String) :=
  match env.get? "MEDIA_CONFIG_FILE" with
  | some name => (readText files (.ofText name)).map some
  | none => .ok (env.get? "MEDIA_CONFIG")

/-- A variable that holds a whole number, or its default. -/
def numberOf (env : Environment) (name : String) (default : Int) : Except Fault Int :=
  match env.get? name with
  | none => .ok default
  | some text =>
    match ofSettingText? text with
    | some n => .ok n
    | none => .error (.value (.number text))

/-- The words that say yes, in small letters. -/
def yesWords : List String := ["1", "true", "yes"]

/-- The settings, after the checks. The kind of environment and the wish for details are taken as
they are, with the blanks around them. -/
def load (env : Environment) (files : FileTree) : Except Fault Settings := do
  validate env files
  let mediaConfig ← configOf env files
  let sweepPeriod ← numberOf env "FILE_GC_PERIOD_SECONDS" 60
  let sweepSize ← numberOf env "FILE_GC_BLOCK_SIZE" 100
  let sweepAge ← numberOf env "FILE_GC_MIN_AGE_SECONDS" 3600
  return {
    environment := (env.lookup "ENV").getD "development"
    showDetails := yesWords.contains
      (lower ((env.lookup "DEBUG_INCLUDE_ERROR_DETAILS").getD "false"))
    mediaHandler := handlerOf env
    mediaConfig
    fileStore := storeOf env
    databaseUrl := env.get? "MONGO_URL"
    databaseName := env.get? "DB_NAME"
    sweepPeriod
    sweepSize
    sweepAge }

/-- Does the program run for its users? -/
def isProduction (settings : Settings) : Bool := lower settings.environment == "production"

/-- May the text of an unexpected fault be shown? -/
def mayShowDetails (settings : Settings) : Bool := settings.showDetails && !settings.isProduction

/-- Are records kept as documents of a database? -/
def usesDatabase (settings : Settings) : Bool := settings.fileStore == "mongodb"

end Settings

end MediaDepot
