import FactQuery.Data
import FactQuery.FileTree
import FactQuery.Text.Blank
import FactQuery.Text.Capital
import FactQuery.Text.DecimalDigit
import FactQuery.Text.Pieces

/-!
# Settings

The settings of an engine come from a record of data or from the variables of an environment.  They
are checked in a fixed order: the level of the log, the cap on the rows, the data file.
-/

set_option autoImplicit false

namespace FactQuery

open FactQuery.Text

inductive SettingsError where
  | logLevel (level : String)
  | tooFewResults
  | missingFile (path : String)
  /-- The path of the data file is too long to be looked up. -/
  | overlongPath
  | notAnInteger (text : String)
  /-- A setting is of a kind that has no meaning for it. -/
  | wrongKind
  deriving DecidableEq, Repr

def logLevels : List String :=
  ["DEBUG", "INFO", "WARNING", "ERROR", "CRITICAL"]

def SettingsError.message : SettingsError → String
  | .logLevel level =>
    "Invalid log level: " ++ level ++ ". Use one of: " ++ ", ".intercalate logLevels
  | .tooFewResults => "max_results must be at least 1"
  | .missingFile path => "Data file not found: " ++ path
  | .overlongPath => "path of the data file too long"
  | .notAnInteger text => "TRIPLEQUERY_MAX_RESULTS must be an integer, got " ++ quoted text
  | .wrongKind => "setting of the wrong kind"

structure Settings where
  dataPath : Option String
  logLevel : String
  preload : Bool
  /-- The cap on the rows of a result; null stands for none. -/
  maxResults : Data

namespace Settings

/-- A path in its shortest spelling: no empty and no `.` segments, and at most one slash in front,
unless there are exactly two. -/
def normalPath (path : String) : String :=
  let text := path.toList
  let slashes := (text.takeWhile (· == '/')).length
  let root := if slashes = 0 then [] else if slashes = 2 then ['/', '/'] else ['/']
  let segments := (pieces '/' text).filter fun segment => !segment.isEmpty && segment != ['.']
  let spelled := root ++ List.intercalate ['/'] segments
  String.ofList (if spelled.isEmpty then ['.'] else spelled)

def allowsRows : Data → Except SettingsError Bool
  | .null => .ok true
  | .bool value => .ok value
  | .integer value => .ok (1 ≤ value)
  | .decimal (.infinite negative) => .ok !negative
  | .decimal (.finite negative units) => .ok (!negative && Number.Binary64.unitsPerOne ≤ units)
  | _ => .error .wrongKind

def check (look : String → PathState) (settings : Settings) : Except SettingsError Settings := do
  if !logLevels.contains settings.logLevel then throw (.logLevel settings.logLevel)
  if !(← allowsRows settings.maxResults) then throw .tooFewResults
  match settings.dataPath with
  | none => return settings
  | some path =>
    match look path with
    | .present => return settings
    | .absent => throw (.missingFile path)
    | .tooLong => throw .overlongPath

def pathOf (data : Data) : Except SettingsError (Option String) :=
  if data.isTrue then
    match data with
    | .text path => .ok (some (normalPath path))
    | _ => .error .wrongKind
  else .ok none

def ofData (look : String → PathState) (data : Data) : Except SettingsError Settings := do
  let dataPath ← pathOf ((data.field? "data_path").getD .null)
  let level := ((data.field? "log_level").getD (.text "INFO")).asText
  let preload := ((data.field? "preload").getD (.bool true)).isTrue
  let maxResults := (data.field? "max_results").getD .null
  check look ⟨dataPath, capitals level, preload, maxResults⟩

/-- The digits of a run in which single underscores may stand between digits. -/
def spacedDigits? : List Char → Option (List Char)
  | [] => none
  | [c] => if isDecimalDigit c then some [c] else none
  | c :: '_' :: rest => if isDecimalDigit c then (spacedDigits? rest).map (c :: ·) else none
  | c :: rest => if isDecimalDigit c then (spacedDigits? rest).map (c :: ·) else none

def integer? (text : String) : Option Int :=
  let trimmed := trimBy (fun c => isWhite c && !isSeparatorControl c) text.toList
  match trimmed with
  | '-' :: digits => (spacedDigits? digits).map fun found => -(digitsValue found : Int)
  | '+' :: digits => (spacedDigits? digits).map fun found => (digitsValue found : Int)
  | digits => (spacedDigits? digits).map fun found => (digitsValue found : Int)

def variableName (setting : String) : String :=
  "TRIPLEQUERY_" ++ setting

def trueWords : List String :=
  ["1", "true", "yes", "on"]

/-- The value of an environment variable, unless it is empty. -/
def lookUp (environment : List (String × String)) (setting : String) : Option String :=
  ((environment.find? (·.1 == variableName setting)).map Prod.snd).filter fun text => !text.isEmpty

def ofEnvironment (look : String → PathState) (environment : List (String × String)) :
    Except SettingsError Settings := do
  let path := (lookUp environment "DATA_PATH").toList.map fun text => ("data_path", Data.text text)
  let level := (lookUp environment "LOG_LEVEL").toList.map fun text => ("log_level", Data.text text)
  let preload := (lookUp environment "PRELOAD").toList.map fun text =>
    let lower := String.ofList (text.toList.map Char.toLower)
    ("preload", Data.bool (trueWords.contains lower))
  let cap ←
    match lookUp environment "MAX_RESULTS" with
    | none => pure []
    | some text =>
      match integer? text with
      | some value => pure [("max_results", Data.integer value)]
      | none => throw (.notAnInteger text)
  ofData look (.record (path ++ level ++ preload ++ cap))

def toData (settings : Settings) : Data :=
  .record [
    ("data_path", .ofText? settings.dataPath),
    ("log_level", .text settings.logLevel),
    ("preload", .bool settings.preload),
    ("max_results", settings.maxResults)]

end Settings

end FactQuery
