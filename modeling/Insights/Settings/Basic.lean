import Insights.Decode.Scalar
import Insights.Value.Cell

/-!
Settings, and the normal form of the path that is one of them.
-/

namespace Insights
namespace Path

/-! ### Paths

Paths of directories in their normal form: single separators, no parts that stand for the same
directory, and a dot for the empty path. A path from the root begins with one separator, or with two
when it was written with exactly two. -/

/-- The parts of a text between separators. -/
def parts (separator : Char) : List Char → List (List Char)
  | [] => [[]]
  | c :: rest =>
    if c = separator then [] :: parts separator rest
    else
      match parts separator rest with
      | [] => [[c]]
      | part :: others => (c :: part) :: others

/-- What a path begins with. -/
def root (path : List Char) : List Char :=
  match (path.takeWhile (· = '/')).length with
  | 0 => []
  | 2 => ['/', '/']
  | _ => ['/']

/-- The normal form of a path. -/
def normal (path : List Char) : List Char :=
  let kept := (parts '/' path).filter fun part => !part.isEmpty && part != ['.']
  match root path ++ ['/'].intercalate kept with
  | [] => ['.']
  | text => text

example : normal "a//b/./c/".toList = "a/b/c".toList := by decide
example : normal "".toList = ".".toList ∧ normal "//x".toList = "//x".toList := by decide

end Path

/-! ### Settings

Settings. A value that is given directly counts before the one of an environment variable, and that
one before the default. The names of variables are compared without regard to case. -/

structure Settings where
  storageDir : String
  databasePath : String
  logLevel : String
  previewRows : Int
deriving DecidableEq, Repr

namespace Settings

def storageDirName : String := "storage_dir"
def databasePathName : String := "duckdb_path"
def logLevelName : String := "log_level"
def previewRowsName : String := "preview_rows"

/-- What the names of all variables begin with. -/
def variableStart : String := "insightql_"

def defaults : Settings := ⟨".data/arrow", ":memory:", "INFO", 10⟩

/-- The value of a variable; of several whose names differ in case the last one counts. -/
def fromEnvironment? (environment : Fields Value) (name : String) : Option Value :=
  (environment.reverse.find? fun entry =>
    Text.lowerLatin entry.1.toList == (variableStart ++ name).toList).map Prod.snd

/-- The value for a setting. -/
def value? (given environment : Fields Value) (name : String) : Option Value :=
  given.lookup name <|> fromEnvironment? environment name

/-- Checks the value for a setting if there is one. -/
def setting {α : Type} (given environment : Fields Value) (name : String) (default : α)
    (check : Value → Checked α) : Checked α :=
  match value? given environment name with
  | some value => (check value).under (.key name)
  | none => .accepted default

/-- A path, in its normal form. -/
def checkPath : Value → Checked String
  | .text s => .accepted (String.ofList (Path.normal s.toList))
  | _ => .refuse .notPath

/-- A number of rows, at least one. -/
def checkRows (value : Value) : Checked Int :=
  (Check.integer value).andThen fun n => if 1 ≤ n then .accepted n else .refuse .belowMinimum

/-- The settings from values that are given and from environment variables. -/
def check (given environment : Fields Value) : Checked Settings :=
  mk <$> setting given environment storageDirName defaults.storageDir checkPath
    <*> setting given environment databasePathName defaults.databasePath Check.text
    <*> setting given environment logLevelName defaults.logLevel Check.text
    <*> setting given environment previewRowsName defaults.previewRows checkRows

/-- The level of the log: the one that is asked for, or else the usual one, in upper case. Bytes stay
bytes, of which only the letters a-z change. -/
def effectiveLevel (usual asked : Value) : Except Fault Value :=
  match if asked.isEmpty then usual else asked with
  | .text level => .ok (.text (String.ofList (Text.upper level.toList)))
  | .bytes level => .ok (.bytes (level.map Text.upperByte))
  | _ => .error .notText

end Settings
end Insights
