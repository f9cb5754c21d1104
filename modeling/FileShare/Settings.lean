import FileShare.Entries
import FileShare.Path
import FileShare.Sorted
import FileShare.Text.Category
import FileShare.Text.LowerCase
import FileShare.Timezone

/-! # Settings

Every setting has a default and a variable that overrides it. Limits are integers of either sign:
a negative limit is a limit that nothing meets.
-/
namespace FileShare

structure Settings where
  projectName : String := "Drive API"
  apiPath : String := "/api/v1"
  debug : Bool := false
  databaseUrl : String := "sqlite:///./drive.db"
  databaseEcho : Bool := false
  logLevel : String := "INFO"
  logDirectoryName : String := "log"
  logFileName : String := "drive.log"
  logAsJson : Bool := false
  port : Int := 8000
  timezoneName : String := "UTC"
  resultsPerPage : Int := 100
  maxItemsPerRequest : Int := 100
  minUsernameLength : Int := 4
  maxUsernameLength : Int := 16
  minEmailLength : Int := 4
  maxEmailLength : Int := 75
  saltLength : Int := 32
  keyLength : Int := 128
  maxLockClientLength : Int := 32
  maxNameLength : Int := 255
  maxTags : Int := 5
  maxTagLength : Int := 16
  maxPermissions : Int := 10
  maxContents : Int := 255
  maxTextBytes : Int := 10240
  maxSearchableTags : Int := 10
deriving Repr, Inhabited

namespace Settings

/-- The kind of a setting, with the way to read it and to write it. -/
inductive Slot where
  | text (get : Settings → String) (set : Settings → String → Settings)
  | flag (get : Settings → Bool) (set : Settings → Bool → Settings)
  | integer (get : Settings → Int) (set : Settings → Int → Settings)

def table : List (String × Slot) := [
  ("PROJECT_NAME", .text projectName fun s v => { s with projectName := v }),
  ("API_V1_STR", .text apiPath fun s v => { s with apiPath := v }),
  ("DEBUG", .flag debug fun s v => { s with debug := v }),
  ("DATABASE_URL", .text databaseUrl fun s v => { s with databaseUrl := v }),
  ("DATABASE_ECHO", .flag databaseEcho fun s v => { s with databaseEcho := v }),
  ("LOG_LEVEL", .text logLevel fun s v => { s with logLevel := v }),
  ("LOG_DIR", .text logDirectoryName fun s v => { s with logDirectoryName := v }),
  ("LOG_FILE_NAME", .text logFileName fun s v => { s with logFileName := v }),
  ("LOG_JSON", .flag logAsJson fun s v => { s with logAsJson := v }),
  ("APP_PORT", .integer port fun s v => { s with port := v }),
  ("TIMEZONE", .text timezoneName fun s v => { s with timezoneName := v }),
  ("RESULTS_PER_PAGE", .integer resultsPerPage fun s v => { s with resultsPerPage := v }),
  ("MAX_PARAMS_PER_REQUEST",
    .integer maxItemsPerRequest fun s v => { s with maxItemsPerRequest := v }),
  ("MIN_USER_NAME_LENGTH",
    .integer minUsernameLength fun s v => { s with minUsernameLength := v }),
  ("MAX_USER_NAME_LENGTH",
    .integer maxUsernameLength fun s v => { s with maxUsernameLength := v }),
  ("MIN_USER_EMAIL_LENGTH", .integer minEmailLength fun s v => { s with minEmailLength := v }),
  ("MAX_USER_EMAIL_LENGTH", .integer maxEmailLength fun s v => { s with maxEmailLength := v }),
  ("USER_SALT_LENGTH", .integer saltLength fun s v => { s with saltLength := v }),
  ("USER_KEY_LENGTH", .integer keyLength fun s v => { s with keyLength := v }),
  ("MAX_LOCK_CLIENT_LENGTH",
    .integer maxLockClientLength fun s v => { s with maxLockClientLength := v }),
  ("MAX_NODE_NAME_LENGTH", .integer maxNameLength fun s v => { s with maxNameLength := v }),
  ("MAX_NODE_TAGS", .integer maxTags fun s v => { s with maxTags := v }),
  ("MAX_NODE_TAG_LENGTH", .integer maxTagLength fun s v => { s with maxTagLength := v }),
  ("MAX_NODE_PERMISSIONS", .integer maxPermissions fun s v => { s with maxPermissions := v }),
  ("MAX_NODE_CONTENTS", .integer maxContents fun s v => { s with maxContents := v }),
  ("MAX_NODE_TEXT_LENGTH_BYTES", .integer maxTextBytes fun s v => { s with maxTextBytes := v }),
  ("MAX_SEARCHABLE_TAGS",
    .integer maxSearchableTags fun s v => { s with maxSearchableTags := v })]

/-- The words for yes and no in a variable, in either case. -/
def flagOfWord? (word : String) : Option Bool :=
  let w := Text.lower word
  if w ∈ ["1", "true", "t", "yes", "y", "on"] then some true
  else if w ∈ ["0", "false", "f", "no", "n", "off"] then some false
  else none

def digitsNumber? (cs : List Char) : Option Nat :=
  if cs.isEmpty || !cs.all (fun c => '0' ≤ c && c ≤ '9') then none
  else some (cs.foldl (fun n c => 10 * n + (c.toNat - 48)) 0)

/-- Decimal digits with an optional sign, between blanks. -/
def integerOfWord? (word : String) : Option Int :=
  match (Text.trim word).toList with
  | '-' :: digits => (digitsNumber? digits).map fun n => -(n : Int)
  | '+' :: digits => (digitsNumber? digits).map Int.ofNat
  | digits => (digitsNumber? digits).map Int.ofNat

namespace Slot

/-- The settings with the slot read from a word, if the word is of the slot's kind. -/
def assign? (slot : Slot) (s : Settings) (word : String) : Option Settings :=
  match slot with
  | text _ set => some (set s word)
  | flag _ set => (flagOfWord? word).map (set s)
  | integer _ set => (integerOfWord? word).map (set s)

end Slot

/-- The word for a variable; the case of names does not matter and the last one counts. -/
def wordFor? (environment : Entries String) (name : String) : Option String :=
  (environment.reverse.find? fun e => Text.lower e.1 = Text.lower name).map Prod.snd

/-- Applies the variables in turn; the names of those with a word of the wrong kind are kept. -/
def readVariables (environment : Entries String) :
    List (String × Slot) → Settings → Settings × List String
  | [], s => (s, [])
  | (name, slot) :: more, s =>
    match wordFor? environment name with
    | none => readVariables environment more s
    | some word =>
      match slot.assign? s word with
      | some s' => readVariables environment more s'
      | none =>
        let (final, bad) := readVariables environment more s
        (final, name :: bad)

/-- The settings under an environment, or the names of the variables that are not understood. -/
def ofEnvironment (environment : Entries String) : Except (List String) Settings :=
  match readVariables environment table {} with
  | (s, []) => .ok s
  | (_, bad) => .error (sortTexts bad)

/-- The directory that relative paths start from. -/
def baseDirectory : Path := ⟨"/", ["base"]⟩

def resolve (raw : String) : Path := baseDirectory.join (Path.ofText raw)

def fileScheme : String := "sqlite:///"

/-- A relative database file lies below the base directory. -/
def databaseLocation (s : Settings) : String :=
  match Text.rest? fileScheme s.databaseUrl with
  | some file =>
    if Text.startsWith "/" file || Text.contains ":memory:" s.databaseUrl then s.databaseUrl
    else fileScheme ++ (resolve file).toText
  | none => s.databaseUrl

def logDirectory (s : Settings) : Path := resolve s.logDirectoryName

def logFile (s : Settings) : Path := s.logDirectory.join (Path.ofText s.logFileName)

def timezone (s : Settings) : Timezone := Timezone.ofName s.timezoneName

end Settings
end FileShare
