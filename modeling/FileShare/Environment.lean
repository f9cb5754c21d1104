import FileShare.Entries
import FileShare.Path
import FileShare.Text.Category
import FileShare.Text.LowerCase
import FileShare.Text.Split

/-! # Environments and environment files

A file of the base directory adds variables to an environment. The common file yields to
variables that are there already; the file that is chosen by name, or by the kind of
deployment, overrides them.
-/
namespace FileShare

abbrev Environment := Entries String

namespace Environment

/-- The words that switch something on. -/
def isTrue : Option String → Bool
  | none => false
  | some word => Text.lower (Text.trim word) ∈ ["1", "true", "yes", "on"]

/-- Variables of a file replace those of the environment. -/
def override (env file : Environment) : Environment :=
  file.foldl (fun e entry => Entries.put e entry.1 entry.2) env

/-- Variables of a file fill the gaps of the environment. -/
def supplement (env file : Environment) : Environment :=
  file.foldl
    (fun e entry => if Entries.has e entry.1 then e else Entries.put e entry.1 entry.2) env

def commonFile : String := ".env"

/-- The file for a kind of deployment; a name that is a file name already is taken as it is. -/
def deploymentFile (kind : String) : String :=
  if Text.startsWith ".env" kind then kind else ".env." ++ kind

/-- Without a kind of deployment, debugging means development. -/
def deployment? (env : Environment) : Option String :=
  match Entries.get? env "ENVIRONMENT" with
  | some kind => some kind
  | none => if isTrue (Entries.get? env "DEBUG") then some "development" else none

/-- An environment with the files of the base directory taken in. -/
def load (file? : String → Option Environment) (env : Environment) : Environment :=
  match Entries.get? env "ENV_FILE" with
  | some name =>
    if name ≠ "" then override env ((file? name).getD []) else loadByDeployment env
  | none => loadByDeployment env
where
  loadByDeployment (env : Environment) : Environment :=
    let common := supplement env ((file? commonFile).getD [])
    match deployment? common with
    | some kind =>
      if kind ≠ "" then override common ((file? (deploymentFile kind)).getD []) else common
    | none => common

/-- A value in quotes is what stands between them; any other ends at a comment. -/
def valueOf (cs : List Char) : List Char :=
  match cs with
  | '"' :: rest => rest.takeWhile (· ≠ '"')
  | '\x27' :: rest => rest.takeWhile (· ≠ '\x27')
  | _ => (Text.trim (String.ofList (uncommented ' ' cs))).toList
where
  /-- The text before a number sign that follows a blank. -/
  uncommented (before : Char) : List Char → List Char
    | [] => []
    | c :: cs =>
      if c = '#' ∧ Text.isBlank before then [] else c :: uncommented c cs

/-- A line is empty, a comment or a name, an equals sign and a value. -/
def ofLine? (line : String) : Option (String × String) :=
  let bare := (Text.trim line).toList
  let assignment := (Text.after? "export ".toList bare).getD bare
  match assignment with
  | [] => none
  | '#' :: _ => none
  | cs =>
    let name := cs.takeWhile (· ≠ '=')
    match cs.dropWhile (· ≠ '=') with
    | [] => none
    | _ :: value =>
      let trimmed := (Text.trim (String.ofList value)).toList
      some (Text.trim (String.ofList name), String.ofList (valueOf trimmed))

/-- Of two lines for one name the later counts. -/
def ofFile (content : String) : Environment :=
  override [] ((Text.split '\n' content).filterMap ofLine?)

/-- The file of a name among those of a directory; both are read as paths. -/
def fileIn (files : Entries String) (name : String) : Option Environment :=
  let path (s : String) : Path := Path.join ⟨"/", []⟩ (Path.ofText s)
  (files.find? fun f => path f.1 = path name).map fun f => ofFile f.2

end Environment

/-- The one service that this application can run. -/
def servicePackage : String := "drive"

/-- The service that an environment asks for, or the unknown name. -/
def activePackage (env : Environment) : Except String String :=
  let name := (Entries.get? env "APP_ACTIVE_PACKAGE").getD servicePackage
  if name = servicePackage then .ok name else .error name

end FileShare
