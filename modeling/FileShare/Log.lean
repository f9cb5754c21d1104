import FileShare.Json.Writer
import FileShare.Log.Calendar
import FileShare.Log.Template
import FileShare.Pattern.Match
import FileShare.Pattern.Parser

/-! # Log lines

A record becomes one line, either by a template, perhaps in the colour of its level, or as a JSON
object. The JSON line holds no control character, so a message cannot end it early.
-/
namespace FileShare.Log

structure Record where
  logger : String
  level : Int
  message : String
  arguments : List Json := []
  time : Instant
  requestId : Option String := none
deriving Repr

namespace Record

/-- The message with its arguments. A message without arguments is taken as it is, and a single
object with entries gives them by name. -/
def text (r : Record) : Except Failure RawText :=
  match r.arguments with
  | [] => .ok r.message
  | [.obj (e :: entries)] => fillTemplate r.message (.mapping (e :: entries))
  | items => fillTemplate r.message (.list items)

def levelName (level : Int) : String :=
  if level = 50 then "CRITICAL"
  else if level = 40 then "ERROR"
  else if level = 30 then "WARNING"
  else if level = 20 then "INFO"
  else if level = 10 then "DEBUG"
  else if level = 0 then "NOTSET"
  else "Level " ++ toString level

/-- The time of a record, in a date format if one is given. -/
def timeText (r : Record) (zone : Timezone) (dateFormat : Option String) : Except Failure String :=
  match Moment.ofInstant? r.time zone with
  | none => breakDown .instantOutOfRange
  | some m =>
    match dateFormat with
    | some pattern => .ok (if pattern = "" then m.toText else m.format pattern)
    | none => .ok m.toText

end Record

/-! ## JSON lines -/

def lineObject (r : Record) (time : String) (message : RawText) : Json := .obj [
  ("ts", .str time),
  ("logger", .str r.logger),
  ("level", .str (Record.levelName r.level)),
  ("msg", .ofText message),
  ("request_id", Json.ofOption .str r.requestId)]

def jsonLine (zone : Timezone) (r : Record) : Except Failure RawText := do
  let time ← r.timeText zone none
  let message ← r.text
  return (lineObject r time message).toText

/-! ## Template lines -/

/-- A line template holds at least one conversion by name. -/
def namedConversion : String :=
  "%\\(\\w+\\)[#0+ -]*(\\*|\\d+)?(\\.(\\*|\\d+))?[diouxefgcrsa%]"

def isLineTemplate (template : String) : Bool :=
  match Pattern.ofText { ignoreCase := true } namedConversion with
  | .ok p => p.foundIn template
  | .error _ => false

def attributes (r : Record) (message : RawText) (time : Option String) : Json.Object :=
  let always : Json.Object := [
    ("name", .str r.logger),
    ("msg", .str r.message),
    ("levelname", .str (Record.levelName r.level)),
    ("levelno", .int r.level),
    ("message", .ofText message),
    ("request_id", Json.ofOption .str r.requestId)]
  always ++ (time.map fun t => (RawText.text "asctime", Json.str t)).toList

/-- A line by a template; the time is only worked out where the template asks for it. -/
def plainLine (template : String) (dateFormat : Option String) (zone : Timezone) (r : Record) :
    Except Failure RawText := do
  let layout := if template = "" then "%(message)s" else template
  if !isLineTemplate layout then breakDown (.badFormat "invalid format")
  else
    let message ← r.text
    let time ←
      if Text.contains "%(asctime)" layout then some <$> r.timeText zone dateFormat else pure none
    fillTemplate layout (.mapping (attributes r message time))

def colour? (level : Int) : Option String :=
  if level = 10 then some "\x1b[36m"
  else if level = 20 then some "\x1b[32m"
  else if level = 30 then some "\x1b[33m"
  else if level = 40 then some "\x1b[31m"
  else if level = 50 then some "\x1b[41m"
  else none

/-- A line by a template between the marks of its level's colour. -/
def colouredLine (template : String) (dateFormat : Option String) (zone : Timezone)
    (colours : Bool) (r : Record) : Except Failure RawText := do
  let line ← plainLine template dateFormat zone r
  match if colours then colour? r.level else none with
  | some colour => return colour ++ line ++ "\x1b[0m"
  | none => return line

end FileShare.Log
