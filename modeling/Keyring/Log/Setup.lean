import Keyring.Log.Event
import Keyring.Log.Template
import Keyring.Settings

/-!
# Logging choices

How a process logs, by its settings and by what it is told at the start, and the JSON records of
messages.
-/

namespace Keyring.Log

structure Options where
  /-- The name of a weight; what is not truthy leaves the choice to the settings. -/
  level : Datum
  /-- Whether records are JSON; nothing leaves the choice to the settings. -/
  json : Datum
  timestamp : Bool

structure Choices where
  level : Nat
  json : Bool
  timestamp : Bool
  environment : Deployment
  deriving DecidableEq

inductive LevelFault where
  /-- It is no text. -/
  | notText (kind : Text)
  /-- It names the usual layout of lines. -/
  | layout
  /-- It names the table of layouts. -/
  | layoutTable
  deriving DecidableEq

def LevelFault.message : LevelFault → Text
  | notText kind => "'" ++ (kind ++ ("' object has no attribute 'upper'" : Text))
  | layout => Text.quoted "%(levelname)s:%(name)s:%(message)s"
  | layoutTable => "unhashable type: 'dict'"

def levelNumbers : List (Text × Nat) :=
  [("CRITICAL", 50), ("FATAL", 50), ("ERROR", 40), ("WARNING", 30), ("WARN", 30), ("INFO", 20),
    ("DEBUG", 10), ("NOTSET", 0)]

/-- The weight of a name in any case; an unknown name is the usual weight. Two names are taken for
other things. -/
def levelNumber (name : Text) : Except LevelFault Nat :=
  let capitals := name.toUpper
  if capitals = ("BASIC_FORMAT" : Text) then .error .layout
  else if capitals = ("_STYLES" : Text) then .error .layoutTable
  else .ok (((levelNumbers.find? fun entry => entry.1 == capitals).map (·.2)).getD 20)

def chooseLevel (settings : Settings) (level : Datum) : Except LevelFault Nat :=
  if level.isTruthy then
    match level with
    | .text name => levelNumber name
    | other => .error (.notText other.kindName)
  else levelNumber settings.logLevel.name

/-- The choices for settings and options. JSON is for production unless it is asked for or not. -/
def choose (settings : Settings) (options : Options) : Except LevelFault Choices :=
  let json :=
    if options.json = .null then settings.environment = .production else options.json.isTruthy
  (chooseLevel settings options.level).map fun level =>
    ⟨level, json, options.timestamp, settings.environment⟩

structure Message where
  logger : Text
  level : Int
  weight : Text
  text : Text
  arguments : List Datum
  deriving DecidableEq

inductive MessageFault where
  | logger
  | level
  deriving DecidableEq

def MessageFault.message : MessageFault → Text
  | logger => "A logger name must be a string"
  | level => "level must be an integer"

def levelName (level : Int) (shown : Text) : Text :=
  if level = 50 then "critical"
  else if level = 40 then "error"
  else if level = 30 then "warning"
  else if level = 20 then "info"
  else if level = 10 then "debug"
  else "level " ++ shown.toLower

/-- The message of a logger's name, a level, a text and arguments. Any data can be the text. -/
def Message.ofData (logger level text : Datum) (arguments : List Datum) :
    Except MessageFault Message :=
  let name? : Option Text :=
    match logger with
    | .text name => some name
    | other => if other.isTruthy then none else some []
  match name?, level.integer? with
  | some name, some number =>
    .ok ⟨name, number, levelName number level.shown, text.shown, arguments⟩
  | some _, none => .error .level
  | none, _ => .error .logger

namespace Message

/-- The data for the places of the text: the arguments, or the one argument if it is a record that
is not empty. -/
def supply (m : Message) : Supply :=
  match m.arguments with
  | [.record (member :: members)] => .ofDatum (.record (member :: members))
  | arguments => .ofItems arguments

def filled (m : Message) : Option Text :=
  if m.arguments.isEmpty then some m.text else fill m.text m.supply

end Message

def argumentsField : Text := "positional_args"

/-- The data that a value of that field is: a text, a list or a record, and of a list with one
record in it this record, unless it is empty. A record with one member is refused, and so is what
has no length. -/
def boundSupply : Datum → Option Supply
  | .list [.record (member :: members)] => some (.ofDatum (.record (member :: members)))
  | .list items => some (.ofDatum (.list items))
  | .text t => some (.ofDatum (.text t))
  | .record [_] => none
  | .record members => some (.ofDatum (.record members))
  | _ => none

def fillBound (context : Context) (text : Text) : Option Text :=
  match Fields.get? context argumentsField with
  | none => some text
  | some bound =>
    if bound.isTruthy then (boundSupply bound).bind fun s => fill text s else some text

def passingFields : List Text :=
  ["stack_info", "exc_info", "_record", "_from_structlog"].map Text.ofString

/-- The context as a record keeps it. Bound arguments have been used up; nothing in their place
stays. -/
def keptContext (context : Context) : Context :=
  let used :=
    match Fields.get? context argumentsField with
    | some .null => passingFields
    | _ => argumentsField :: passingFields
  Fields.erase context used

/-- The JSON record of a message under a context, as it is read back. JSON writes a code point that
it escapes as a pair of surrogates, and a reader joins every pair. A message that weighs nothing or
too little, or whose arguments do not fit, has no record. -/
def record? (choices : Choices) (context : Context) (message : Message) : Option Fields :=
  if message.level ≤ 0 || message.level < choices.level then none
  else
    (message.filled.bind (fillBound context)).map fun text =>
      let logger : Text := if message.logger.isEmpty then "root" else message.logger
      Datum.joinPairsOfMembers
        (((((keptContext context).set "event" (.text text)).set "level"
          (.text message.weight)).set "logger" (.text logger)).set "environment"
            (.text choices.environment.name))

end Keyring.Log
