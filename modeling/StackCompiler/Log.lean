import StackCompiler.Failure
import StackCompiler.Json.Printer
import StackCompiler.Json.Template
import StackCompiler.Text.Case

/-!
# Log records

A record is written as one JSON object a line. `Log.Line.members` decides what the object holds:
the time, the severity, the name of the logger and the message, then what else the record carries,
and the name of the stack.
-/

namespace StackCompiler.Log

inductive Level where
  | debug
  | info
  | warning
  | error
  deriving DecidableEq, Repr

def Level.number : Level → Nat
  | debug => 10
  | info => 20
  | warning => 30
  | error => 40

/-- The name of a severity; one between the steps is named by its number. -/
def severityName (n : Int) : String :=
  match n with
  | 0 => "NOTSET"
  | 10 => "DEBUG"
  | 20 => "INFO"
  | 30 => "WARNING"
  | 40 => "ERROR"
  | 50 => "CRITICAL"
  | _ => s!"Level {n}"

def Level.name (l : Level) : String := severityName l.number

/-- Something that happened, as one part of the program reports it. -/
structure Record where
  level : Level
  logger : String
  message : String
  event : Option String := none
  serviceId : Option String := none
  hasIdToken : Option Bool := none
  deriving DecidableEq, Repr

/-! ## Lines -/

/-- What a line says: a text, or members of its own. -/
inductive Content where
  | text (s : String)
  | members (ms : List (String × Json))

/-- A record with any level and any attributes. -/
structure Line where
  level : Int
  logger : String
  content : Content
  created : Json
  attributes : List (String × Json)

/-- The attributes that every record has, and that are no part of its line. -/
def reserved : List String :=
  ["args", "asctime", "created", "exc_info", "exc_text", "filename", "funcName", "levelname",
   "levelno", "lineno", "module", "msecs", "message", "msg", "name", "pathname", "process",
   "processName", "relativeCreated", "stack_info", "thread", "threadName"]

/-- The attributes that a cascade attaches. -/
def cascadeFields : List String := ["event", "service_id"]

def set (ms : List (String × Json)) (name : String) (v : Json) : List (String × Json) :=
  setEntry name v ms

def setAll (ms more : List (String × Json)) : List (String × Json) :=
  more.foldl (fun ms (k, v) => set ms k v) ms

/-- A member that is there and not vacant. -/
def present? (ms : List (String × Json)) (name : String) : Option Json :=
  (ms.lookup name).filter fun v => !(Data.ofJson v).isVacant

/-- Sets a member that is not there or vacant. -/
def supply (ms : List (String × Json)) (name : String) (v : Json) : List (String × Json) :=
  if (present? ms name).isSome then ms else set ms name v

/-- The attribute of a name, or what the line has without it. -/
def Line.attribute (line : Line) (name : String) (default : Json) : Json :=
  (line.attributes.lookup name).getD default

/-- The message and the members of a line's own. An attribute may replace both; arguments fill the
places of a text. -/
def Line.body (line : Line) : Except Failure (String × List (String × Json)) := do
  let content := match line.attributes.lookup "msg" with
    | some (.obj ms) => Content.members ms
    | some v => Content.text v.displayText
    | none => line.content
  match content, present? line.attributes "args" with
  | .text s, some args => return (← Template.fill s args, [])
  | .text s, none => return (s, [])
  | .members ms, _ => return ("", ms)

/-- A mishap in three parts, its kind, what it is and its trace, as one line. Only a value that is
vacant can stand for one, and there is no trace. -/
def mishapText (mishap : Json) : Except Failure String :=
  match mishap with
  | .arr (_ :: value :: .null :: _) =>
    if (Data.ofJson value).isVacant then
      let detail := value.displayText
      let kind := (Data.ofJson value).kind
      .ok (if detail.isEmpty then kind else s!"{kind}: {detail}")
    else .error .badAttribute
  | .arr (_ :: _ :: _ :: _) => .error .badAttribute
  | .arr _ => .error .beyondEnd
  | .str s => .error (if s.length < 3 then .beyondEnd else .badAttribute)
  | .obj _ => .error (.noSuchKey "2")
  | _ => .error .wrongType

/-- The own members of a line, with what its attributes say of a mishap and of the stack. -/
def Line.ownMembers (line : Line) (own : List (String × Json)) :
    Except Failure (List (String × Json)) := do
  let own ← match present? line.attributes "exc_info", present? own "exc_info" with
    | some mishap, none => (mishapText mishap).map fun s => set own "exc_info" (.str s)
    | _, _ => .ok own
  let own := match present? line.attributes "exc_text" with
    | some v => supply own "exc_info" v
    | none => own
  return match present? line.attributes "stack_info" with
    | some v => supply own "stack_info" v
    | none => own

/-- The severity: a member that names a level, or else the level of the record. -/
def severity (line : Line) (ms : List (String × Json)) : Except Failure Json :=
  match present? ms "level" with
  | some (.str s) => .ok (.str (Text.upper s))
  | some _ => .error .badAttribute
  | none => .ok (line.attribute "levelname" (.str (severityName line.level)))

/-- The members that every line has, in their order. -/
def fixedNames : List String := ["timestamp", "severity", "name", "message"]

/-- The members of the object for a line. Attributes come after the line's own members, but do not
replace the fixed ones. -/
def Line.members (stack : Option String) (line : Line) :
    Except Failure (List (String × Json)) := do
  let (message, own) ← line.body
  let own ← line.ownMembers own
  let fixed := [
    ("timestamp", line.attribute "timestamp" .null),
    ("severity", .null),
    ("name", line.attribute "name" (.str line.logger)),
    ("message", .str message)]
  let extra := line.attributes.filter fun (k, _) =>
    !reserved.contains k && !fixedNames.contains k && !k.startsWith "_"
  let ms := setAll fixed (own ++ extra)
  let ms := supply ms "timestamp" (line.attribute "created" line.created)
  let ms := set ms "severity" (← severity line ms)
  let ms := match stack with
    | some s => if s.isEmpty then ms else supply ms "stack" (.str s)
    | none => ms
  let cascade := cascadeFields.filterMap fun k =>
    match line.attributes.lookup k with
    | none | some .null => none
    | some v => some (k, v)
  return setAll ms cascade

/-! ## Records as lines -/

def Record.attributes (r : Record) : List (String × Json) :=
  let one (name : String) (v? : Option Json) : List (String × Json) :=
    match v? with
    | some v => [(name, v)]
    | none => []
  one "event" (r.event.map .str) ++ one "service_id" (r.serviceId.map .str) ++
    one "has_id_token" (r.hasIdToken.map .bool)

def Record.line (created : Json) (r : Record) : Line :=
  ⟨r.level.number, r.logger, .text r.message, created, r.attributes⟩

/-- The written line of a record. -/
def Record.text (stack : Option String) (created : Json) (r : Record) : String :=
  match (r.line created).members stack with
  | .ok ms => (Json.obj ms).write .spaced
  | .error _ => ""

end StackCompiler.Log
