import StackCompiler.Json.Basic
import StackCompiler.Text.Digit
import StackCompiler.Text.Quoted

/-!
# Untyped data

What a document holds before its fields are read: scalars, lists, mappings whose keys are scalars,
and sets of scalars. Every JSON value is such data (`Data.ofJson`). Two keys are the same when they
are equal as numbers, so that `1`, `1.0` and `true` are one key, and two times when they are the
same instant.
-/

namespace StackCompiler

/-- A calendar date. -/
structure Date where
  year : Nat
  month : Nat
  day : Nat
  deriving DecidableEq, Repr

/-- The number of a day; consecutive days have consecutive numbers. The year is taken to start in
March, so that the leap day is its last. -/
def Date.dayNumber (d : Date) : Nat :=
  let year := if d.month ≤ 2 then d.year - 1 else d.year
  let month := (d.month + 9) % 12
  365 * year + year / 4 - year / 100 + year / 400 + (306 * month + 5) / 10 + d.day

/-- A time of day on a date; `offset` is the distance from universal time in seconds, if known. -/
structure Moment where
  date : Date
  hour : Nat
  minute : Nat
  second : Nat
  microsecond : Nat
  offset : Option Int
  deriving DecidableEq, Repr

/-- The microseconds from a fixed instant on, by the clock at the place of the time. -/
def Moment.clock (m : Moment) : Nat :=
  (((m.date.dayNumber * 24 + m.hour) * 60 + m.minute) * 60 + m.second) * 1000000 + m.microsecond

/-- Whether two times are one instant; a time of unknown offset is compared by its clock, and is
no instant of a known offset. -/
def Moment.isSameInstant (m n : Moment) : Bool :=
  match m.offset, n.offset with
  | some p, some q => (m.clock : Int) - p * 1000000 == (n.clock : Int) - q * 1000000
  | none, none => m.clock == n.clock
  | _, _ => false

inductive Scalar where
  | null
  | bool (b : Bool)
  | int (n : Int)
  | float (x : Binary64)
  | str (s : String)
  | bytes (bs : List UInt8)
  | date (d : Date)
  | moment (m : Moment)
  deriving Repr

inductive Data where
  | scalar (s : Scalar)
  | list (items : List Data)
  | map (entries : List (Scalar × Data))
  | set (members : List Scalar)
  deriving Repr

namespace Scalar

/-- The integer that a scalar is equal to as a number. -/
def number? : Scalar → Option Int
  | bool b => some (if b then 1 else 0)
  | int n => some n
  | float x => x.toInt?
  | _ => none

/-- Whether two scalars are one key of a mapping. -/
def sameKey (s t : Scalar) : Bool :=
  match s.number?, t.number? with
  | some m, some n => m == n
  | some _, none | none, some _ => false
  | none, none =>
    match s, t with
    | null, null => true
    | float x, float y => x == y
    | str a, str b => a == b
    | bytes a, bytes b => a == b
    | date a, date b => a == b
    | moment a, moment b => a.isSameInstant b
    | _, _ => false

instance : BEq Scalar := ⟨sameKey⟩

/-- Null, false, zero and the empty text count as absent. -/
def isVacant : Scalar → Bool
  | null => true
  | bool b => !b
  | int n => n == 0
  | float x => x.isZero
  | str s => s.isEmpty
  | bytes bs => bs.isEmpty
  | date _ | moment _ => false

/-- The name of the kind of a scalar in messages. -/
def kind : Scalar → String
  | null => "NoneType"
  | bool _ => "bool"
  | int _ => "int"
  | float _ => "float"
  | str _ => "str"
  | bytes _ => "bytes"
  | date _ => "date"
  | moment _ => "datetime"

/-! ## Display -/

def displayBytes (bs : List UInt8) : String :=
  let cs := bs.map fun b => Char.ofNat b.toNat
  let mark := Text.quotationMark cs
  let shown (c : Char) : List Char :=
    if c.toNat < 128 then Text.quotedChar mark c else Text.codeEscape c
  String.ofList ('b' :: mark :: cs.flatMap shown ++ [mark])

def displayDate (d : Date) : String := s!"datetime.date({d.year}, {d.month}, {d.day})"

def displayOffset (offset : Int) : String :=
  if offset = 0 then "datetime.timezone.utc"
  else
    let days := Int.fdiv offset 86400
    let seconds := Int.fmod offset 86400
    let dayText := if days = 0 then [] else [s!"days={days}"]
    let secondText := if seconds = 0 then [] else [s!"seconds={seconds}"]
    let delta := ", ".intercalate (dayText ++ secondText)
    s!"datetime.timezone(datetime.timedelta({delta}))"

def displayMoment (m : Moment) : String :=
  let tail := if m.microsecond ≠ 0 then [m.second, m.microsecond]
    else if m.second ≠ 0 then [m.second] else []
  let fields := [m.date.year, m.date.month, m.date.day, m.hour, m.minute] ++ tail
  let zone := match m.offset with
    | some offset => ["tzinfo=" ++ displayOffset offset]
    | none => []
  let inner := ", ".intercalate (fields.map toString ++ zone)
  s!"datetime.datetime({inner})"

/-- An integer, unless it has too many digits to be shown. -/
def displayInt (n : Int) : String :=
  if n.natAbs < Nat.pow 10 Text.maxDigits then toString n else "<unprintable int object>"

/-- A scalar as it is shown in the path of an issue. -/
def display : Scalar → String
  | null => "None"
  | bool b => if b then "True" else "False"
  | int n => displayInt n
  | float x => x.text
  | str s => Text.quoted s
  | bytes bs => displayBytes bs
  | date d => displayDate d
  | moment m => displayMoment m

end Scalar

namespace Data

def null : Data := scalar .null

def str (s : String) : Data := scalar (.str s)

def bool (b : Bool) : Data := scalar (.bool b)

def int (n : Int) : Data := scalar (.int n)

/-- A mapping with texts as keys. -/
def record (entries : List (String × Data)) : Data := map (entries.map fun (k, v) => (.str k, v))

def strs (xs : List String) : Data := list (xs.map str)

mutual

/-- A JSON value as data. -/
def ofJson : Json → Data
  | .null => scalar .null
  | .bool b => scalar (.bool b)
  | .int n => scalar (.int n)
  | .float x => scalar (.float x)
  | .str s => scalar (.str s)
  | .arr vs => list (ofItems vs)
  | .obj ms => map (ofMembers ms)

def ofItems : List Json → List Data
  | [] => []
  | v :: vs => ofJson v :: ofItems vs

def ofMembers : List (String × Json) → List (Scalar × Data)
  | [] => []
  | (k, v) :: ms => (.str k, ofJson v) :: ofMembers ms

end

/-- Vacant scalars and empty collections count as absent. -/
def isVacant : Data → Bool
  | scalar s => s.isVacant
  | list items => items.isEmpty
  | map entries => entries.isEmpty
  | set members => members.isEmpty

def isNull : Data → Bool
  | scalar .null => true
  | _ => false

/-- The name of the kind of data in messages. -/
def kind : Data → String
  | scalar s => s.kind
  | list _ => "list"
  | map _ => "dict"
  | set _ => "set"

/-- The value of a text key in a mapping. -/
def get? (name : String) : Data → Option Data
  | map entries => entries.lookup (.str name)
  | _ => none

end Data
end StackCompiler
