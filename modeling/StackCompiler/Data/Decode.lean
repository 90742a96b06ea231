import StackCompiler.Data.Basic
import StackCompiler.Data.IntText
import StackCompiler.Encoding.Utf8

/-!
# Reading fields out of data

A record is read field by field, and every issue is reported with the path to where it arose, in
the order of the fields. `Decoded` is the result: a value, or the issues, or the one mistake that
ends the reading at once, a collection that has no items. Its applicative structure runs all
readings and joins their issues.

A field is found under its written name or else under its own name; a key that is no field of a
closed record is an issue after those of the fields.
-/

namespace StackCompiler

/-- A step of the path to a part of data. -/
inductive Step where
  | key (name : String)
  | index (n : Int)
  deriving DecidableEq, Repr

/-- Why a part of data is not what it should be. -/
inductive Cause where
  | missing
  | notText
  | textNotUtf8
  | notBool
  | boolUnreadable
  | notInt
  | intUnreadable
  | intTooLong
  | intHasFraction
  | intNotFinite
  | notOneOf
  | notMember
  | notList
  | notMap
  | notRecord
  | unknownField
  | keyNotText
  | refused (reason : String)
  deriving DecidableEq, Repr

structure Issue where
  path : List Step
  cause : Cause
  deriving DecidableEq, Repr

/-- The result of reading data. -/
inductive Decoded (α : Type) where
  | ok (value : α)
  | rejected (issues : List Issue)
  | notIterable
  deriving Repr

namespace Decoded

def fail (cause : Cause) : Decoded α := rejected [⟨[], cause⟩]

def map (f : α → β) : Decoded α → Decoded β
  | ok a => ok (f a)
  | rejected is => rejected is
  | notIterable => notIterable

/-- Both results, with the issues of both. -/
def both : Decoded α → Decoded β → Decoded (α × β)
  | notIterable, _ => notIterable
  | _, notIterable => notIterable
  | ok a, ok b => ok (a, b)
  | ok _, rejected js => rejected js
  | rejected is, ok _ => rejected is
  | rejected is, rejected js => rejected (is ++ js)

instance : Functor Decoded := ⟨map, fun b => map fun _ => b⟩

instance : Applicative Decoded where
  pure := ok
  seq f x := (both f (x ())).map fun (g, a) => g a

/-- A further step, taken only with a value. -/
def andThen (x : Decoded α) (f : α → Decoded β) : Decoded β :=
  match x with
  | ok a => f a
  | rejected is => rejected is
  | notIterable => notIterable

/-- The issues placed under a step. -/
def under (step : Step) : Decoded α → Decoded α
  | rejected is => rejected (is.map fun i => { i with path := step :: i.path })
  | d => d

def ofExcept : Except Cause α → Decoded α
  | .ok a => ok a
  | .error c => fail c

/-- All results in order, with the issues of all. -/
def all : List (Decoded α) → Decoded (List α)
  | [] => ok []
  | d :: ds => (both d (all ds)).map fun (a, as) => a :: as

end Decoded

namespace Decode

/-! ## Scalars -/

/-- A text; bytes are taken when they are UTF-8. -/
def text : Data → Decoded String
  | .scalar (.str s) => .ok s
  | .scalar (.bytes bs) =>
    match Utf8.decode? bs with
    | some s => .ok s
    | none => .fail .textNotUtf8
  | _ => .fail .notText

def trueWords : List String := ["1", "on", "t", "true", "y", "yes"]

def falseWords : List String := ["0", "off", "f", "false", "n", "no"]

def boolOfText (s : String) : Decoded Bool :=
  let word := String.ofList (s.toList.map Char.toLower)
  if trueWords.contains word then .ok true
  else if falseWords.contains word then .ok false
  else .fail .boolUnreadable

/-- Whether an integer fits a word of 64 bits. -/
def isWord (n : Int) : Bool := -(Nat.pow 2 63 : Int) ≤ n && n < (Nat.pow 2 63 : Int)

/-- An integer stands for a truth value if it is zero or one. -/
def boolOfInt (n : Int) : Decoded Bool :=
  if n = 0 then .ok false
  else if n = 1 then .ok true
  else if isWord n then .fail .boolUnreadable
  else .fail .notBool

def bool : Data → Decoded Bool
  | .scalar (.bool b) => .ok b
  | .scalar (.str s) => boolOfText s
  | .scalar (.bytes bs) =>
    match Utf8.decode? bs with
    | some s => boolOfText s
    | none => .fail .boolUnreadable
  | .scalar (.int n) => boolOfInt n
  | .scalar (.float x) =>
    match x.toInt? with
    | some n => if n.natAbs < Nat.pow 2 63 then boolOfInt n else .fail .notBool
    | none => .fail .notBool
  | _ => .fail .notBool

/-- An integer written as a text. -/
def intOfText (s : String) : Decoded Int :=
  match IntText.read s with
  | .ok n => .ok n
  | .error .tooLong => .fail .intTooLong
  | .error .unreadable => .fail .intUnreadable

/-- An integer, or what can stand for one: a truth value, a text that holds an integer, or a
floating point number without a fraction and below `2 ^ 63`. -/
def int : Data → Decoded Int
  | .scalar (.int n) => .ok n
  | .scalar (.bool b) => .ok (if b then 1 else 0)
  | .scalar (.str s) => intOfText s
  | .scalar (.bytes bs) =>
    match Utf8.decode? bs with
    | some s => intOfText s
    | none => .fail .intUnreadable
  | .scalar (.float x) =>
    match x, x.toInt? with
    | .finite .., some n => if n.natAbs < Nat.pow 2 63 then .ok n else .fail .intTooLong
    | .finite .., none => .fail .intHasFraction
    | _, _ => .fail .intNotFinite
  | _ => .fail .notInt

/-- One of the texts of a table, by what it stands for. -/
def literal (table : List (String × α)) : Data → Decoded α
  | .scalar (.str s) =>
    match table.lookup s with
    | some a => .ok a
    | none => .fail .notOneOf
  | _ => .fail .notOneOf

/-- One of the words of a table, by what it stands for; bytes are taken when they are UTF-8. -/
def member (table : List (String × α)) (d : Data) : Decoded α :=
  match text d with
  | .ok s =>
    match table.lookup s with
    | some a => .ok a
    | none => .fail .notMember
  | _ => .fail .notMember

/-- Null, or what is read otherwise. -/
def nullable (decode : Data → Decoded α) (d : Data) : Decoded (Option α) :=
  if d.isNull then .ok none else (decode d).map some

/-! ## Collections -/

/-- The items of a list, each read under its position. -/
def items (decode : Data → Decoded α) (xs : List Data) : Decoded (List α) :=
  Decoded.all ((xs.zipIdx).map fun (x, i) => (decode x).under (.index i))

def list (decode : Data → Decoded α) : Data → Decoded (List α)
  | .list xs => items decode xs
  | .set ms => items decode (ms.map Data.scalar)
  | _ => .fail .notList

/-- The step that a key makes: integers and truth values are positions. -/
def keyStep (s : Scalar) : Step :=
  match s with
  | .str name => .key name
  | .bool b => .index (if b then 1 else 0)
  | .int n => if isWord n then .index n else .key s.display
  | _ => .key s.display

/-- The text of a key; an issue with a key is marked as one. -/
def keyText (s : Scalar) : Decoded String :=
  ((text (.scalar s)).under (.key "[key]")).under (keyStep s)

/-- A mapping from texts, each value read under its key. -/
def mapping (decode : Data → Decoded α) : Data → Decoded (List (String × α))
  | .map entries =>
    (Decoded.all (entries.map fun (k, v) =>
      Decoded.both (keyText k) ((decode v).under (keyStep k)))).map dedupEntries
  | _ => .fail .notMap

/-! ## Records -/

/-- The entries of a record that is being read. -/
abbrev Fields := List (Scalar × Data)

/-- The written name of a field, and its own name if that is another one. -/
structure FieldName where
  written : String
  own : String

def FieldName.plain (name : String) : FieldName := ⟨name, name⟩

/-- The key under which a field is found, and its value. -/
def find? (fs : Fields) (name : FieldName) : Option (String × Data) :=
  match fs.lookup (.str name.written) with
  | some d => some (name.written, d)
  | none => (fs.lookup (.str name.own)).map (name.own, ·)

/-- A field that must be there. -/
def required (fs : Fields) (name : FieldName) (decode : Data → Decoded α) : Decoded α :=
  match find? fs name with
  | some (key, d) => (decode d).under (.key key)
  | none => (Decoded.fail .missing).under (.key name.written)

/-- A field with a value to take when it is not there. -/
def optional (fs : Fields) (name : FieldName) (default : α) (decode : Data → Decoded α) :
    Decoded α :=
  match find? fs name with
  | some (key, d) => (decode d).under (.key key)
  | none => .ok default

/-- A field that may be absent or null. -/
def maybe (fs : Fields) (name : FieldName) (decode : Data → Decoded α) : Decoded (Option α) :=
  optional fs name none (nullable decode)

/-- The keys that belong to no field, as issues. -/
def unknownKeys (fs : Fields) (names : List FieldName) : List Issue :=
  let used := names.filterMap fun n => (find? fs n).map (·.1)
  fs.filterMap fun (k, _) =>
    match k with
    | .str name => if used.contains name then none else some ⟨[.key name], .unknownField⟩
    | _ => some ⟨[keyStep k], .keyNotText⟩

/-- Adds the issues of unknown keys after those of the fields. -/
def closed (fs : Fields) (names : List FieldName) (d : Decoded α) : Decoded α :=
  match unknownKeys fs names with
  | [] => d
  | is => (Decoded.both d (.rejected is : Decoded Unit)).map (·.1)

/-- A record inside other data. -/
def record (decode : Fields → Decoded α) : Data → Decoded α
  | .map entries => decode entries
  | _ => .fail .notRecord

end Decode
end StackCompiler
