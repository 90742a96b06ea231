import StackCompiler.Failure
import StackCompiler.Json.Display

/-!
# Templates

A template is a text with places that values fill: `%s` shows a value, `%r` shows it with quotation
marks, `%d` shows a number without its fraction, `%%` is a percent sign, and a name in parentheses
picks a member of an object. `Template.fill` fills a template with one value.
-/

namespace StackCompiler

/-- The value as a text: a text stands for itself. -/
def Json.displayText : Json → String
  | .str s => s
  | v => v.display

namespace Template

/-- What fills the places: the value, whether it has filled a place, and the whole that members are
picked from. -/
structure Source where
  value : Json
  isUsed : Bool := false
  whole : Json

/-- The letters of places. -/
def conversions : List Char := ['s', 'r', 'd', 'i']

/-- A value at a place. -/
def shown (conversion : Char) (v : Json) : Except Failure String :=
  match conversion, v with
  | 's', v => .ok v.displayText
  | 'r', v => .ok v.display
  | _, .int n => .ok (toString n)
  | _, .bool b => .ok (if b then "1" else "0")
  | _, .float x =>
    match x.truncated? with
    | some n => .ok (toString n)
    | none => .error (if x = .nan then .badValue else .outOfRange)
  | _, _ => .error .wrongType

/-- A member of the whole. -/
def pick (whole : Json) (name : String) : Except Failure Json :=
  match whole with
  | .obj ms =>
    match ms.lookup name with
    | some v => .ok v
    | none => .error (.noSuchKey name)
  | _ => .error .wrongType

/-- The places after the first characters; a value fills one place. -/
def fillFrom : Nat → Source → List Char → Except Failure (List Char × Source)
  | 0, s, _ => .ok ([], s)
  | _, s, [] => .ok ([], s)
  | fuel + 1, s, '%' :: cs =>
    match cs with
    | '%' :: cs => (fillFrom fuel s cs).map fun (rest, s) => ('%' :: rest, s)
    | '(' :: cs =>
      match cs.span (· != ')') with
      | (name, ')' :: cs) => do
        let v ← pick s.whole (String.ofList name)
        fillFrom fuel { s with value := v, isUsed := false } ('%' :: cs)
      | _ => .error .badValue
    | c :: cs =>
      if !conversions.contains c then .error .badValue
      else if s.isUsed then .error .wrongType
      else do
        let v ← shown c s.value
        let (rest, s) ← fillFrom fuel { s with isUsed := true } cs
        return (v.toList ++ rest, s)
    | [] => .error .badValue
  | fuel + 1, s, c :: cs => (fillFrom fuel s cs).map fun (rest, s) => (c :: rest, s)

/-- Whether a value may be left over: a collection may, as its members need not all be picked. -/
def mayBeUnused : Json → Bool
  | .obj _ | .arr _ => true
  | _ => false

/-- The template filled with a value, which must fill a place. -/
def fill (template : String) (v : Json) : Except Failure String := do
  let cs := template.toList
  let (filled, s) ← fillFrom (2 * cs.length) { value := v, whole := v } cs
  if s.isUsed || mayBeUnused v then return String.ofList filled else throw .wrongType

end Template
end StackCompiler
