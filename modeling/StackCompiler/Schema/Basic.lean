import StackCompiler.Json.Display
import StackCompiler.Text.Pattern
import StackCompiler.Text.Order

/-!
# Document schemas

A schema is built from rules on JSON values. A rule on one kind of value says nothing about values
of another kind. `Schema.problems` finds what breaks the rules, in the order in which they are
stated; `Schema.report` puts the problems in the order of their places.
-/

namespace StackCompiler

/-- The kinds of values that schemas tell apart. -/
inductive ValueKind where
  | object
  | array
  | string
  | boolean
  deriving DecidableEq, Repr

def ValueKind.word : ValueKind → String
  | object => "object"
  | array => "array"
  | string => "string"
  | boolean => "boolean"

def ValueKind.holds : ValueKind → Json → Bool
  | object, .obj _ => true
  | array, .arr _ => true
  | string, .str _ => true
  | boolean, .bool _ => true
  | _, _ => false

/-- A form of texts and the expression that messages show for it. -/
structure TextForm where
  expression : String
  accepts : String → Bool

def TextForm.slug : TextForm := ⟨"^[a-z][a-z0-9-]*[a-z0-9]$|^[a-z]$", Text.isSlug⟩

def TextForm.httpUrl : TextForm := ⟨"^https?://[^\\s/]+(/[^\\s]*)?$", Text.isHttpUrl⟩

inductive Schema where
  /-- All of some schemas. -/
  | all (parts : List Schema)
  | kind (k : ValueKind)
  /-- An object has no members but those named. -/
  | onlyMembers (names : List String)
  | requires (names : List String)
  /-- The members named, where they are there. -/
  | members (parts : List (String × Schema))
  | equals (b : Bool)
  | equalsText (s : String)
  | oneOf (words : List String)
  | form (f : TextForm)
  /-- A text is not empty. -/
  | someText
  /-- A list is not empty. -/
  | someItem
  | items (part : Schema)
  /-- What meets the condition meets the consequence too. -/
  | implies (condition consequence : Schema)
  /-- No object has all the members named. -/
  | forbids (names : List String)

namespace Schema

/-- Where a value breaks a rule, and how. -/
structure Problem where
  path : List String
  message : String
  deriving DecidableEq, Repr

def problem (message : String) : List Problem := [⟨[], message⟩]

def under (step : String) (ps : List Problem) : List Problem :=
  ps.map fun p => { p with path := step :: p.path }

/-! ## Rules on one value -/

def checkKind (k : ValueKind) (v : Json) : List Problem :=
  if k.holds v then [] else problem s!"{v.display} is not of type '{k.word}'"

def listed (names : List String) : String := ", ".intercalate (names.map Text.quoted)

def checkOnlyMembers (names : List String) (v : Json) : List Problem :=
  let extra := ((v.members?.getD []).map (·.1)).filter fun k => !names.contains k
  if extra.isEmpty then []
  else
    let shown := listed (Text.sortPlain extra)
    let verb := if extra.length = 1 then "was" else "were"
    problem s!"Additional properties are not allowed ({shown} {verb} unexpected)"

def checkRequires (names : List String) (v : Json) : List Problem :=
  match v with
  | .obj ms => names.flatMap fun k =>
      if (ms.lookup k).isSome then []
      else
        let shown := Text.quoted k
        problem s!"{shown} is a required property"
  | _ => []

def checkEquals (b : Bool) (v : Json) : List Problem :=
  match v with
  | .bool c => if b = c then [] else problem s!"{(Json.bool b).display} was expected"
  | _ => problem s!"{(Json.bool b).display} was expected"

def checkEqualsText (s : String) (v : Json) : List Problem :=
  let wanted := Text.quoted s
  match v with
  | .str t => if s = t then [] else problem s!"{wanted} was expected"
  | _ => problem s!"{wanted} was expected"

def checkOneOf (words : List String) (v : Json) : List Problem :=
  let shown := listed words
  let failed := problem s!"{v.display} is not one of [{shown}]"
  match v with
  | .str t => if words.contains t then [] else failed
  | _ => failed

def checkForm (f : TextForm) (v : Json) : List Problem :=
  match v with
  | .str s =>
    if f.accepts s then []
    else
      let shown := Text.quoted f.expression
      problem s!"{v.display} does not match {shown}"
  | _ => []

def checkSomeText (v : Json) : List Problem :=
  match v with
  | .str "" => problem s!"{v.display} should be non-empty"
  | _ => []

def checkSomeItem (v : Json) : List Problem :=
  match v with
  | .arr [] => problem s!"{v.display} should be non-empty"
  | _ => []

/-- A value that is no object breaks no rule on members, so it meets the forbidden schema. -/
def checkForbids (names : List String) (v : Json) : List Problem :=
  let shown := listed names
  let failed := problem s!"{v.display} should not be valid under \x7b'required': [{shown}]\x7d"
  match v with
  | .obj ms => if names.all fun k => (ms.lookup k).isSome then failed else []
  | _ => failed

/-! ## Checking -/

mutual

/-- The problems of a value, in the order of the rules. -/
def problems : Schema → Json → List Problem
  | all parts, v => partProblems parts v
  | kind k, v => checkKind k v
  | onlyMembers names, v => checkOnlyMembers names v
  | requires names, v => checkRequires names v
  | members parts, v => memberProblems parts v
  | equals b, v => checkEquals b v
  | equalsText s, v => checkEqualsText s v
  | oneOf words, v => checkOneOf words v
  | form f, v => checkForm f v
  | someText, v => checkSomeText v
  | someItem, v => checkSomeItem v
  | items part, v =>
    match v with
    | .arr vs => vs.zipIdx.flatMap fun (w, i) => under (toString i) (problems part w)
    | _ => []
  | implies condition consequence, v =>
    if (problems condition v).isEmpty then problems consequence v else []
  | forbids names, v => checkForbids names v

def partProblems : List Schema → Json → List Problem
  | [], _ => []
  | s :: ss, v => problems s v ++ partProblems ss v

def memberProblems : List (String × Schema) → Json → List Problem
  | [], _ => []
  | (k, s) :: ss, v =>
    (match v.get? k with
      | some w => under k (problems s w)
      | none => []) ++ memberProblems ss v

end

/-- Whether a value keeps all rules. -/
def accepts (s : Schema) (v : Json) : Bool := (s.problems v).isEmpty

def comparePaths : List String → List String → Ordering := List.compareLex compare

/-- The problems of a value in the order of their places, each place being a list of texts. -/
def report (s : Schema) (v : Json) : List Problem :=
  (s.problems v).mergeSort fun p q => (comparePaths p.path q.path).isLE

/-- The place of a problem as a pointer. -/
def Problem.pointer (p : Problem) : String :=
  match p.path with
  | [] => "(root)"
  | steps => String.join (steps.map ("/" ++ ·))

def Problem.line (p : Problem) : String := s!"{p.pointer}: {p.message}"

end Schema
end StackCompiler
