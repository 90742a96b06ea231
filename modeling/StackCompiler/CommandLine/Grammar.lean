import StackCompiler.Text.Digit
import StackCompiler.Text.Quoted
import StackCompiler.Text.Similarity

/-!
# The grammar of command lines

An option is written `--name value`, `--name=value`, `-n value` or `-nvalue`, and flags of one
letter may be joined. Two hyphens alone end the options. Of an option that is given twice the last
value counts, unless it may be repeated. `Arguments.read` reads a command line by a list of
options.
-/

namespace StackCompiler.CommandLine

/-- What follows an option. -/
inductive OptionValue where
  | none
  | text
  | directory
  | integer
  deriving DecidableEq, Repr

/-- The word that stands for the value in descriptions. -/
def OptionValue.word : OptionValue → String
  | none => ""
  | text => " TEXT"
  | directory => " DIRECTORY"
  | integer => " INTEGER"

/-- An option: its name with two hyphens, its letter, what follows it, and what it is for. -/
structure OptionSpec where
  name : String
  purpose : String
  letter : Option Char := none
  value : OptionValue := .text
  deriving DecidableEq, Repr

namespace OptionSpec

def takesValue (o : OptionSpec) : Bool := o.value != .none

/-- How an option is written. -/
def forms (o : OptionSpec) : String :=
  let short := match o.letter with
    | some c => String.ofList ['-', c, ',', ' ']
    | none => ""
  short ++ o.name ++ o.value.word

end OptionSpec

/-- What is wrong with a command line. -/
inductive UsageError where
  | noSuchOption (name : String) (similar : List String)
  | noSuchCommand (name : String) (similar : List String)
  | needsValue (option : String)
  | takesNoValue (option : String)
  | unexpectedArguments (args : List String)
  | missingCommand
  | notInteger (option value : String)
  | isFile (option value : String)
  deriving DecidableEq, Repr

namespace UsageError

/-- The question whether something similar was meant. -/
def suggestion (similar : List String) : String :=
  match similar with
  | [] => ""
  | [one] => " Did you mean " ++ Text.quoted one ++ "?"
  | several => " (Did you mean one of: " ++ ", ".intercalate (several.map Text.quoted) ++ "?)"

def message : UsageError → String
  | noSuchOption name similar => "No such option " ++ Text.quoted name ++ "." ++ suggestion similar
  | noSuchCommand name similar =>
    "No such command " ++ Text.quoted name ++ "." ++ suggestion similar
  | needsValue option => "Option " ++ Text.quoted option ++ " requires an argument."
  | takesNoValue option => "Option " ++ Text.quoted option ++ " does not take a value."
  | unexpectedArguments args =>
    let noun := if args.length = 1 then "argument" else "arguments"
    let list := " ".intercalate args
    s!"Got unexpected extra {noun} ({list})"
  | missingCommand => "Missing command."
  | notInteger option value =>
    s!"Invalid value for '{option}': " ++ Text.quoted value ++ " is not a valid integer."
  | isFile option value =>
    s!"Invalid value for '{option}': Directory " ++ Text.quoted value ++ " is a file."

end UsageError

/-- The options that are given, in order, and the arguments beside them. -/
structure Arguments where
  options : List (String × Option String) := []
  rest : List String := []
  deriving DecidableEq, Repr

namespace Arguments

def given (a : Arguments) (name : String) : Bool := a.options.any (·.1 == name)

/-- All values of an option, in order. -/
def values (a : Arguments) (name : String) : List String :=
  a.options.filterMap fun (n, v) => if n == name then v else none

/-- The value that counts. -/
def value? (a : Arguments) (name : String) : Option String := (a.values name).getLast?

/-! ## Reading -/

/-- What one word gives: options, and the one that still needs a value, with how it is written. -/
structure Word where
  options : List (String × Option String) := []
  pending : Option (String × String) := none

/-- A word for a known option, with the value that is attached to it. -/
def wordOf (spec : OptionSpec) (shown : String) (attached : Option String) :
    Except UsageError Word :=
  if spec.takesValue then
    match attached with
    | some v => .ok { options := [(spec.name, some v)] }
    | none => .ok { pending := some (spec.name, shown) }
  else
    match attached with
    | some _ => .error (.takesNoValue shown)
    | none => .ok { options := [(spec.name, none)] }

/-- A name and the value after an equals sign. -/
def splitValue (word : String) : String × Option String :=
  match word.toList.span (· ≠ '=') with
  | (name, _ :: value) => (String.ofList name, some (String.ofList value))
  | _ => (word, none)

/-- Letters after one hyphen: flags, up to an option that takes the other letters as its value. -/
def letters (specs : List OptionSpec) : List Char → Except UsageError Word
  | [] => .ok {}
  | c :: cs =>
    let shown := String.ofList ['-', c]
    match specs.find? (·.letter == some c) with
    | none => .error (.noSuchOption shown [])
    | some spec =>
      if spec.takesValue then
        wordOf spec shown (if cs.isEmpty then none else some (String.ofList cs))
      else do
        let w ← letters specs cs
        return { w with options := (spec.name, none) :: w.options }

def word (specs : List OptionSpec) (arg : String) : Except UsageError Word :=
  let (name, attached) := splitValue arg
  match specs.find? (·.name == name) with
  | some spec => wordOf spec name attached
  | none =>
    if arg.startsWith "--" then
      .error (.noSuchOption name (Text.Similarity.closest name (specs.map (·.name))))
    else letters specs (arg.toList.drop 1)

def isOption (arg : String) : Bool := arg.startsWith "-" && 1 < arg.length

/-- The options that a word gives come before those of the rest. -/
def Word.before (w : Word) (a : Arguments) : Arguments :=
  { a with options := w.options ++ a.options }

/-- Reads a command line after an option that may still need its value. -/
def readAfter (specs : List OptionSpec) (mixed : Bool) :
    Option (String × String) → List String → Except UsageError Arguments
  | none, [] => .ok {}
  | some (_, shown), [] => .error (.needsValue shown)
  | some (name, _), value :: rest =>
    (readAfter specs mixed none rest).map fun a =>
      { a with options := (name, some value) :: a.options }
  | none, arg :: rest =>
    if arg = "--" then .ok { rest }
    else if isOption arg then
      match word specs arg with
      | .error e => .error e
      | .ok w => (readAfter specs mixed w.pending rest).map w.before
    else if mixed then
      (readAfter specs mixed none rest).map fun a => { a with rest := arg :: a.rest }
    else .ok { rest := arg :: rest }

/-- Reads a command line. Options may stand between other arguments if `mixed` holds; else they end
at the first other one. -/
def read (specs : List OptionSpec) (mixed : Bool) (args : List String) :
    Except UsageError Arguments :=
  readAfter specs mixed none args

end Arguments
end StackCompiler.CommandLine
