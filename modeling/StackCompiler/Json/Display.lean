import StackCompiler.Json.Basic
import StackCompiler.Text.Quoted

/-!
# JSON values in messages

`Json.display` shows a value inside a problem message: quoted texts, members in their order, and
the words `None`, `True` and `False`.
-/

namespace StackCompiler.Json

def displayBool (b : Bool) : String := if b then "True" else "False"

mutual

def displayChars : Json → List Char
  | null => "None".toList
  | bool b => (displayBool b).toList
  | int n => (toString n).toList
  | float x => x.text.toList
  | str s => Text.quotedChars s.toList
  | arr vs => '[' :: displayItems vs ++ [']']
  | obj ms => '\x7b' :: displayMembers ms ++ ['\x7d']

def displayItems : List Json → List Char
  | [] => []
  | [v] => displayChars v
  | v :: w :: vs => displayChars v ++ [',', ' '] ++ displayItems (w :: vs)

def displayMembers : List (String × Json) → List Char
  | [] => []
  | [(k, v)] => Text.quotedChars k.toList ++ [':', ' '] ++ displayChars v
  | (k, v) :: m :: ms =>
    Text.quotedChars k.toList ++ [':', ' '] ++ displayChars v ++ [',', ' '] ++
      displayMembers (m :: ms)

end

def display (v : Json) : String := String.ofList (displayChars v)

end StackCompiler.Json
