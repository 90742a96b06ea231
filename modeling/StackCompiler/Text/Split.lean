/-!
# Pieces of texts

`pieces` cuts a text at every separator; `plainLineEnds` writes every line end as a line feed.
-/

namespace StackCompiler.Text

/-- The pieces of a text between separators; there is one more of them than of the separators. -/
def pieces (separator : Char) : List Char → List (List Char)
  | [] => [[]]
  | c :: cs =>
    if c = separator then [] :: pieces separator cs
    else match pieces separator cs with
      | [] => [[c]]
      | p :: ps => (c :: p) :: ps

/-- A text with every line end written as a line feed. -/
def plainLineEnds : List Char → List Char
  | '\r' :: '\n' :: cs => '\n' :: plainLineEnds cs
  | '\r' :: cs => '\n' :: plainLineEnds cs
  | c :: cs => c :: plainLineEnds cs
  | [] => []

end StackCompiler.Text
