/-!
# Similar words

Two words are close if the stretches that they share make up at least three fifths of both. The
stretches are found by taking the longest common one and going on to its left and to its right.
`closest` picks the words of a list that are closest to a given one.
-/

namespace StackCompiler.Text.Similarity

/-- How many characters two texts begin with alike. -/
def commonStart : List Char → List Char → Nat
  | a :: as, b :: bs => if a = b then commonStart as bs + 1 else 0
  | _, _ => 0

/-- A stretch that two texts share: where it starts in either, and its length. -/
structure Stretch where
  left : Nat
  right : Nat
  length : Nat
  deriving DecidableEq, Repr

/-- The longest common stretch, the first one in the left text and then in the right text. -/
def longest (as bs : List Char) : Stretch :=
  let places := (List.range as.length).flatMap fun i => (List.range bs.length).map fun j => (i, j)
  places.foldl (fun best (i, j) =>
    let n := commonStart (as.drop i) (bs.drop j)
    if best.length < n then ⟨i, j, n⟩ else best) ⟨0, 0, 0⟩

/-- How many characters the common stretches have. Each call works on shorter texts, so the length
of the left one suffices as fuel. -/
def sharedFrom : Nat → List Char → List Char → Nat
  | 0, _, _ => 0
  | fuel + 1, as, bs =>
    let s := longest as bs
    if s.length = 0 then 0
    else
      s.length + sharedFrom fuel (as.take s.left) (bs.take s.right) +
        sharedFrom fuel (as.drop (s.left + s.length)) (bs.drop (s.right + s.length))

def shared (as bs : List Char) : Nat := sharedFrom as.length as bs

/-- How close a candidate is to a word: twice the shared characters, of all characters. -/
structure Closeness where
  candidate : String
  shared : Nat
  total : Nat
  deriving DecidableEq, Repr

def closeness (word candidate : String) : Closeness where
  candidate := candidate
  shared := 2 * shared candidate.toList word.toList
  total := candidate.length + word.length

def Closeness.isClose (c : Closeness) : Bool := 3 * c.total ≤ 5 * c.shared

/-- The order by closeness and then by the text, the closest first. -/
def Closeness.isBefore (c d : Closeness) : Bool :=
  let l := c.shared * d.total
  let r := d.shared * c.total
  if l = r then d.candidate ≤ c.candidate else r < l

/-- At most three candidates that are close to a word, in the order of their texts. -/
def closest (word : String) (candidates : List String) : List String :=
  let close := (candidates.map (closeness word)).filter (·.isClose)
  let best := (close.mergeSort Closeness.isBefore).take 3
  (best.map (·.candidate)).mergeSort (· ≤ ·)

end StackCompiler.Text.Similarity
