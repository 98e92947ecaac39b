/-!
# Pieces of a text

`splitOn` cuts a text at every separator, so `n` separators give `n + 1` pieces; `words` keeps the
pieces that are not empty.
-/

namespace ApiGraph.Text

/-- The pieces between the characters that satisfy `p`. -/
def splitOn (p : Char → Bool) : List Char → List (List Char)
  | [] => [[]]
  | c :: cs =>
    if p c then [] :: splitOn p cs
    else match splitOn p cs with
      | [] => [[c]]
      | w :: ws => (c :: w) :: ws

def words (p : Char → Bool) (cs : List Char) : List (List Char) :=
  (splitOn p cs).filter fun w => !w.isEmpty

def isAsciiAlnum (c : Char) : Bool := c.isAlpha || c.isDigit

/-- The text in which every `old` stands as `new`. -/
def substitute (old : Char) (new : String) (s : String) : String :=
  String.ofList (s.toList.flatMap fun c => if c = old then new.toList else [c])

/-- The ASCII capitals in lower case, all else as it is. -/
def asciiLower (s : String) : String := String.ofList (s.toList.map Char.toLower)

end ApiGraph.Text
