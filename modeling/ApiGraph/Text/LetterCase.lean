import ApiGraph.Text.LetterCase.Table

/-!
# Letter case

Case tests and default case mappings of single characters, without regard to their context. A
capital may be longer than its letter: `ß` has the capital `SS`.
-/

namespace ApiGraph.Text

open LetterCase

def isUppercase (c : Char) : Bool :=
  if c.toNat < 0x80 then c.isUpper else uppercase.any (·.contains c.toNat)

def isLowercase (c : Char) : Bool :=
  if c.toNat < 0x80 then c.isLower else lowercase.any (·.contains c.toNat)

/-- The image of a character: the full table first, then the runs, else itself. -/
def mapCase (full : List (Nat × List Nat)) (shifts : List Shift) (c : Char) : List Char :=
  match full.lookup c.toNat with
  | some image => image.map Char.ofNat
  | none =>
    match shifts.find? (·.run.contains c.toNat) with
    | some s => [Char.ofNat (s.target + (c.toNat - s.run.first))]
    | none => [c]

def upperChars (c : Char) : List Char :=
  if c.toNat < 0x80 then [c.toUpper] else mapCase toUpperFull toUpper c

/-- The default small letter of a character. -/
def lowerChars (c : Char) : List Char :=
  if c.toNat < 0x80 then [c.toLower] else mapCase toLowerFull toLower c

end ApiGraph.Text
