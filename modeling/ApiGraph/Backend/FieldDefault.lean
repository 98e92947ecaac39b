import ApiGraph.Number.Digits
import ApiGraph.Project.Model
import ApiGraph.Text.Blank
import ApiGraph.Text.Pieces
import ApiGraph.Text.Quoted

/-!
# Field defaults

What the default text of a model field means. Numbers and truth values are written as they stand;
all else is a string.
-/

namespace ApiGraph.Backend

inductive FieldDefault where
  /-- The time of the insertion. -/
  | now
  /-- A number as it was written. -/
  | number (text : String)
  | boolean (b : Bool)
  | text (s : String)
deriving DecidableEq, Repr

namespace FieldDefault

def literal? : FieldDefault → Option String
  | now => none
  | number s => some s
  | boolean b => some (if b then "true" else "false")
  | text s => some (Text.quote s)

/-- An integer of 64 bits: digits behind an optional sign. -/
def isInteger (cs : List Char) : Bool :=
  let (negative, digits) := Digits.splitSign cs
  Digits.isNumeral digits &&
    Digits.value digits < Nat.pow 2 63 + (if negative then 1 else 0)

/-- The names of values that are no numerals, in small letters. -/
def specialNumbers : List String := ["inf", "infinity", "nan"]

/-- Digits around an optional point, at least one. -/
def isMantissa (cs : List Char) : Bool :=
  match Text.splitOn (· == '.') cs with
  | [whole] => Digits.isNumeral whole
  | [whole, places] => Digits.isNumeral (whole ++ places)
  | _ => false

/-- A floating point number: a mantissa and an optional exponent, or a special value, behind an
optional sign. -/
def isFloat (cs : List Char) : Bool :=
  let body := (Digits.splitSign cs).2
  specialNumbers.contains (String.ofList (body.map Char.toLower)) ||
    match Text.splitOn (fun c => c == 'e' || c == 'E') body with
    | [mantissa] => isMantissa mantissa
    | [mantissa, exponent] => isMantissa mantissa && Digits.isNumeral (Digits.splitSign exponent).2
    | _ => false

def ofText (type : FieldType) (s : String) : FieldDefault :=
  match type with
  | .dateTime => if ["now", "now()", "NOW()"].contains s then now else text s
  | .int => if isInteger s.toList then number s else text s
  | .float => if isFloat s.toList then number s else text s
  | .boolean => if s = "true" then boolean true else if s = "false" then boolean false else text s
  | _ => text s

/-- The default of a field, blanks at its ends aside. -/
def ofField (f : ModelField) : Option FieldDefault :=
  match (f.default?.map Text.trim).filter (· ≠ "") with
  | some s => some (ofText f.type s)
  | none => none

/-- The default that a store fills in: a required date without one has the present time. -/
def stored (f : ModelField) : Option FieldDefault :=
  match ofField f with
  | some d => some d
  | none => if f.required && f.type = .dateTime then some now else none

end FieldDefault

end ApiGraph.Backend
