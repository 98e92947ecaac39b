import ApiGraph.Text.LetterCase
import ApiGraph.Text.Pieces

/-!
# Naming conventions

Conversions between the spellings of a name: `OrderItem`, `orderItem`, `order_item` and
`order-item`. Case is that of single Unicode characters; `kebab` and `identifier` leave ASCII only.
-/

namespace ApiGraph.Naming

open Text

def capitalize : List Char → List Char
  | [] => []
  | c :: cs => upperChars c ++ cs

def isJoint (c : Char) : Bool := c == '_' || c == '-' || c == ' '

def pascalChars (cs : List Char) : List Char := (splitOn isJoint cs).flatMap capitalize

def pascal (s : String) : String := String.ofList (pascalChars s.toList)

/-- Pascal case with a small first letter. -/
def camelChars (cs : List Char) : List Char :=
  match pascalChars cs with
  | [] => []
  | c :: rest => lowerChars c ++ rest

def camel (s : String) : String := String.ofList (camelChars s.toList)

/-- A capital begins a word after a small letter or a digit, and at the end of a run of capitals
when a small letter follows. -/
def beginsWord (before : Option Char) (next : Option Char) : Bool :=
  match before with
  | none => false
  | some b => isLowercase b || b.isDigit || (isUppercase b && next.any isLowercase)

def snakeFrom (before : Option Char) : List Char → List Char
  | [] => []
  | c :: cs =>
    (if isUppercase c then
      if beginsWord before cs.head? then '_' :: lowerChars c else lowerChars c
    else if c == '-' || c == ' ' then ['_']
    else [c]) ++ snakeFrom (some c) cs

/-- `snake_case`; a run of capitals is one word, so `APIKey` is `api_key`. -/
def snake (s : String) : String := String.ofList (snakeFrom none s.toList)

def kebabChars (cs : List Char) : List Char :=
  ['-'].intercalate ((words (!isAsciiAlnum ·) (snakeFrom none cs)).map (·.map Char.toLower))

/-- `kebab-case` over ASCII letters and digits, fit for file stems and package names. -/
def kebab (s : String) : String := String.ofList (kebabChars s.toList)

/-- The ASCII words in camel case; an underscore guards a leading digit. -/
def identifierChars (cs : List Char) : List Char :=
  match camelChars (['_'].intercalate (words (!isAsciiAlnum ·) cs)) with
  | [] => "unnamed".toList
  | c :: rest => if c.isDigit then '_' :: c :: rest else c :: rest

/-- An ASCII identifier in camel case, `unnamed` for a text without letters and digits. -/
def identifier (s : String) : String := String.ofList (identifierChars s.toList)

/-- The kebab case, or `fallback` where it is empty. -/
def kebabOr (fallback s : String) : String :=
  if (kebab s).isEmpty then fallback else kebab s

end ApiGraph.Naming
