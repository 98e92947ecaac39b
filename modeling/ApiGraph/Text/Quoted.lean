/-!
# Single-quoted literals

`quote` writes a text as a single-quoted TypeScript string literal and `propertyKey` a name as a
property key. Only the backslash, the quote and the two line ends that a literal may not hold are
escaped.
-/

namespace ApiGraph.Text

/-- A character inside a single-quoted literal. -/
def quoteChar : Char → List Char
  | '\\' => ['\\', '\\']
  | '\'' => ['\\', '\'']
  | '\n' => ['\\', 'n']
  | '\r' => ['\\', 'r']
  | c => [c]

def quoteChars (cs : List Char) : List Char := '\'' :: (cs.flatMap quoteChar ++ ['\''])

/-- A single-quoted string literal that denotes the text. -/
def quote (s : String) : String := String.ofList (quoteChars s.toList)

/-- A character that may begin a plain identifier. -/
def isIdentStart (c : Char) : Bool := c.isAlpha || c == '_' || c == '$'

/-- A character that may follow in a plain identifier. -/
def isIdentRest (c : Char) : Bool := isIdentStart c || c.isDigit

def isPlainIdent : List Char → Bool
  | [] => false
  | c :: cs => isIdentStart c && cs.all isIdentRest

/-- A property key: the name itself where it is a plain identifier, else its literal. -/
def propertyKey (name : String) : String :=
  if isPlainIdent name.toList then name else quote name

end ApiGraph.Text
