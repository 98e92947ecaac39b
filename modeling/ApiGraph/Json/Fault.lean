/-!
# Syntax faults

The causes for which a text is no JSON, their wording, and the place where each is found: the line,
and the column in bytes.
-/

namespace ApiGraph.Json

inductive Fault where
  | endInValue
  | endInList
  | endInObject
  | endInString
  | valueExpected
  | wordExpected
  | colonExpected
  | listEndExpected
  | objectEndExpected
  | keyExpected
  | trailingComma
  | trailingCharacters
  | badNumber
  | numberOutOfRange
  | badEscape
  | controlCharacter
  | cutSurrogatePair
  | loneSurrogate
  | tooDeep
deriving DecidableEq, Repr

def Fault.message : Fault → String
  | .endInValue => "EOF while parsing a value"
  | .endInList => "EOF while parsing a list"
  | .endInObject => "EOF while parsing an object"
  | .endInString => "EOF while parsing a string"
  | .valueExpected => "expected value"
  | .wordExpected => "expected ident"
  | .colonExpected => "expected `:`"
  | .listEndExpected => "expected `,` or `]`"
  | .objectEndExpected => "expected `,` or `\x7d`"
  | .keyExpected => "key must be a string"
  | .trailingComma => "trailing comma"
  | .trailingCharacters => "trailing characters"
  | .badNumber => "invalid number"
  | .numberOutOfRange => "number out of range"
  | .badEscape => "invalid escape"
  | .controlCharacter =>
    "control character (\\u0000-\\u001F) found while parsing a string"
  | .cutSurrogatePair => "unexpected end of hex escape"
  | .loneSurrogate => "lone leading surrogate in hex escape"
  | .tooDeep => "recursion limit exceeded"

/-- A fault, found `ahead` bytes into the text `rest` that is still unread. -/
structure SyntaxError where
  fault : Fault
  rest : List Char
  ahead : Nat
deriving DecidableEq, Repr

def byteLength (cs : List Char) : Nat := cs.foldl (fun n c => n + c.utf8Size) 0

/-- The line and the column at the end of a run of bytes, the column counted from the last line
feed. -/
def place (bytes : List UInt8) : Nat × Nat :=
  (1 + bytes.count 10, (bytes.reverse.takeWhile (· != 10)).length)

def SyntaxError.message (e : SyntaxError) (source : String) : String :=
  let bytes := source.toUTF8.toList
  let offset := bytes.length - byteLength e.rest + e.ahead
  let (line, column) := place (bytes.take offset)
  s!"{e.fault.message} at line {line} column {column}"

end ApiGraph.Json
