import ApiGraph.Json.Value
import ApiGraph.Number.Notation
import ApiGraph.Text.Shown

/-!
# JSON text

`compact` writes a value without blanks, `pretty` over lines with an indentation of two spaces.
Strings escape the quote, the backslash and the control characters below the space, nothing else.
-/

namespace ApiGraph.Json

/-- Floating point numbers carry a point or an exponent, and are positional from `0.00001` to below
`1e+16`. -/
def numberStyle : NumberStyle where
  positional e := -5 ≤ e && e < 16
  pointZero := true
  tie := .toEven

def Number.write : Number → String
  | .int n => if n < 0 then "-" ++ toString n.natAbs else toString n.natAbs
  | .float x => numberStyle.write x

def escapeChar (c : Char) : List Char :=
  match c with
  | '"' => ['\\', '"']
  | '\\' => ['\\', '\\']
  | '\x08' => ['\\', 'b']
  | '\x0C' => ['\\', 'f']
  | '\n' => ['\\', 'n']
  | '\r' => ['\\', 'r']
  | '\t' => ['\\', 't']
  | c =>
    if c.toNat < 0x20 then
      let digits := Text.hexDigits c.toNat
      '\\' :: 'u' :: (List.replicate (4 - digits.length) '0' ++ digits)
    else [c]

def writeString (s : String) : String :=
  String.ofList ('"' :: (s.toList.flatMap escapeChar ++ ['"']))

mutual

def compact : Json → String
  | .null => "null"
  | .bool b => if b then "true" else "false"
  | .num n => n.write
  | .str s => writeString s
  | .arr items => "[" ++ compactItems items ++ "]"
  | .obj fields => "\x7b" ++ compactFields fields ++ "\x7d"

def compactItems : List Json → String
  | [] => ""
  | [a] => compact a
  | a :: as => compact a ++ "," ++ compactItems as

def compactFields : List (String × Json) → String
  | [] => ""
  | [(k, a)] => writeString k ++ ":" ++ compact a
  | (k, a) :: as => writeString k ++ ":" ++ compact a ++ "," ++ compactFields as

end

mutual

/-- The text over lines, of a value whose own line is indented by `indent`. -/
def prettyFrom (indent : String) : Json → String
  | .null => "null"
  | .bool b => if b then "true" else "false"
  | .num n => n.write
  | .str s => writeString s
  | .arr [] => "[]"
  | .arr (a :: as) => "[\n" ++ prettyItems (indent ++ "  ") (a :: as) ++ "\n" ++ indent ++ "]"
  | .obj [] => "\x7b\x7d"
  | .obj (f :: fs) =>
    "\x7b\n" ++ prettyFields (indent ++ "  ") (f :: fs) ++ "\n" ++ indent ++ "\x7d"

def prettyItems (indent : String) : List Json → String
  | [] => ""
  | [a] => indent ++ prettyFrom indent a
  | a :: as => indent ++ prettyFrom indent a ++ ",\n" ++ prettyItems indent as

def prettyFields (indent : String) : List (String × Json) → String
  | [] => ""
  | [(k, a)] => indent ++ writeString k ++ ": " ++ prettyFrom indent a
  | (k, a) :: as =>
    indent ++ writeString k ++ ": " ++ prettyFrom indent a ++ ",\n" ++ prettyFields indent as

end

def pretty (j : Json) : String := prettyFrom "" j

end ApiGraph.Json
