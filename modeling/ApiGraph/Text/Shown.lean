import ApiGraph.Text.Shown.Table

/-!
# Texts inside messages

`shown` writes a text between double quotes the way messages show it: quotes and backslashes behind
a backslash, and a code point without a shape of its own by its number.
-/

namespace ApiGraph.Text

/-- The lower-case digits of a number in base sixteen. -/
def hexDigits (n : Nat) : List Char := Nat.toDigits 16 n

/-- A character that a message shows by its number. -/
def isUnshown (c : Char) : Bool :=
  if 0x20 ≤ c.toNat && c.toNat < 0x7F then false
  else unshownRanges.any fun r => r.1 ≤ c.toNat && c.toNat ≤ r.2

def showChar (c : Char) : List Char :=
  match c with
  | '\x00' => ['\\', '0']
  | '\t' => ['\\', 't']
  | '\n' => ['\\', 'n']
  | '\r' => ['\\', 'r']
  | '"' => ['\\', '"']
  | '\\' => ['\\', '\\']
  | c => if isUnshown c then "\\u\x7b".toList ++ hexDigits c.toNat ++ ['\x7d'] else [c]

/-- The text between double quotes. -/
def shown (s : String) : String :=
  String.ofList ('"' :: (s.toList.flatMap showChar ++ ['"']))

end ApiGraph.Text
