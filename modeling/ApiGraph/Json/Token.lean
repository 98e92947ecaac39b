import ApiGraph.Json.Fault
import ApiGraph.Json.Value
import ApiGraph.Number.Digits

/-!
# JSON tokens

`tokens` cuts a text into brackets, marks and scalars. A scalar that goes wrong becomes a `broken`
token, which ends the list: whether its fault or an earlier one is reported is the grammar's to say.
-/

namespace ApiGraph.Json

inductive Token where
  | openBracket
  | closeBracket
  | openBrace
  | closeBrace
  | comma
  | colon
  | scalar (v : Json)
  | text (s : String)
  | broken (e : SyntaxError)
deriving DecidableEq, Repr

/-- A token and the unread text that begins with it. -/
structure Lexeme where
  token : Token
  source : List Char
deriving DecidableEq, Repr

/-- The outcome of reading a scalar: the value and the characters used, or the fault, found `ahead`
bytes after the characters used. -/
inductive Scan (α : Type) where
  | done (value : α) (used : Nat)
  | failed (fault : Fault) (used : Nat) (ahead : Nat)

/-- The rest of a word such as `null`, after `used` characters. -/
def scanWord (value : Json) (used : Nat) : List Char → List Char → Scan Json
  | [], _ => .done value used
  | _ :: _, [] => .failed .endInValue used 0
  | e :: es, c :: cs =>
    if c = e then scanWord value (used + 1) es cs else .failed .wordExpected used 1

/-- The digits up to the one with which the exponent leaves 32 bits, if there is one. -/
def exponentLimit (ds : List Char) : Option Nat :=
  ((List.range ds.length).find? fun n => Nat.pow 2 31 ≤ Digits.value (ds.take (n + 1))).map (· + 1)

/-- A floating point literal: the digits of its significand, how many of them follow the point, and
the exponent. -/
def floatScan (negative : Bool) (digits : List Char) (places : Nat) (exponent : Int) (used : Nat) :
    Scan Number :=
  match Binary64.ofDecimal (Digits.value digits) digits.length (exponent - places) with
  | some x => .done (.float (x.withSign negative)) used
  | none => .failed .numberOutOfRange used 0

/-- The digits of an exponent, after `used` characters. -/
def scanExponentDigits (negative : Bool) (digits : List Char) (places : Nat) (down : Bool)
    (used : Nat) (cs : List Char) : Scan Number :=
  match cs with
  | [] => .failed .endInValue used 0
  | c :: _ =>
    if c.isDigit then
      let ds := cs.takeWhile Char.isDigit
      match exponentLimit ds with
      | some n =>
        if !down && Digits.value digits ≠ 0 then .failed .numberOutOfRange (used + n) 0
        else .done (.float (Binary64.zero.withSign negative)) (used + ds.length)
      | none =>
        let e : Int := Digits.value ds
        floatScan negative digits places (if down then -e else e) (used + ds.length)
    else .failed .badNumber used 1

def scanExponent (negative : Bool) (digits : List Char) (places : Nat) (used : Nat) :
    List Char → Scan Number
  | '+' :: cs => scanExponentDigits negative digits places false (used + 1) cs
  | '-' :: cs => scanExponentDigits negative digits places true (used + 1) cs
  | cs => scanExponentDigits negative digits places false used cs

/-- What follows the point of a literal with the given digits before it. -/
def scanFraction (negative : Bool) (whole : List Char) (used : Nat) (cs : List Char) :
    Scan Number :=
  let ds := cs.takeWhile Char.isDigit
  let rest := cs.dropWhile Char.isDigit
  if ds.isEmpty then
    if rest.isEmpty then .failed .endInValue used 0 else .failed .badNumber used 1
  else
    let used := used + ds.length
    match rest with
    | 'e' :: rest | 'E' :: rest => scanExponent negative (whole ++ ds) ds.length (used + 1) rest
    | _ => floatScan negative (whole ++ ds) ds.length 0 used

/-- The value of an integer literal: an integer where the machine has it, else a float. -/
def integerScan (negative : Bool) (digits : List Char) (used : Nat) : Scan Number :=
  let n := Digits.value digits
  if !negative && n < Nat.pow 2 64 then .done (.int n) used
  else if negative && 0 < n && n ≤ Nat.pow 2 63 then .done (.int (-n)) used
  else floatScan negative digits 0 0 used

/-- A number without its sign, after `used` characters. -/
def scanUnsigned (negative : Bool) (used : Nat) (cs : List Char) : Scan Number :=
  match cs with
  | [] => .failed .endInValue used 0
  | c :: rest =>
    if !c.isDigit then .failed .badNumber used 1
    else if c == '0' && rest.head?.any Char.isDigit then .failed .badNumber (used + 1) 1
    else
      let ds := cs.takeWhile Char.isDigit
      let used := used + ds.length
      match cs.dropWhile Char.isDigit with
      | '.' :: rest => scanFraction negative ds (used + 1) rest
      | 'e' :: rest | 'E' :: rest => scanExponent negative ds 0 (used + 1) rest
      | _ => integerScan negative ds used

def scanNumber : List Char → Scan Number
  | '-' :: cs => scanUnsigned true 1 cs
  | cs => scanUnsigned false 0 cs

/-- The character that stands for itself or for a control behind a backslash. -/
def unescape : Char → Option Char
  | '"' => some '"'
  | '\\' => some '\\'
  | '/' => some '/'
  | 'b' => some '\x08'
  | 'f' => some '\x0C'
  | 'n' => some '\n'
  | 'r' => some '\r'
  | 't' => some '\t'
  | _ => none

def hexDigit (c : Char) : Option Nat :=
  if c.isDigit then some (c.toNat - 48)
  else if 'a' ≤ c && c ≤ 'f' then some (c.toNat - 87)
  else if 'A' ≤ c && c ≤ 'F' then some (c.toNat - 55)
  else none

/-- The 16-bit unit that four digits spell. -/
def hexUnit : List Char → Option Nat
  | a :: b :: c :: d :: _ => do
    return 4096 * (← hexDigit a) + 256 * (← hexDigit b) + 16 * (← hexDigit c) + (← hexDigit d)
  | _ => none

def hexFault (used : Nat) (cs : List Char) : Scan String :=
  if byteLength cs < 4 then .failed .endInString (used + cs.length) 0
  else .failed .badEscape used 4

/-- What an escape `\uXXXX` stands for: the character and the number of characters after `\u`. -/
def scanUnit (used : Nat) (cs : List Char) : Except (Scan String) (Char × Nat) :=
  match hexUnit cs with
  | none => .error (hexFault used cs)
  | some high =>
    if 0xDC00 ≤ high && high ≤ 0xDFFF then .error (.failed .loneSurrogate (used + 4) 0)
    else if high < 0xD800 || 0xDBFF < high then .ok (Char.ofNat high, 4)
    else match cs.drop 4 with
      | [] => .error (.failed .endInString (used + 4) 0)
      | ['\\'] => .error (.failed .endInString (used + 5) 0)
      | '\\' :: 'u' :: rest =>
        match hexUnit rest with
        | none => .error (hexFault (used + 6) rest)
        | some low =>
          if 0xDC00 ≤ low && low ≤ 0xDFFF then
            .ok (Char.ofNat (0x10000 + 0x400 * (high - 0xD800) + (low - 0xDC00)), 10)
          else .error (.failed .loneSurrogate (used + 10) 0)
      | '\\' :: _ => .error (.failed .cutSurrogatePair (used + 5) 1)
      | _ => .error (.failed .cutSurrogatePair (used + 4) 1)

/-- The string up to its closing quote: the characters read so far in reverse, and how many were
used for them. -/
def scanString (read : List Char) (used : Nat) (cs : List Char) : Scan String :=
  match cs with
  | [] => .failed .endInString used 0
  | '"' :: _ => .done (String.ofList read.reverse) (used + 1)
  | ['\\'] => .failed .endInString (used + 1) 0
  | '\\' :: 'u' :: rest =>
    match scanUnit (used + 2) rest with
    | .error fault => fault
    | .ok (c, n) => scanString (c :: read) (used + 2 + n) (rest.drop n)
  | '\\' :: c :: rest =>
    match unescape c with
    | some d => scanString (d :: read) (used + 2) rest
    | none => .failed .badEscape (used + 1) 1
  | c :: rest =>
    if c.toNat < 0x20 then .failed .controlCharacter used 1
    else scanString (c :: read) (used + 1) rest
termination_by cs.length
decreasing_by all_goals simp only [List.length_cons, List.length_drop]; omega

def isGap (c : Char) : Bool := c == ' ' || c == '\t' || c == '\n' || c == '\r'

/-- The token and the characters used after the first one. -/
def Scan.toToken {α : Type} (cs : List Char) (token : α → Token) : Scan α → Token × Nat
  | .done v used => (token v, used)
  | .failed fault used ahead => (.broken ⟨fault, cs.drop used, ahead⟩, cs.length)

/-- The token that begins with `c`, and how many of the characters after it belong to it. -/
def firstToken (c : Char) (cs : List Char) : Token × Nat :=
  match c with
  | '[' => (.openBracket, 0)
  | ']' => (.closeBracket, 0)
  | '\x7b' => (.openBrace, 0)
  | '\x7d' => (.closeBrace, 0)
  | ',' => (.comma, 0)
  | ':' => (.colon, 0)
  | 'n' => (scanWord .null 0 "ull".toList cs).toToken cs .scalar
  | 't' => (scanWord (.bool true) 0 "rue".toList cs).toToken cs .scalar
  | 'f' => (scanWord (.bool false) 0 "alse".toList cs).toToken cs .scalar
  | '"' => (scanString [] 0 cs).toToken cs .text
  | c =>
    if c.isDigit || c == '-' then
      match (scanNumber (c :: cs)).toToken (c :: cs) (fun n => .scalar (.num n)) with
      | (token, used) => (token, used - 1)
    else (.broken ⟨.valueExpected, c :: cs, 1⟩, cs.length)

/-- The tokens of a text, up to the first broken one. -/
def tokens : List Char → List Lexeme
  | [] => []
  | c :: cs =>
    if isGap c then tokens cs
    else
      match firstToken c cs with
      | (token, used) => ⟨token, c :: cs⟩ :: tokens (cs.drop used)
termination_by cs => cs.length
decreasing_by all_goals simp only [List.length_cons, List.length_drop]; omega

end ApiGraph.Json
