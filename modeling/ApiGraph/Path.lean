import ApiGraph.Text.Pieces

/-!
# Path templates

A path is a list of segments between slashes; a segment `:name` is a token, which may carry a
literal suffix. `placeholders` turns tokens into `{name}`, and `underBase` puts a template under a
base path once.
-/

namespace ApiGraph.Path

open Text

def isNameChar (c : Char) : Bool := isAsciiAlnum c || c == '_'

/-- A token: its name and the text after it in the segment. -/
structure Token where
  name : String
  suffix : String
deriving DecidableEq, Repr

/-- The token that a segment spells: a colon and at least one name character. -/
def token? : List Char → Option Token
  | ':' :: rest =>
    match rest.takeWhile isNameChar with
    | [] => none
    | name => some ⟨String.ofList name, String.ofList (rest.dropWhile isNameChar)⟩
  | _ => none

def segments (path : String) : List (List Char) := splitOn (· == '/') path.toList

def ofSegments (segs : List (List Char)) : String := String.ofList (['/'].intercalate segs)

/-- The names of the tokens of a template, each once, in order of appearance. -/
def tokenNames (template : String) : List String :=
  (((segments template).filterMap token?).map (·.name)).eraseDups

def placeholder (segment : List Char) : List Char :=
  match token? segment with
  | some t => '{' :: t.name.toList ++ ('}' :: t.suffix.toList)
  | none => segment

/-- The path with every `:name` token as `{name}`. -/
def placeholders (path : String) : String := ofSegments ((segments path).map placeholder)

def withSlash : List Char → List Char
  | '/' :: rest => '/' :: rest
  | cs => '/' :: cs

/-- The text without the slashes at its end. -/
def dropSlashes (cs : List Char) : List Char := (cs.reverse.dropWhile (· == '/')).reverse

/-- A base path in one spelling: empty, or a slash before it and none after. -/
def baseChars (base : String) : List Char :=
  match dropSlashes base.toList with
  | [] => []
  | cs => withSlash cs

/-- A template under a base path. A template that already begins with the base, up to the end of a
segment, stays as it is. -/
def underBase (template base : String) : String :=
  let t := withSlash template.toList
  let b := baseChars base
  String.ofList <|
    if b.isEmpty || t == b || (b ++ ['/']).isPrefixOf t then t
    else if t == ['/'] then b
    else b ++ t

/-- The ASCII letters of the first segment after a leading `api`, else `default`. -/
def resourceTag (path : String) : String :=
  let parts := words (· == '/') path.toList
  let first := if parts.head? = some "api".toList then parts[1]? else parts.head?
  match (first.getD []).filter Char.isAlpha with
  | [] => "default"
  | tag => String.ofList tag

end ApiGraph.Path
