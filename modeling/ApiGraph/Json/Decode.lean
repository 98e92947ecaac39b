import ApiGraph.Json.Printer

/-!
# Reading typed values

Decoders from JSON values to the types of a project. A record is read field by field into a
`Reading`, which collects every problem; the one that is reported is the first fault in the order in
which the record was written, and only without faults the first required field that is absent.
-/

namespace ApiGraph

inductive DecodeError where
  /-- A value of another kind than expected. -/
  | wrongType (found : Json) (expected : String)
  /-- An integer beyond the expected range. -/
  | outOfRange (n : Int) (expected : String)
  /-- A required field that is absent. -/
  | missingField (key : String)
  /-- A name that no variant has. -/
  | unknownVariant (name : String) (variants : List String)
  /-- An object in place of a variant whose keys are not exactly one. -/
  | notOneVariant
  /-- A record written as an array that ends before its field number `index`. -/
  | tooShort (index : Nat) (record : String) (fields : Nat)
  /-- A record written as an array of more items than it has fields. -/
  | tooLong (items : Nat)
  /-- A schema field whose type has no meaning. -/
  | unknownFieldType (type name : String)
deriving DecidableEq, Repr

namespace DecodeError

def describe : Json → String
  | .null => "null"
  | .bool true => "boolean `true`"
  | .bool false => "boolean `false`"
  | .num (.int n) => "integer `" ++ Json.Number.write (.int n) ++ "`"
  | .num (.float x) => "floating point `" ++ Json.Number.write (.float x) ++ "`"
  | .str s => "string " ++ Text.shown s
  | .arr _ => "sequence"
  | .obj _ => "map"

/-- The list of the variants that would have been read. -/
def oneOf : List String → String
  | [a] => s!"expected `{a}`"
  | [a, b] => s!"expected `{a}` or `{b}`"
  | names => "expected one of " ++ ", ".intercalate (names.map fun n => s!"`{n}`")

def message : DecodeError → String
  | .wrongType found expected => s!"invalid type: {describe found}, expected {expected}"
  | .outOfRange n expected =>
    s!"invalid value: {describe (.num (.int n))}, expected {expected}"
  | .missingField key => s!"missing field `{key}`"
  | .unknownVariant name variants => s!"unknown variant `{name}`, {oneOf variants}"
  | .notOneVariant => "invalid value: map, expected map with a single key"
  | .tooShort index record fields =>
    s!"invalid length {index}, expected struct {record} with {fields} elements"
  | .tooLong items => s!"invalid length {items}, expected fewer elements in array"
  | .unknownFieldType type name => s!"unknown schema field type '{type}' for field '{name}'"

end DecodeError

abbrev Decoder (α : Type) := Json → Except DecodeError α

namespace Decoder

def text : Decoder String
  | .str s => .ok s
  | j => .error (.wrongType j "a string")

def bool : Decoder Bool
  | .bool b => .ok b
  | j => .error (.wrongType j "a boolean")

/-- A natural number of at most `bits` bits. -/
def unsigned (bits : Nat) : Decoder Nat
  | .num (.int n) =>
    if 0 ≤ n ∧ n < Nat.pow 2 bits then .ok n.toNat else .error (.outOfRange n s!"u{bits}")
  | j => .error (.wrongType j s!"u{bits}")

/-- A floating point number; integers are rounded to one. -/
def float : Decoder Binary64
  | .num (.float x) => .ok x
  | .num (.int n) => .ok (.ofInt n)
  | j => .error (.wrongType j "f64")

def list {α : Type} (decode : Decoder α) : Decoder (List α)
  | .arr items => items.mapM decode
  | j => .error (.wrongType j "a sequence")

def dictionary {α : Type} (decode : Decoder α) : Decoder (List (String × α))
  | .obj fields => fields.mapM fun f => return (f.1, ← decode f.2)
  | j => .error (.wrongType j "a map")

def nullable {α : Type} (decode : Decoder α) : Decoder (Option α)
  | .null => .ok none
  | j => some <$> decode j

def named {α : Type} (variants : List (String × α)) (name : String) : Except DecodeError α :=
  match variants.lookup name with
  | some a => .ok a
  | none => .error (.unknownVariant name (variants.map (·.1)))

/-- A variant by its name, alone or as the only key of an object with the value `null`. -/
def variant {α : Type} (variants : List (String × α)) : Decoder α
  | .str s => named variants s
  | .obj [(name, v)] => do
    let a ← named variants name
    if v = .null then .ok a else .error (.wrongType v "unit")
  | .obj _ => .error .notOneVariant
  | j => .error (.wrongType j "string or map")

end Decoder

/-- Why a field could not be read. -/
inductive Problem where
  | fault (key : String) (e : DecodeError)
  | absent (key : String)
deriving DecidableEq, Repr

/-- The error that a fault of the given key stands for. -/
def Problem.faultOf (key : String) : Problem → Option DecodeError
  | .fault k e => if k = key then some e else none
  | .absent _ => none

/-- What reading some fields gives: their values, or one problem and more. -/
inductive Reading (α : Type) where
  | ok (value : α)
  | bad (first : Problem) (more : List Problem)

def Reading.both {α β : Type} : Reading (α → β) → Reading α → Reading β
  | .ok f, .ok a => .ok (f a)
  | .ok _, .bad p ps => .bad p ps
  | .bad p ps, .ok _ => .bad p ps
  | .bad p ps, .bad q qs => .bad p (ps ++ q :: qs)

/-- A reader of some fields of a record, in the order of their declaration. -/
structure Fields (α : Type) where
  keys : List String
  read : List (String × Json) → Reading α

namespace Fields

instance : Applicative Fields where
  pure a := ⟨[], fun _ => .ok a⟩
  seq f x :=
    ⟨f.keys ++ (x ()).keys, fun entries => (f.read entries).both ((x ()).read entries)⟩

/-- A field that may be absent, with its value then. -/
def optional {α : Type} (key : String) (absent : Reading α) (decode : Decoder α) : Fields α where
  keys := [key]
  read entries :=
    match entries.lookup key with
    | none => absent
    | some j =>
      match decode j with
      | .ok a => .ok a
      | .error e => .bad (.fault key e) []

def default {α : Type} (key : String) (value : α) (decode : Decoder α) : Fields α :=
  optional key (.ok value) decode

def required {α : Type} (key : String) (decode : Decoder α) : Fields α :=
  optional key (.bad (.absent key) []) decode

/-- A field that is none when absent or `null`. -/
def maybe {α : Type} (key : String) (decode : Decoder α) : Fields (Option α) :=
  default key none (Decoder.nullable decode)

/-- The error to report of a record that was visited in the order of its entries: the first fault,
else the first field that is absent. -/
def reported (entries : List (String × Json)) (absent : String → DecodeError) (first : Problem)
    (more : List Problem) : DecodeError :=
  match entries.findSome? fun e => (first :: more).findSome? (Problem.faultOf e.1) with
  | some e => e
  | none =>
    match first with
    | .fault _ e => e
    | .absent key => absent key

/-- A record: an object with the fields as keys, or an array of them in the order of declaration. -/
def decode {α : Type} (record : String) (fields : Fields α) : Decoder α
  | .obj entries =>
    match fields.read entries with
    | .ok a => .ok a
    | .bad p ps => .error (reported entries .missingField p ps)
  | .arr items =>
    let entries := fields.keys.zip items
    match fields.read entries with
    | .ok a =>
      if items.length ≤ fields.keys.length then .ok a else .error (.tooLong items.length)
    | .bad p ps =>
      .error (reported entries
        (fun key => .tooShort (fields.keys.idxOf key) record fields.keys.length) p ps)
  | j => .error (.wrongType j s!"struct {record}")

end Fields

end ApiGraph
