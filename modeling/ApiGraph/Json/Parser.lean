import ApiGraph.Json.Token

/-!
# JSON grammar

The grammar is a machine that takes one token at a time and keeps the open containers on a stack, so
reading ends with the tokens. `parse` reads a text into a value whose dictionaries have ascending
keys.
-/

namespace ApiGraph.Json

/-- An open container: an array with its items so far, last first, or an object with its fields so
far and the key whose value is being read. -/
inductive Frame where
  | array (items : List Json)
  | object (fields : List (String × Json)) (key : String)

/-- What may come next, inside the open containers. -/
inductive State where
  /-- A value. -/
  | value (stack : List Frame)
  /-- The first item of an array, or its end. -/
  | firstItem (stack : List Frame)
  /-- An item after a comma. -/
  | nextItem (items : List Json) (stack : List Frame)
  /-- A comma after an item, or the end of the array. -/
  | afterItem (items : List Json) (stack : List Frame)
  /-- The first key of an object, or its end. -/
  | firstKey (stack : List Frame)
  /-- A key after a comma. -/
  | nextKey (fields : List (String × Json)) (stack : List Frame)
  /-- The colon after a key. -/
  | colon (fields : List (String × Json)) (key : String) (stack : List Frame)
  /-- A comma after a field, or the end of the object. -/
  | afterField (fields : List (String × Json)) (stack : List Frame)
  /-- Nothing. -/
  | finished (v : Json)

def complete (v : Json) : List Frame → State
  | [] => .finished v
  | .array items :: stack => .afterItem (v :: items) stack
  | .object fields key :: stack => .afterField (setField key v fields) stack

/-- A fault at the first byte of a lexeme. -/
def Lexeme.fault (l : Lexeme) (fault : Fault) : Except SyntaxError State :=
  .error ⟨fault, l.source, 1⟩

/-- The state after the token that begins a value; at most `depth` containers may be open. -/
def beginValue (depth : Nat) (stack : List Frame) (l : Lexeme) : Except SyntaxError State :=
  match l.token with
  | .scalar v => .ok (complete v stack)
  | .text s => .ok (complete (.str s) stack)
  | .openBracket => if stack.length < depth then .ok (.firstItem stack) else l.fault .tooDeep
  | .openBrace => if stack.length < depth then .ok (.firstKey stack) else l.fault .tooDeep
  | .broken e => .error e
  | _ => l.fault .valueExpected

def beginKey (fields : List (String × Json)) (stack : List Frame) (l : Lexeme) :
    Except SyntaxError State :=
  match l.token with
  | .text s => .ok (.colon fields s stack)
  | .broken e => if l.source.head? = some '"' then .error e else l.fault .keyExpected
  | _ => l.fault .keyExpected

def step (depth : Nat) (state : State) (l : Lexeme) : Except SyntaxError State :=
  match state with
  | .value stack => beginValue depth stack l
  | .firstItem stack =>
    if l.token = .closeBracket then .ok (complete (.arr []) stack)
    else beginValue depth (.array [] :: stack) l
  | .nextItem items stack =>
    if l.token = .closeBracket then l.fault .trailingComma
    else beginValue depth (.array items :: stack) l
  | .afterItem items stack =>
    match l.token with
    | .comma => .ok (.nextItem items stack)
    | .closeBracket => .ok (complete (.arr items.reverse) stack)
    | _ => l.fault .listEndExpected
  | .firstKey stack =>
    if l.token = .closeBrace then .ok (complete (.obj []) stack) else beginKey [] stack l
  | .nextKey fields stack =>
    if l.token = .closeBrace then l.fault .trailingComma else beginKey fields stack l
  | .colon fields key stack =>
    if l.token = .colon then .ok (.value (.object fields key :: stack)) else l.fault .colonExpected
  | .afterField fields stack =>
    match l.token with
    | .comma => .ok (.nextKey fields stack)
    | .closeBrace => .ok (complete (.obj fields) stack)
    | _ => l.fault .objectEndExpected
  | .finished _ => l.fault .trailingCharacters

/-- The value read when the text ends in a state, or the fault of ending there. -/
def State.close : State → Except SyntaxError Json
  | .finished v => .ok v
  | .value _ | .nextItem .. | .nextKey .. => .error ⟨.endInValue, [], 0⟩
  | .firstItem _ | .afterItem .. => .error ⟨.endInList, [], 0⟩
  | .firstKey _ | .colon .. | .afterField .. => .error ⟨.endInObject, [], 0⟩

/-- The deepest nesting of containers that is read. -/
def maxDepth : Nat := 127

/-- The value that a text spells, with at most `depth` nested containers. -/
def parseWithin (depth : Nat) (source : String) : Except SyntaxError Json := do
  let state ← (tokens source.toList).foldlM (step depth) (.value [])
  state.close

def parse (source : String) : Except SyntaxError Json := parseWithin maxDepth source

end ApiGraph.Json
