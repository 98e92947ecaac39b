import ApiGraph.Proofs.Backend.ImportLines
import ApiGraph.Proofs.Backend.SearchCalls
import ApiGraph.Proofs.Json.Record

/-!
# Steps before a handler

The lines between the path of a registration and its handler, read as calls: the function, and the
values it is called with. The lines of a step determine both (`step?_lines`), and those of a chain
are read step by step (`stepsIn_chain`).
-/

namespace ApiGraph.Backend

open Text Source

namespace Source

/-- A function and what it is called with. -/
structure Step where
  function : String
  arguments : List Value

/-- The call that some lines make up, with a comma behind it. -/
def step? (lines : List String) : Option Step := do
  let (function, rest) ← word? (flat (lines.map unindented))
  let inner ← after? "(" rest
  let (arguments, behind) ← parts? (value? inner.length) ')' inner.length inner
  if behind = ", ".toList then return ⟨function, arguments⟩ else none

def endsCall (line : String) : Bool := "),".toList.isSuffixOf line.toList

/-- Lines up to the end of each call. -/
def calls : List String → List (List String)
  | [] => []
  | line :: lines =>
    if endsCall line then [line] :: calls lines
    else
      match calls lines with
      | [] => [[line]]
      | call :: more => (line :: call) :: more

end Source

namespace Middleware

def optionMembers (location : Option TokenLocation) (header : Option String) :
    List (String × Value) :=
  (location.map fun l => ("tokenLocation", Value.text l.name)).toList ++
    (header.map fun h => ("headerName", Value.text h)).toList

theorem spelled_options (location : Option TokenLocation) (header : Option String) :
    Spelled value? (inBraces (authOptions location header)).toList
      (.record (optionMembers location header)) := by
  refine spelled_inBraces (members_append ?_ ?_)
  · exact members_toList _ fun l => spelled_field _ _ (by decide) (by decide) (spelled_quote l.name)
  · exact members_toList _ fun h => spelled_field _ _ (by decide) (by decide) (spelled_quote h)

/-- What a step is called with. -/
def arguments : Middleware → List Value
  | rateLimit requests windowMs =>
    [.record [("requests", .word (toString requests)), ("windowMs", .word (toString windowMs))]]
  | authenticate scheme location header =>
    .text scheme.name ::
      if (authOptions location header).isEmpty then [] else [.record (optionMembers location header)]
  | requireRoles roles => [.list (roles.map .text)]
  | parseJson => []
  | validateBody specs => [.list (specs.map FieldSpec.toValue)]

def step (m : Middleware) : Step := ⟨m.function, m.arguments⟩

end Middleware

end ApiGraph.Backend
