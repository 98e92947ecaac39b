/-!
# Options

How the words of a command line are told apart: options by a long name or a letter, their values,
and operands. A value stands behind an equals sign, behind its letter or in the next word; two
dashes end the options.
-/

namespace ApiGraph.Command

/-- What an option does with the words behind it. -/
inductive OptionKind where
  | flag
  | value
  /-- Nothing behind the option is read. -/
  | final
deriving DecidableEq, Repr

structure OptionSpec where
  name : String
  letter : Option Char := none
  kind : OptionKind := .flag
  /-- Whether the option may be given more than once. -/
  repeatable : Bool := false
deriving DecidableEq, Repr

structure Given where
  spec : OptionSpec
  value : Option String := none
deriving DecidableEq, Repr

/-- What a word says: options, of which the last one may wait for its value, or an operand. -/
inductive Word where
  | operand
  | unknown
  | options (given : List Given) (awaiting : Option OptionSpec)
deriving DecidableEq, Repr

def ofLetters (specs : List OptionSpec) : List Char → Word
  | [] => .options [] none
  | c :: cs =>
    match specs.find? (·.letter == some c) with
    | none => .unknown
    | some spec =>
      match spec.kind with
      | .final => .options [⟨spec, none⟩] none
      | .value =>
        if cs.isEmpty then .options [] (some spec)
        else
          let value := if cs.head? = some '=' then cs.drop 1 else cs
          .options [⟨spec, some (String.ofList value)⟩] none
      | .flag =>
        match ofLetters specs cs with
        | .options given awaiting => .options (⟨spec, none⟩ :: given) awaiting
        | word => word

/-- The option of a long name, with a value where an equals sign follows. -/
def ofLongName (specs : List OptionSpec) (cs : List Char) : Word :=
  let name := String.ofList (cs.takeWhile (· != '='))
  let behind := cs.dropWhile (· != '=')
  match specs.find? (·.name == name) with
  | none => .unknown
  | some spec =>
    match spec.kind, behind with
    | .value, [] => .options [] (some spec)
    | .value, _ :: value => .options [⟨spec, some (String.ofList value)⟩] none
    | _, [] => .options [⟨spec, none⟩] none
    | _, _ :: _ => .unknown

def readWord (specs : List OptionSpec) (word : String) : Word :=
  match word.toList with
  | '-' :: '-' :: cs => ofLongName specs cs
  | '-' :: c :: cs => ofLetters specs (c :: cs)
  | _ => .operand

/-- Whether a word can be the value of the option before it. -/
def isValue (word : String) : Bool := word == "-" || !word.startsWith "-"

/-- The words of a command line, told apart. -/
structure Words where
  given : List Given := []
  operands : List String := []
deriving DecidableEq, Repr

/-- Tells words apart, or finds one that makes no sense. -/
def readWords (specs : List OptionSpec) : List String → Option Words
  | [] => some {}
  | word :: rest =>
    if word = "--" then some { operands := rest }
    else
      match readWord specs word with
      | .unknown => none
      | .operand => (readWords specs rest).map fun w => { w with operands := word :: w.operands }
      | .options given none =>
        (readWords specs rest).map fun w => { w with given := given ++ w.given }
      | .options given (some spec) =>
        match rest with
        | [] => none
        | value :: rest =>
          if isValue value then
            (readWords specs rest).map fun w =>
              { w with given := given ++ ⟨spec, some value⟩ :: w.given }
          else none

namespace Words

def has (w : Words) (name : String) : Bool := w.given.any (·.spec.name == name)

def value? (w : Words) (name : String) : Option String :=
  (w.given.find? (·.spec.name == name)).bind (·.value)

/-- Whether each option was given as often as it may be. -/
def countsOk (w : Words) : Bool :=
  w.given.all fun g => g.spec.repeatable || (w.given.filter (·.spec == g.spec)).length ≤ 1

end Words

end ApiGraph.Command
