import ApiGraph.Proofs.Backend.Lines
import ApiGraph.Proofs.Backend.Plans

/-!
# Calls for one record

The call that addresses a record, read off the lines of a handler: the repository, its method, and
the parameter of the request that is passed. A handler has one such call where its action takes a
record, and else none (`recordCalls_lines`).
-/

namespace ApiGraph.Backend

open Text

namespace Source

/-- A parameter of the request, as code reads it. -/
inductive ParamAccess where
  /-- By a name behind a dot. -/
  | member (name : String)
  /-- By a literal in brackets. -/
  | index (name : String)
deriving DecidableEq

namespace ParamAccess

def name : ParamAccess → String
  | member name => name
  | index name => name

/-- The access that fits a name. -/
def fitting (name : String) : ParamAccess :=
  if isPlainIdent name.toList then .member name else .index name

theorem fitting_name (param : String) : (fitting param).name = param := by
  unfold fitting
  split
  · rfl
  · rfl

theorem fitting_eq_member_iff (param : String) :
    fitting param = .member param ↔ isPlainIdent param.toList = true := by
  unfold fitting
  split
  · rename_i plain
    exact iff_of_true rfl plain
  · rename_i other
    exact iff_of_false nofun other

end ParamAccess

structure RecordCall where
  repository : String
  method : String
  access : ParamAccess
deriving DecidableEq

/-- The identifier at the beginning of a text, and what follows it. -/
def identifier? (cs : List Char) : Option (String × List Char) :=
  let word := cs.takeWhile isIdentRest
  if isPlainIdent word then some (String.ofList word, cs.dropWhile isIdentRest) else none

def paramAccess? (cs : List Char) : Option ParamAccess :=
  match after? "req.params." cs with
  | some rest => (identifier? rest).map fun found => .member found.1
  | none =>
    ((after? "req.params[" cs).bind unquote?).bind fun found =>
      (after? "]" found.2).map fun _ => .index (String.ofList found.1)

/-- The call of a line that binds a record. -/
def recordCall? (line : String) : Option RecordCall := do
  let (_, rest) ← identifier? (← after? "const " (unindented line))
  let (repository, rest) ← identifier? (← after? " = await " rest)
  let (method, rest) ← identifier? (← after? "." rest)
  let access ← paramAccess? (← after? "(" rest)
  return { repository, method, access }

def recordCalls (lines : List String) : List RecordCall := lines.filterMap recordCall?

/-- An identifier is found before a key that no identifier continues with. -/
theorem identifier?_before {name : String} (plain : isPlainIdent name.toList = true) (key : String)
    (ends : key.toList.head?.any (!isIdentRest ·) = true) (rest : List Char) :
    identifier? (name.toList ++ (key.toList ++ rest)) = some (name, key.toList ++ rest) := by
  obtain ⟨c, cs, form⟩ : ∃ c cs, key.toList = c :: cs := by
    cases chars : key.toList with
    | nil => simp [chars] at ends
    | cons c cs => exact ⟨c, cs, rfl⟩
  have stops : ¬ isIdentRest c = true := by simpa [form] using ends
  obtain ⟨-, letters⟩ := identRest_of_plain plain
  obtain ⟨taken, left⟩ := span_word letters stops (cs ++ rest)
  rw [identifier?, form, List.cons_append, taken, left, if_pos plain, String.ofList_toList]

theorem paramAccess?_before {key : String} (param : String)
    (ends : key.toList.head?.any (!isIdentRest ·) = true) (rest : List Char) :
    paramAccess? ((Handler.paramAccess param).toList ++ (key.toList ++ rest)) =
      some (ParamAccess.fitting param) := by
  unfold Handler.paramAccess ParamAccess.fitting
  split
  · rename_i plain
    rw [String.toList_append, List.append_assoc, paramAccess?, after?_append]
    dsimp only
    rw [identifier?_before plain key ends, Option.map_some]
  · have bracket : ∀ cs, after? "req.params." ("req.params[".toList ++ cs) = none := fun _ => rfl
    rw [String.toList_append, String.toList_append, List.append_assoc, List.append_assoc,
      paramAccess?, bracket]
    dsimp only
    rw [after?_append, Option.bind_some, unquote_quote, Option.bind_some, after?_append,
      Option.map_some, String.ofList_toList]

theorem recordCall_deeper (line : String) : recordCall? ("  " ++ line) = recordCall? line := by
  rw [recordCall?, unindented_deeper, recordCall?]

theorem recordCall_of_head {line : String} (begins : (unindented line).head? ≠ some 'c') :
    recordCall? line = none := by
  rw [recordCall?, after?_of_head (by decide) begins]
  rfl

end Source

namespace Handler

open Source

variable {names : ModelNames}

theorem callAs_spelled (result : String) (names : ModelNames) (action : Action)
    (arguments : String) :
    callAs result names action arguments =
      "const " ++ (result ++ (" = await " ++ (names.repository ++ ("." ++ (action.method ++
        ("(" ++ arguments)))))) := by
  simp only [callAs, String.append_assoc]

theorem recordCall_callAs {result : String} (plain : isPlainIdent result.toList = true)
    (bound : isPlainIdent names.repository.toList = true) (action : Action) (arguments : String) :
    recordCall? (callAs result names action arguments) =
      (paramAccess? arguments.toList).map fun access =>
        ⟨names.repository, action.method, access⟩ := by
  rw [callAs_spelled, recordCall?, unindented_append (c := 'c') (by decide) (by decide)]
  simp only [String.toList_append, after?_append, Option.bind_eq_bind, Option.bind_some,
    identifier?_before plain " = await " (by decide),
    identifier?_before bound "." (by decide),
    identifier?_before (method_plain action) "(" (by decide)]
  cases paramAccess? arguments.toList with
  | none => rfl
  | some access => rfl

theorem recordCall_respond (status : Nat) (value : String) :
    recordCall? (respond status value) = none :=
  recordCall_of_head (by rw [head_respond]; decide)

theorem recordCall_refuse (result model : String) : recordCall? (refuse result model) = none :=
  recordCall_of_head (by rw [head_refuse]; decide)

def called? (names : ModelNames) (action : Action) : Option RecordCall :=
  action.param?.map fun param => ⟨names.repository, action.method, .fitting param⟩

/-- Three lines ask for a record, refuse its absence and answer; the first one is the call. -/
theorem recordCalls_addressed {result rest : String} (plain : isPlainIdent result.toList = true)
    (bound : isPlainIdent names.repository.toList = true) (action : Action) (param : String)
    (ends : rest.toList.head?.any (!isIdentRest ·) = true) (model value : String) (status : Nat) :
    recordCalls [callAs result names action (Handler.paramAccess param ++ rest),
        refuse result model, respond status value] =
      [⟨names.repository, action.method, .fitting param⟩] := by
  -- the reader takes a text with more behind it, and here the rest is a part of the argument
  have passed : paramAccess? (Handler.paramAccess param ++ rest).toList =
      some (.fitting param) := by
    have whole := paramAccess?_before param ends []
    rw [List.append_nil, ← String.toList_append] at whole
    exact whole
  have call := recordCall_callAs plain bound action (Handler.paramAccess param ++ rest)
  rw [passed, Option.map_some] at call
  rw [recordCalls, List.filterMap_cons_some call, List.filterMap_cons_none (recordCall_refuse ..),
    List.filterMap_cons_none (recordCall_respond ..), List.filterMap_nil]

theorem recordCalls_actionLines (bound : isPlainIdent names.repository.toList = true)
    (model : String) (status : Nat) (action : Action) :
    recordCalls (actionLines names model status action) = (called? names action).toList := by
  have passes : ∀ result arguments, isPlainIdent result.toList = true →
      paramAccess? arguments.toList = none →
      recordCall? (callAs result names action arguments) = none := by
    intro result arguments plain other
    rw [recordCall_callAs plain bound, other, Option.map_none]
  cases action with
  | list options =>
    have answer : [respond status "items"].filterMap recordCall? = [] :=
      List.filterMap_cons_none (recordCall_respond ..)
    show recordCalls (_ ++ _) = []
    rw [recordCalls, List.filterMap_append, answer, List.append_nil]
    split
    · exact List.filterMap_cons_none (passes "items" "req);" (by decide) rfl)
    · have opens : recordCall? (callAs "items" names (.list options) "req, " ++ "\x7b") = none := by
        have joined : callAs "items" names (.list options) "req, " ++ "\x7b" =
            callAs "items" names (.list options) ("req, " ++ "\x7b") := String.append_assoc
        rw [joined]
        exact passes _ _ (by decide) rfl
      rw [filterMap_block recordCall_deeper opens (by decide)]
      refine List.filterMap_eq_nil_iff.mpr fun line member => ?_
      obtain ⟨part, option, rfl⟩ := List.mem_map.mp member
      exact recordCall_of_head (head_option option)
  | create =>
    have call := passes "created" (requestBody ++ ");") (by decide) rfl
    rw [actionLines, recordCalls, List.filterMap_cons_none call,
      List.filterMap_cons_none (recordCall_respond ..)]
    rfl
  | read param =>
    exact recordCalls_addressed (by decide) bound (.read param) param (by decide) model _ status
  | update param =>
    rw [actionLines, String.append_assoc, String.append_assoc]
    exact recordCalls_addressed (by decide) bound (.update param) param (by decide) model _ status
  | delete param =>
    exact recordCalls_addressed (by decide) bound (.delete param) param (by decide) model _ status

theorem recordCalls_lines (bound : isPlainIdent names.repository.toList = true) (r : Route)
    (model : String) (status : Nat) (action : Action) :
    recordCalls ((run names model action status).lines r) = (called? names action).toList := by
  rw [recordCalls, filterMap_run recordCall_deeper (by decide)]
  exact recordCalls_actionLines bound model status action

end Handler

end ApiGraph.Backend
