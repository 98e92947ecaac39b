import ApiGraph.Proofs.Backend.RecordCalls

/-!
# Calls of repositories

The call that a handler makes, read off its lines: the repository, its method, and the text behind
the parenthesis. Every handler that runs has one, and the stub none (`storeCalls_lines`).
-/

namespace ApiGraph.Backend

open Text

namespace Source

structure StoreCall where
  repository : String
  method : String
  /-- What stands behind the parenthesis on the line of the call. -/
  arguments : String
deriving DecidableEq

def storeCall? (line : String) : Option StoreCall := do
  let (_, rest) ← identifier? (← after? "const " (unindented line))
  let (repository, rest) ← identifier? (← after? " = await " rest)
  let (method, rest) ← identifier? (← after? "." rest)
  let arguments ← after? "(" rest
  return { repository, method, arguments := String.ofList arguments }

def storeCalls (lines : List String) : List StoreCall := lines.filterMap storeCall?

theorem storeCall_deeper (line : String) : storeCall? ("  " ++ line) = storeCall? line := by
  rw [storeCall?, unindented_deeper, storeCall?]

theorem storeCall_of_head {line : String} (begins : (unindented line).head? ≠ some 'c') :
    storeCall? line = none := by
  rw [storeCall?, after?_of_head (by decide) begins]
  rfl

end Source

namespace Handler

open Source

variable {names : ModelNames}

/-- What stands behind the parenthesis of a call. -/
def passed : Action → String
  | .list options => if (optionParts options).isEmpty then "req);" else "req, \x7b"
  | .create => requestBody ++ ");"
  | .read param => paramAccess param ++ ");"
  | .update param => paramAccess param ++ ", " ++ requestBody ++ ");"
  | .delete param => paramAccess param ++ ");"

def storeCall (names : ModelNames) (action : Action) : StoreCall :=
  ⟨names.repository, action.method, passed action⟩

theorem storeCall_callAs {result : String} (plain : isPlainIdent result.toList = true)
    (bound : isPlainIdent names.repository.toList = true) (action : Action) (arguments : String) :
    storeCall? (callAs result names action arguments) =
      some ⟨names.repository, action.method, arguments⟩ := by
  rw [callAs_spelled, storeCall?, unindented_append (c := 'c') (by decide) (by decide)]
  simp only [String.toList_append, after?_append, Option.bind_eq_bind, Option.bind_some,
    identifier?_before plain " = await " (by decide), identifier?_before bound "." (by decide),
    identifier?_before (method_plain action) "(" (by decide), String.ofList_toList, Option.pure_def]

theorem storeCalls_respond (status : Nat) (value : String) :
    storeCalls [respond status value] = [] :=
  List.filterMap_cons_none (storeCall_of_head (by rw [head_respond]; decide))

/-- A call that is refused where it finds nothing. -/
theorem storeCalls_addressed {result : String} (plain : isPlainIdent result.toList = true)
    (bound : isPlainIdent names.repository.toList = true) (action : Action)
    (arguments model value : String) (status : Nat) :
    storeCalls [callAs result names action arguments, refuse result model, respond status value] =
      [⟨names.repository, action.method, arguments⟩] := by
  have refused : storeCall? (refuse result model) = none :=
    storeCall_of_head (by rw [head_refuse]; decide)
  rw [storeCalls, List.filterMap_cons_some (storeCall_callAs plain bound action arguments),
    List.filterMap_cons_none refused, ← storeCalls, storeCalls_respond]

theorem storeCalls_actionLines (bound : isPlainIdent names.repository.toList = true)
    (model : String) (status : Nat) (action : Action) :
    storeCalls (actionLines names model status action) = [storeCall names action] := by
  cases action with
  | list options =>
    have call := storeCall_callAs (by decide : isPlainIdent "items".toList = true) bound
      (.list options)
    rw [actionLines, storeCalls, List.filterMap_append, ← storeCalls, ← storeCalls,
      storeCalls_respond, List.append_nil, storeCall, passed]
    split
    · exact List.filterMap_cons_some (call "req);")
    · have head : callAs "items" names (.list options) "req, " ++ "\x7b" =
          callAs "items" names (.list options) "req, \x7b" := by
        have opens : "req, \x7b" = "req, " ++ "\x7b" := by decide
        rw [callAs, callAs, opens, String.append_assoc]
      have options : storeCalls (indent ((optionParts options).map (· ++ ","))) = [] := by
        rw [storeCalls, filterMap_indent storeCall_deeper]
        refine List.filterMap_eq_nil_iff.mpr (List.forall_mem_map.mpr fun part option => ?_)
        exact storeCall_of_head (head_option option)
      have closes : storeCalls ["\x7d" ++ ");"] = [] := by decide
      rw [block, head, List.cons_append, storeCalls, List.filterMap_cons_some (call _),
        List.filterMap_append, ← storeCalls, ← storeCalls, options, closes]
      rfl
  | create =>
    rw [actionLines, storeCalls, List.filterMap_cons_some (storeCall_callAs (by decide) bound _ _),
      ← storeCalls, storeCalls_respond]
    rfl
  | read param => exact storeCalls_addressed (by decide) bound (.read param) _ model _ status
  | update param => exact storeCalls_addressed (by decide) bound (.update param) _ model _ status
  | delete param => exact storeCalls_addressed (by decide) bound (.delete param) _ model _ status

theorem storeCalls_lines (bound : isPlainIdent names.repository.toList = true) (r : Route)
    (model : String) (status : Nat) (action : Action) :
    storeCalls ((run names model action status).lines r) = [storeCall names action] := by
  rw [storeCalls, filterMap_run storeCall_deeper (by decide)]
  exact storeCalls_actionLines bound model status action

theorem storeCalls_stub (r : Route) : storeCalls (stub.lines r) = [] := by
  have answer (rest : String) : storeCall? ("res.status(501).json(" ++ rest) = none := by
    refine storeCall_of_head ?_
    rw [head_unindented (c := 'r') (by decide) (by decide)]
    decide
  rw [lines, storeCalls, filterMap_block storeCall_deeper (by decide) (by decide),
    String.append_assoc, List.filterMap_cons_none (answer _), List.filterMap_nil]

end Handler

end ApiGraph.Backend
