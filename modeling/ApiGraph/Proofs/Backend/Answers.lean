import ApiGraph.Proofs.Backend.Lines
import ApiGraph.Proofs.Number.Digits

namespace ApiGraph.Backend

namespace Source

/-- The status that a line sends. -/
def sent? (line : String) : Option Nat := do
  let rest ← Text.after? "res.status(" (line.toList.dropWhile (· == ' '))
  let digits := rest.takeWhile Char.isDigit
  if digits = [] then none else some (Digits.value digits)

def sentStatuses (lines : List String) : List Nat := lines.filterMap sent?

theorem sentStatuses_append (a b : List String) :
    sentStatuses (a ++ b) = sentStatuses a ++ sentStatuses b := List.filterMap_append

theorem sentStatuses_cons {line : String} (silent : sent? line = none) (lines : List String) :
    sentStatuses (line :: lines) = sentStatuses lines := List.filterMap_cons_none silent

theorem sent_eq (line : String) :
    sent? line = (Text.after? "res.status(" (unindented line)).bind fun rest =>
      if rest.takeWhile Char.isDigit = [] then none
      else some (Digits.value (rest.takeWhile Char.isDigit)) := rfl

theorem sent_deeper (line : String) : sent? ("  " ++ line) = sent? line := by
  rw [sent_eq, sent_eq, unindented_deeper]

theorem sent_eq_none {start : String} {c : Char} (begins : start.toList.head? = some c)
    (visible : c ≠ ' ') (other : c ≠ 'r') (rest : String) : sent? (start ++ rest) = none := by
  rw [sent_eq, after_eq_none (k := 'r') (by decide) begins visible other]
  rfl

theorem sent_counted (n : Nat) (rest : String) :
    sent? ("res.status(" ++ (toString n ++ (")" ++ rest))) = some n := by
  have digits : (toString n).toList = Digits.ofNat n := Nat.toList_repr
  have shown : unindented ("res.status(" ++ (toString n ++ (")" ++ rest))) =
      "res.status(".toList ++ (Digits.ofNat n ++ ')' :: rest.toList) := by
    rw [unindented_append (c := 'r') (by decide) (by decide), String.toList_append,
      String.toList_append, digits]
    rfl
  have taken : (Digits.ofNat n ++ ')' :: rest.toList).takeWhile Char.isDigit = Digits.ofNat n :=
    (Text.span_append (Digits.allDigits_ofNat n) (by simp)).1
  rw [sent_eq, shown, Text.after?_append, Option.bind_some, taken,
    if_neg (Digits.ofNat_ne_nil n), Digits.value_ofNat]

end Source

namespace Handler

open Source

def status : Handler → Nat
  | stub => 501
  | run _ _ _ status => status

theorem sent_respond (status : Nat) (value : String) : sent? (respond status value) = some status := by
  unfold respond
  split
  · rename_i empty
    rw [empty]
    exact sent_counted 204 ".end();"
  · have closing : ").json(" = ")" ++ ".json(" := by decide
    show sent? ("res.status(" ++ toString status ++ ").json(" ++ value ++ ");") = _
    rw [closing, String.append_assoc, String.append_assoc, String.append_assoc,
      String.append_assoc]
    exact sent_counted status _

theorem sent_callAs (result arguments : String) (names : ModelNames) (action : Action) :
    sent? (callAs result names action arguments) = none := by
  show sent? ("const " ++ result ++ " = await " ++ names.repository ++ "." ++ action.method ++ "(" ++
    arguments) = none
  simp only [String.append_assoc]
  exact sent_eq_none (c := 'c') (by decide) (by decide) (by decide) _

theorem sent_refuse (result model : String) : sent? (refuse result model) = none := by
  rw [refuse, String.append_assoc, String.append_assoc, String.append_assoc]
  exact sent_eq_none (c := 'i') (by decide) (by decide) (by decide) _

theorem sent_option {o : SearchOptions} {part : String} (member : part ∈ optionParts o) :
    sent? (part ++ ",") = none := by
  obtain ⟨start, rest, c, rfl, begins, visible, -, other⟩ := option_begins member
  rw [String.append_assoc]
  exact sent_eq_none begins visible other _

theorem sent_actionLines (names : ModelNames) (model : String) (status : Nat) (action : Action) :
    sentStatuses (actionLines names model status action) = [status] := by
  have answer : ∀ value, sentStatuses [respond status value] = [status] := fun value => by
    rw [sentStatuses, List.filterMap_cons_some (sent_respond status value), List.filterMap_nil]
  cases action with
  | list options =>
    rw [actionLines, sentStatuses_append, answer]
    split
    · rw [sentStatuses_cons (sent_callAs ..)]
      rfl
    · have silent : sentStatuses ((optionParts options).map (· ++ ",")) = [] := by
        refine List.filterMap_eq_nil_iff.mpr fun line member => ?_
        obtain ⟨part, option, rfl⟩ := List.mem_map.mp member
        exact sent_option option
      have opens : sent? (callAs "items" names (.list options) "req, " ++ "\x7b") = none := by
        have joined : callAs "items" names (.list options) "req, " ++ "\x7b" =
            callAs "items" names (.list options) ("req, " ++ "\x7b") := String.append_assoc
        rw [joined]
        exact sent_callAs ..
      rw [sentStatuses, filterMap_block sent_deeper opens (by decide), ← sentStatuses, silent]
      rfl
  | create =>
    rw [actionLines, sentStatuses_cons (sent_callAs ..)]
    exact answer _
  | read param =>
    rw [actionLines, sentStatuses_cons (sent_callAs ..), sentStatuses_cons (sent_refuse ..)]
    exact answer _
  | update param =>
    rw [actionLines, sentStatuses_cons (sent_callAs ..), sentStatuses_cons (sent_refuse ..)]
    exact answer _
  | delete param =>
    rw [actionLines, sentStatuses_cons (sent_callAs ..), sentStatuses_cons (sent_refuse ..)]
    exact answer _

theorem sent_lines (r : Route) (h : Handler) : sentStatuses (h.lines r) = [h.status] := by
  cases h with
  | stub =>
    let operation := Text.quote (r.method.name ++ " " ++ r.path)
    have answer : sent? ("res.status(501).json(" ++
        inBraces ["error: 'Not Implemented'", "operation: " ++ operation] ++ ");") = some 501 := by
      rw [String.append_assoc]
      exact sent_counted 501 (".json(" ++ (inBraces _ ++ ");"))
    rw [lines, sentStatuses, filterMap_block sent_deeper (by decide) (by decide),
      List.filterMap_cons_some answer]
    rfl
  | run names model action status =>
    rw [sentStatuses, filterMap_run sent_deeper (by decide)]
    exact sent_actionLines names model status action

end Handler

end ApiGraph.Backend
