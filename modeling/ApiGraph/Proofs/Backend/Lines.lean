import ApiGraph.Backend.Handler
import ApiGraph.Proofs.Text.Pieces

/-!
# Handlers, line by line

A reader that looks at one line at a time, and not at its indentation, finds in a handler what it
finds in the lines of the action (`filterMap_run`). The lines of an option begin with its key.
-/

namespace ApiGraph.Backend

section

variable {α : Type} {read? : String → Option α}

theorem filterMap_indent (deeper : ∀ line, read? ("  " ++ line) = read? line)
    (lines : List String) : (indent lines).filterMap read? = lines.filterMap read? := by
  rw [indent, List.filterMap_map]
  exact List.filterMap_congr fun line _ => deeper line

theorem filterMap_block (deeper : ∀ line, read? ("  " ++ line) = read? line) {head tail : String}
    (opens : read? (head ++ "\x7b") = none) (closes : read? ("\x7d" ++ tail) = none)
    (body : List String) :
    (block head body tail).filterMap read? = body.filterMap read? := by
  rw [block, List.cons_append, List.filterMap_cons_none opens, List.filterMap_append,
    filterMap_indent deeper, List.filterMap_cons_none closes]
  exact List.append_nil _

/-- The lines around an action that a handler runs. -/
def frame : List String :=
  ["async (req, res, next) => " ++ "\x7b", "try \x7b", "\x7d catch (err) \x7b", "next(err);",
   "\x7d", "\x7d" ++ ","]

theorem filterMap_run (deeper : ∀ line, read? ("  " ++ line) = read? line)
    (silent : ∀ line ∈ frame, read? line = none) (r : Route) (names : ModelNames) (model : String)
    (action : Action) (status : Nat) :
    ((Handler.run names model action status).lines r).filterMap read? =
      (Handler.actionLines names model status action).filterMap read? := by
  simp only [frame, List.forall_mem_cons] at silent
  obtain ⟨opens, tries, catches, passes, brace, closes, -⟩ := silent
  rw [Handler.lines, filterMap_block deeper opens closes, List.filterMap_append,
    List.filterMap_append, List.filterMap_append, List.filterMap_append, filterMap_indent deeper,
    filterMap_indent deeper, List.filterMap_cons_none tries, List.filterMap_cons_none catches,
    List.filterMap_cons_none passes, List.filterMap_cons_none brace]
  simp only [List.filterMap_nil, List.nil_append, List.append_nil]

end

/-- The text of a line behind its indentation. -/
def unindented (line : String) : List Char := line.toList.dropWhile (· == ' ')

theorem unindented_deeper (line : String) : unindented ("  " ++ line) = unindented line := by
  rw [unindented, String.toList_append]
  rfl

theorem unindented_append {start : String} {c : Char} (begins : start.toList.head? = some c)
    (visible : c ≠ ' ') (rest : String) :
    unindented (start ++ rest) = start.toList ++ rest.toList := by
  obtain ⟨cs, form⟩ := List.head?_eq_some_iff.mp begins
  rw [unindented, String.toList_append, form, List.cons_append]
  exact List.dropWhile_cons_of_neg (by simpa using visible)

/-- A line that begins with another character does not begin with a key. -/
theorem after_eq_none {key start : String} {k c : Char} (expected : key.toList.head? = some k)
    (begins : start.toList.head? = some c) (visible : c ≠ ' ') (other : c ≠ k) (rest : String) :
    Text.after? key (unindented (start ++ rest)) = none := by
  obtain ⟨cs, start_eq⟩ := List.head?_eq_some_iff.mp begins
  refine Text.after?_of_head expected ?_
  rw [unindented_append begins visible, start_eq]
  simpa using other

theorem Handler.method_plain (action : Action) :
    Text.isPlainIdent action.method.toList = true := by
  cases action <;> simp only [Action.method] <;> decide

/-- An option is written behind its key, which no call and no response begins with. -/
theorem option_begins {o : SearchOptions} {part : String} (member : part ∈ Handler.optionParts o) :
    ∃ start rest c, part = start ++ rest ∧ start.toList.head? = some c ∧
      c ≠ ' ' ∧ c ≠ 'c' ∧ c ≠ 'r' := by
  simp only [Handler.optionParts, List.mem_append, Option.mem_toList, Option.map_eq_some_iff]
    at member
  rcases member with ((filters | select) | order) | limit
  · split at filters
    · cases filters
    · exact ⟨_, _, 'f', List.mem_singleton.mp filters, by decide, by decide⟩
  · split at select
    · cases select
    · exact ⟨_, _, 's', List.mem_singleton.mp select, by decide, by decide⟩
  · obtain ⟨o, -, rfl⟩ := order
    exact ⟨_, _, 'o', rfl, by decide, by decide⟩
  · obtain ⟨n, -, rfl⟩ := limit
    exact ⟨"limit: ", toString n, 'l', rfl, by decide, by decide⟩

theorem head_unindented {start : String} {c : Char} (begins : start.toList.head? = some c)
    (visible : c ≠ ' ') (rest : String) : (unindented (start ++ rest)).head? = some c := by
  rw [unindented_append begins visible, List.head?_append, begins]
  rfl

namespace Handler

theorem head_respond (status : Nat) (value : String) :
    (unindented (respond status value)).head? = some 'r' := by
  unfold respond
  split
  · decide
  · show (unindented ("res.status(" ++ toString status ++ ").json(" ++ value ++ ");")).head? = _
    rw [String.append_assoc, String.append_assoc, String.append_assoc]
    exact head_unindented (by decide) (by decide) _

theorem head_refuse (result model : String) :
    (unindented (refuse result model)).head? = some 'i' := by
  rw [refuse, String.append_assoc, String.append_assoc, String.append_assoc]
  exact head_unindented (by decide) (by decide) _

theorem head_option {o : SearchOptions} {part : String} (member : part ∈ optionParts o) :
    (unindented (part ++ ",")).head? ≠ some 'c' := by
  obtain ⟨start, rest, c, rfl, begins, visible, other, -⟩ := option_begins member
  rw [String.append_assoc, head_unindented begins visible]
  exact fun same => other (Option.some.inj same)

end Handler

end ApiGraph.Backend
