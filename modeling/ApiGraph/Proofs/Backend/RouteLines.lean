import ApiGraph.Proofs.Backend.Uses

/-!
# Lines of registrations

User text stands inside of literals in the lines of middleware and handlers, so none of them ends
before its end. Only the comment above a registration may hold the end of a line
(`linesOf_registration`).
-/

namespace ApiGraph.Backend

open Text Source

namespace Source

theorem unbroken_of_plain {w : String} (plain : isPlainIdent w.toList = true) : Unbroken w :=
  unbroken_of_forall (identRest_of_plain plain).2 (by decide) (by decide)

theorem unbroken_of_numeric {w : String} (numeric : ∀ c ∈ w.toList, Numeric c) : Unbroken w :=
  unbroken_of_forall numeric (by simp [Numeric]) (by simp [Numeric])

@[simp]
theorem unbroken_repr (n : Nat) : Unbroken n.repr := unbroken_of_numeric (numeric_toString n)

theorem forall_mem_toList {α : Type} {P : String → Prop} {write : α → String} (o : Option α)
    (each : ∀ a, P (write a)) : ∀ part ∈ (o.map write).toList, P part := by
  cases o with
  | none => simp
  | some a => simpa using each a

theorem unbroken_indent {lines : List String} (each : ∀ line ∈ lines, Unbroken line) :
    ∀ line ∈ indent lines, Unbroken line := by
  refine List.forall_mem_map.mpr fun line member => ?_
  have blanks : Unbroken "  " := by decide
  exact unbroken_append.mpr ⟨blanks, each line member⟩

theorem unbroken_block {head tail : String} {body : List String} (opens : Unbroken head)
    (each : ∀ line ∈ body, Unbroken line) (closes : Unbroken tail) :
    ∀ line ∈ block head body tail, Unbroken line := by
  have brace : Unbroken "\x7b" := by decide
  have end_ : Unbroken "\x7d" := by decide
  refine List.forall_mem_cons.mpr ⟨unbroken_append.mpr ⟨opens, brace⟩, ?_⟩
  exact List.forall_mem_append.mpr ⟨unbroken_indent each,
    List.forall_mem_singleton.mpr (unbroken_append.mpr ⟨end_, closes⟩)⟩

end Source

namespace FieldSpec

theorem unbroken_limitParts (c : Constraints) : ∀ part ∈ limitParts c, Unbroken part := by
  have counted {key : String} (silent : Unbroken key) (n : Nat) : Unbroken (key ++ toString n) :=
    unbroken_append.mpr ⟨silent, unbroken_repr n⟩
  have measured {key : String} (silent : Unbroken key) (x : Binary64) :
      Unbroken (key ++ numberStyle.write x) :=
    unbroken_append.mpr ⟨silent, unbroken_of_numeric (numeric_write x)⟩
  have choices (l : List String) : Unbroken ("enum: " ++ inBrackets (l.map quote)) := by
    simp +decide
  have pattern (p : String) : Unbroken ("pattern: " ++ quote p) := by simp +decide
  simp only [limitParts, List.forall_mem_append]
  exact ⟨⟨⟨⟨⟨forall_mem_toList _ choices, forall_mem_toList _ (counted (by decide))⟩,
    forall_mem_toList _ (counted (by decide))⟩, forall_mem_toList _ (measured (by decide))⟩,
    forall_mem_toList _ (measured (by decide))⟩, forall_mem_toList _ pattern⟩

mutual

theorem unbroken_write : ∀ f : FieldSpec, Unbroken f.write
  | .mk name type required limits children => by
    have named : Unbroken ("name: " ++ quote name) := by simp +decide
    have typed : Unbroken ("type: " ++ quote type) := by simp +decide
    have needed : ∀ part ∈ if required then ["required: true"] else [], Unbroken part := by
      split <;> simp +decide
    have nested : ∀ part ∈ if children.isEmpty then []
        else ["children: " ++ inBrackets (writeAll children)], Unbroken part := by
      split
      · simp
      · have inner := unbroken_inBrackets.mpr (unbroken_writeAll children)
        simpa +decide using inner
    rw [write, unbroken_inBraces]
    simp only [List.forall_mem_append, List.forall_mem_cons]
    exact ⟨⟨⟨⟨named, typed, List.forall_mem_nil _⟩, needed⟩, unbroken_limitParts limits⟩, nested⟩

theorem unbroken_writeAll : ∀ fs : List FieldSpec, ∀ text ∈ writeAll fs, Unbroken text
  | [] => List.forall_mem_nil _
  | f :: fs => List.forall_mem_cons.mpr ⟨unbroken_write f, unbroken_writeAll fs⟩

end

end FieldSpec

theorem Middleware.unbroken_lines (m : Middleware) : ∀ line ∈ m.lines, Unbroken line := by
  cases m with
  | rateLimit requests windowMs =>
    simp only [lines, List.forall_mem_singleton]
    simp +decide
  | authenticate scheme location header =>
    have options : ∀ part ∈ authOptions location header, Unbroken part := by
      refine List.forall_mem_append.mpr ⟨forall_mem_toList _ fun l => ?_,
        forall_mem_toList _ fun h => ?_⟩
      · simp +decide
      · simp +decide
    have rest : Unbroken (if authOptions location header = [] then ""
        else ", " ++ inBraces (authOptions location header)) := by
      split
      · decide
      · simpa +decide using options
    simp only [lines, writeAuthenticate, List.forall_mem_singleton]
    simp +decide [rest]
  | requireRoles roles =>
    simp only [lines, List.forall_mem_singleton]
    simp +decide
  | parseJson => decide
  | validateBody specs =>
    have inner : ∀ line ∈ specs.map fun s => s.write ++ ",", Unbroken line := by
      refine List.forall_mem_map.mpr fun s _ => unbroken_append.mpr ⟨s.unbroken_write, by decide⟩
    simp only [lines, List.forall_mem_append, List.forall_mem_singleton]
    exact ⟨⟨by decide, unbroken_indent inner⟩, by decide⟩

namespace Handler

theorem unbroken_paramAccess (param : String) : Unbroken (paramAccess param) := by
  unfold paramAccess
  split
  · rename_i plain
    simp +decide [unbroken_of_plain plain]
  · simp +decide

theorem unbroken_optionParts (o : SearchOptions) : ∀ part ∈ optionParts o, Unbroken part := by
  have filter (f : Filter) : Unbroken (writeFilter f) := by simp +decide [writeFilter]
  have filters : ∀ part ∈ if o.filters.isEmpty then []
      else ["filters: " ++ inBrackets (o.filters.map writeFilter)], Unbroken part := by
    split
    · simp
    · simp +decide [filter]
  have select : ∀ part ∈ if o.select.isEmpty then []
      else ["select: " ++ inBrackets (o.select.map quote)], Unbroken part := by
    split <;> simp +decide
  have order (order : OrderBy) : Unbroken ("orderBy: " ++ inBraces
      ["field: " ++ quote order.field, "direction: " ++ quote order.direction.name]) := by
    simp +decide
  have limit (n : Nat) : Unbroken ("limit: " ++ toString n) :=
    unbroken_append.mpr ⟨by decide, unbroken_repr n⟩
  simp only [optionParts, List.forall_mem_append]
  exact ⟨⟨⟨filters, select⟩, forall_mem_toList _ order⟩, forall_mem_toList _ limit⟩

theorem unbroken_respond {value : String} (status : Nat) (unbroken : Unbroken value) :
    Unbroken (respond status value) := by
  unfold respond
  split
  · decide
  · show Unbroken ("res.status(" ++ toString status ++ ").json(" ++ value ++ ");")
    simp +decide [unbroken]

theorem unbroken_callAs {names : ModelNames} {result arguments : String}
    (bound : isPlainIdent names.repository.toList = true) (local_ : Unbroken result)
    (action : Action) (passed : Unbroken arguments) :
    Unbroken (callAs result names action arguments) := by
  have method := unbroken_of_plain (method_plain action)
  simp +decide [callAs, unbroken_of_plain bound, local_, method, passed]

theorem unbroken_refuse {result : String} (model : String) (local_ : Unbroken result) :
    Unbroken (refuse result model) := by
  simp +decide [refuse, local_]

theorem unbroken_actionLines {names : ModelNames}
    (bound : isPlainIdent names.repository.toList = true) (model : String) (status : Nat)
    (action : Action) : ∀ line ∈ actionLines names model status action, Unbroken line := by
  have addressed {result arguments value : String} (local_ : Unbroken result)
      (passed : Unbroken arguments) (sent : Unbroken value) :
      ∀ line ∈ [callAs result names action arguments, refuse result model, respond status value],
        Unbroken line := by
    simp [unbroken_callAs bound local_ action passed, unbroken_refuse model local_,
      unbroken_respond status sent]
  cases action with
  | list options =>
    have parts : ∀ line ∈ (optionParts options).map (· ++ ","), Unbroken line :=
      List.forall_mem_map.mpr fun part member =>
        unbroken_append.mpr ⟨unbroken_optionParts options part member, by decide⟩
    have call {arguments : String} (passed : Unbroken arguments) :=
      unbroken_callAs bound (by decide : Unbroken "items") (.list options) passed
    have answer := unbroken_respond status (by decide : Unbroken "items")
    simp only [actionLines]
    refine List.forall_mem_append.mpr ⟨?_, List.forall_mem_singleton.mpr answer⟩
    split
    · exact List.forall_mem_singleton.mpr (call (by decide))
    · exact unbroken_block (call (by decide)) parts (by decide)
  | create =>
    have call := unbroken_callAs bound (by decide : Unbroken "created") .create
      (by decide : Unbroken (requestBody ++ ");"))
    have answer := unbroken_respond status (by decide : Unbroken "created")
    simp [actionLines, call, answer]
  | read param =>
    exact addressed (by decide) (unbroken_append.mpr ⟨unbroken_paramAccess param, by decide⟩)
      (by decide)
  | update param =>
    refine addressed (by decide) ?_ (by decide)
    simp +decide [unbroken_paramAccess param]
  | delete param =>
    exact addressed (by decide) (unbroken_append.mpr ⟨unbroken_paramAccess param, by decide⟩)
      (by decide)

theorem unbroken_lines {h : Handler} (r : Route)
    (bound : ∀ names model action status, h = .run names model action status →
      isPlainIdent names.repository.toList = true) : ∀ line ∈ h.lines r, Unbroken line := by
  cases h with
  | stub =>
    refine unbroken_block (by decide) (List.forall_mem_singleton.mpr ?_) (by decide)
    simp +decide
  | run names model action status =>
    have inner := unbroken_actionLines (bound _ _ _ _ rfl) model status action
    refine unbroken_block (by decide) ?_ (by decide)
    simp only [List.forall_mem_append]
    exact ⟨⟨⟨⟨by decide, unbroken_indent inner⟩, by decide⟩, by decide⟩, by decide⟩

end Handler

namespace Registration

/-- The comment above a route ends with its line. -/
def Closes (r : Route) : Prop := IsLineComment (unlines [comment r])

theorem closes_iff (r : Route) : Closes r ↔ ∀ c ∈ (remark r).toList, ¬ IsLineEnd c := by
  rw [Closes, comment_eq, isLineComment_iff]
  exact ⟨fun whole c member ends => whole c ends member, fun whole c ends member => whole c member ends⟩

instance (r : Route) : Decidable (Closes r) :=
  have := List.decidableBAll (¬ IsLineEnd ·) (remark r).toList
  decidable_of_iff' _ (closes_iff r)

theorem linesOf_comment {r : Route} (closes : Closes r) : linesOf (comment r) = [comment r] := by
  rw [Closes, comment_eq] at closes
  rw [comment_eq, Source.linesOf_comment closes]

/-- What a registration passes on behind its path: its steps and its handler. -/
def arguments (g : Registration) : List String :=
  (Middleware.chain g.route).flatMap (·.lines) ++ g.handler.lines g.route

/-- The lines of a registration below its comment. -/
def call (router : String) (g : Registration) : List String :=
  (router ++ "." ++ g.route.method.lowercase ++ "(") ::
    indent ((quote g.route.path ++ ",") :: g.arguments) ++ [");"]

theorem lines_eq (router : String) (g : Registration) :
    g.lines router = comment g.route :: g.call router := rfl

theorem unbroken_arguments {g : Registration}
    (bound : ∀ names model action status, g.handler = .run names model action status →
      isPlainIdent names.repository.toList = true) :
    ∀ line ∈ (quote g.route.path ++ ",") :: g.arguments, Unbroken line := by
  refine List.forall_mem_cons.mpr ⟨?_, List.forall_mem_append.mpr ⟨fun line member => ?_,
    Handler.unbroken_lines g.route bound⟩⟩
  · simp +decide
  · obtain ⟨m, -, inside⟩ := List.mem_flatMap.mp member
    exact m.unbroken_lines line inside

/-- No line of a call ends before its end. -/
theorem linesOf_call {router : String} {g : Registration}
    (plain : isPlainIdent router.toList = true)
    (bound : ∀ names model action status, g.handler = .run names model action status →
      isPlainIdent names.repository.toList = true) :
    ∀ line ∈ g.call router, linesOf line = [line] := by
  have opens : linesOf (router ++ "." ++ g.route.method.lowercase ++ "(") =
      [router ++ "." ++ g.route.method.lowercase ++ "("] := by
    have method : Unbroken g.route.method.lowercase := by cases g.route.method <;> decide
    have begins : Begins (router ++ "." ++ g.route.method.lowercase ++ "(") :=
      (((begins_word plain).append _).append _).append _
    refine linesOf_of_unbroken ?_ begins.not_comment
    simp +decide [unbroken_of_plain plain, method]
  refine List.forall_mem_cons.mpr ⟨opens, List.forall_mem_append.mpr ⟨?_, by decide⟩⟩
  exact List.forall_mem_map.mpr fun line member =>
    linesOf_indented (unbroken_arguments bound line member)

theorem linesOf_lines {router : String} {g : Registration} (closes : Closes g.route)
    (plain : isPlainIdent router.toList = true)
    (bound : ∀ names model action status, g.handler = .run names model action status →
      isPlainIdent names.repository.toList = true) :
    ∀ line ∈ g.lines router, linesOf line = [line] :=
  List.forall_mem_cons.mpr ⟨linesOf_comment closes, linesOf_call plain bound⟩

end Registration

end ApiGraph.Backend
