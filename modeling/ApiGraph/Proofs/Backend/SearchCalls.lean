import ApiGraph.Proofs.Backend.RecordCalls
import ApiGraph.Proofs.Backend.Specs
import ApiGraph.Proofs.Json.Record

/-!
# Calls for many records

The call that searches records, read off the lines of a handler: the repository, and the options as
the object literal that is passed. A handler has one such call where its action is a search, and
else none (`searchCalls_lines`).
-/

namespace ApiGraph.Backend

open Text

namespace Source

def text? : Value → Option String
  | .text s => some s
  | _ => none

def count? : Value → Option Nat
  | .word w => if Digits.isNumeral w.toList then some (Digits.value w.toList) else none
  | _ => none

section

variable {α : Type}

/-- The one of some values that a text names. -/
def named? (name : α → String) (all : List α) (v : Value) : Option α :=
  (text? v).bind fun s => all.find? (name · == s)

def items? (item? : Value → Option α) : Value → Option (List α)
  | .list vs => vs.mapM item?
  | _ => none

/-- What a member says, or what its absence means. -/
def memberOr (absent : α) (value? : Value → Option α) : Option Value → Option α
  | none => some absent
  | some v => value? v

end

def filter? (v : Value) : Option Filter := do
  let field ← (v.member? "field").bind text?
  let comparison ← (v.member? "operator").bind (named? Comparison.name Comparison.all)
  let value ← (v.member? "value").bind text?
  let source ← (v.member? "source").bind (named? ValueSource.name ValueSource.all)
  return { field, comparison, value, source }

def orderBy? (v : Value) : Option OrderBy := do
  let field ← (v.member? "field").bind text?
  let direction ← (v.member? "direction").bind (named? Direction.name [.asc, .desc])
  return { field, direction }

def searchOptions? (members : List (String × Value)) : Option SearchOptions := do
  let filters ← memberOr [] (items? filter?) (members.lookup "filters")
  let select ← memberOr [] (items? text?) (members.lookup "select")
  let orderBy ← memberOr none (fun v => (orderBy? v).map some) (members.lookup "orderBy")
  let limit ← memberOr none (fun v => (count? v).map some) (members.lookup "limit")
  return { filters, select, orderBy, limit }

structure SearchCall where
  repository : String
  options : SearchOptions
deriving DecidableEq

/-- The argument behind the request, up to the end of the call. -/
def searchArgument? (cs : List Char) : Option SearchOptions :=
  match after? ");" cs with
  | some _ => some {}
  | none => do
    let (v, rest) ← value? cs.length (← after? ", " cs)
    match v, after? ");" rest with
    | .record members, some _ => searchOptions? members
    | _, _ => none

def searchCall? (cs : List Char) : Option SearchCall := do
  let (_, rest) ← identifier? (← after? "const " cs)
  let (repository, rest) ← identifier? (← after? " = await " rest)
  (searchArgument? (← after? ".findMany(req" rest)).map fun options => { repository, options }

/-- The text of lines behind their indentation. A line ends as if a blank followed. -/
def flat (lines : List (List Char)) : List Char := lines.flatMap (· ++ [' '])

/-- The calls that begin with one of the lines. -/
def callsFrom (lines : List (List Char)) : List SearchCall :=
  lines.tails.filterMap fun rest => searchCall? (flat rest)

def searchCalls (lines : List String) : List SearchCall := callsFrom (lines.map unindented)

theorem map_unindented_indent (lines : List String) :
    (indent lines).map unindented = lines.map unindented := by
  rw [indent, List.map_map]
  exact List.map_congr_left fun line _ => unindented_deeper line

theorem flat_cons (line : List Char) (rest : List (List Char)) :
    flat (line :: rest) = line ++ ' ' :: flat rest := by
  rw [flat, List.flatMap_cons, List.append_assoc]
  rfl

theorem flat_append (a b : List (List Char)) : flat (a ++ b) = flat a ++ flat b :=
  List.flatMap_append

/-- Texts on lines of their own, with a comma behind each. -/
theorem flat_ended {texts : List String}
    (begin : ∀ text ∈ texts, ∃ c, text.toList.head? = some c ∧ c ≠ ' ') :
    flat ((indent (texts.map (· ++ ","))).map unindented) =
      texts.flatMap fun text => text.toList ++ [',', ' '] := by
  rw [map_unindented_indent, List.map_map, flat, List.flatMap_map]
  refine List.flatMap_congr fun text member => ?_
  obtain ⟨c, first, visible⟩ := begin text member
  show unindented (text ++ ",") ++ [' '] = _
  rw [unindented_append first visible, List.append_assoc]
  rfl

theorem callsFrom_cons (line : List Char) (rest : List (List Char)) :
    callsFrom (line :: rest) =
      (searchCall? (flat (line :: rest))).toList ++ callsFrom rest := by
  rw [callsFrom, List.tails, List.filterMap_cons]
  split
  · rename_i none
    rw [none]
    rfl
  · rename_i call found
    rw [found]
    rfl

/-- No call begins with the line. -/
def Silent (line : String) : Prop := ∀ rest, searchCall? (flat (unindented line :: rest)) = none

theorem callsFrom_silent {lines : List String} (silent : ∀ line ∈ lines, Silent line)
    (rest : List (List Char)) : callsFrom (lines.map unindented ++ rest) = callsFrom rest := by
  induction lines with
  | nil => rfl
  | cons line lines ih =>
    rw [List.map_cons, List.cons_append, callsFrom_cons, silent line List.mem_cons_self]
    exact ih fun other member => silent other (List.mem_cons_of_mem _ member)

theorem searchCalls_silent {lines : List String} (silent : ∀ line ∈ lines, Silent line) :
    searchCalls lines = [] := by
  have none := callsFrom_silent silent []
  rwa [List.append_nil] at none

/-- The first of some lines begins a call, and the others begin none. -/
theorem callsFrom_first {line : String} {lines : List String} {rest : List (List Char)}
    {call : SearchCall}
    (begins : searchCall? (flat ((line :: lines).map unindented ++ rest)) = some call)
    (silent : ∀ other ∈ lines, Silent other) :
    callsFrom ((line :: lines).map unindented ++ rest) = call :: callsFrom rest := by
  rw [List.map_cons, List.cons_append] at begins ⊢
  rw [callsFrom_cons, begins, callsFrom_silent silent]
  rfl

theorem silent_of_head (line : String) (begins : (unindented line).head? ≠ some 'c') :
    Silent line := by
  intro rest
  have none : after? "const " (flat (unindented line :: rest)) = none := by
    rw [flat_cons]
    cases form : unindented line with
    | nil => rfl
    | cons c cs =>
      have other : c ≠ 'c' := by simpa [form] using begins
      show List.dropPrefix? (c :: _) ('c' :: _) = none
      rw [List.dropPrefix?, beq_eq_false_iff_ne.mpr other]
      rfl
  rw [searchCall?, none]
  rfl

theorem silent_deeper {line : String} (silent : Silent line) : Silent ("  " ++ line) := by
  intro rest
  rw [unindented_deeper]
  exact silent rest

theorem silent_indent {lines : List String} (silent : ∀ line ∈ lines, Silent line) :
    ∀ line ∈ indent lines, Silent line :=
  List.forall_mem_map.mpr fun line member => silent_deeper (silent line member)

end Source

/-! ### Options read back -/

namespace SearchOptions

def filterMembers (f : Filter) : List (String × Value) :=
  [("field", .text f.field), ("operator", .text f.comparison.name), ("value", .text f.value),
   ("source", .text f.source.name)]

def orderMembers (o : OrderBy) : List (String × Value) :=
  [("field", .text o.field), ("direction", .text o.direction.name)]

def members (o : SearchOptions) : List (String × Value) :=
  (if o.filters.isEmpty then []
    else [("filters", .list (o.filters.map fun f => .record (filterMembers f)))]) ++
    (if o.select.isEmpty then [] else [("select", .list (o.select.map .text))]) ++
    (o.orderBy.map fun order => ("orderBy", Value.record (orderMembers order))).toList ++
    (o.limit.map fun n => ("limit", Value.word (toString n))).toList

open Source

theorem filter?_filterMembers (f : Filter) : filter? (.record (filterMembers f)) = some f := by
  obtain ⟨field, comparison, value, source⟩ := f
  have comparisons : ∀ c : Comparison,
      named? Comparison.name Comparison.all (.text c.name) = some c := by
    intro c
    cases c <;> decide
  have sources : ∀ s : ValueSource,
      named? ValueSource.name ValueSource.all (.text s.name) = some s := by
    intro s
    cases s <;> decide
  simp [filter?, filterMembers, Value.member?, Json.lookup_cons_eq, text?, comparisons, sources]

theorem orderBy?_orderMembers (o : OrderBy) : orderBy? (.record (orderMembers o)) = some o := by
  obtain ⟨field, direction⟩ := o
  have directions : ∀ d : Direction,
      named? Direction.name [.asc, .desc] (.text d.name) = some d := by
    intro d
    cases d <;> decide
  simp [orderBy?, orderMembers, Value.member?, Json.lookup_cons_eq, text?, directions]

theorem count?_toString (n : Nat) : count? (.word (toString n)) = some n := by
  have digits : (toString n).toList = Digits.ofNat n := Nat.toList_repr
  have numeral : Digits.isNumeral (Digits.ofNat n) = true :=
    Numeral.isNumeral_iff.mpr ⟨Digits.ofNat_ne_nil n, Digits.allDigits_ofNat n⟩
  rw [count?, digits, if_pos numeral, Digits.value_ofNat]

theorem items?_map {α : Type} {item? : Value → Option α} {write : α → Value} {l : List α}
    (each : ∀ a ∈ l, item? (write a) = some a) : items? item? (.list (l.map write)) = some l := by
  induction l with
  | nil => rfl
  | cons a l ih =>
    have rest := ih fun b member => each b (List.mem_cons_of_mem _ member)
    rw [items?] at rest ⊢
    rw [List.map_cons, List.mapM_cons, each a List.mem_cons_self, rest]
    rfl

theorem lookup_unless (absent : Bool) (key k : String) (v : Value) :
    (if absent then [] else [(k, v)]).lookup key =
      if key = k then if absent then none else some v else none := by
  cases absent with
  | true => simp
  | false => exact Json.lookup_cons_eq ..

/-- A list of options is left out where it is empty. -/
theorem memberOr_items {α : Type} (item? : Value → Option α) (write : α → Value) (l : List α)
    (each : ∀ a, item? (write a) = some a) :
    memberOr [] (items? item?) (if l.isEmpty then none else some (.list (l.map write))) =
      some l := by
  cases l with
  | nil => rfl
  | cons a l => exact items?_map fun b _ => each b

theorem memberOr_map {α : Type} (value? : Value → Option α) (write : α → Value) (o : Option α)
    (each : ∀ a, value? (write a) = some a) :
    memberOr none (fun v => (value? v).map some) (o.map write) = some o := by
  cases o with
  | none => rfl
  | some a =>
    show (value? (write a)).map some = _
    rw [each a, Option.map_some]

/-- What the members of options say under a key. -/
theorem lookup_members (o : SearchOptions) (key : String) :
    o.members.lookup key =
      (((if key = "filters" then if o.filters.isEmpty then none
          else some (.list (o.filters.map fun f => .record (filterMembers f))) else none).or
        (if key = "select" then if o.select.isEmpty then none
          else some (.list (o.select.map .text)) else none)).or
        (if key = "orderBy" then o.orderBy.map fun order => .record (orderMembers order)
          else none)).or
        (if key = "limit" then o.limit.map fun n => .word (toString n) else none) := by
  rw [members, List.lookup_append, List.lookup_append, List.lookup_append, lookup_unless,
    lookup_unless, Json.lookup_option, Json.lookup_option]

theorem searchOptions?_members (o : SearchOptions) : searchOptions? o.members = some o := by
  have filters := memberOr_items _ _ o.filters filter?_filterMembers
  have select := memberOr_items text? .text o.select fun _ => rfl
  have orderBy := memberOr_map _ _ o.orderBy orderBy?_orderMembers
  have limit := memberOr_map _ _ o.limit count?_toString
  simp only [searchOptions?, lookup_members, String.reduceEq, if_true, if_false, filters, select,
    orderBy, limit, Option.or_none, Option.none_or, Option.pure_def, Option.bind_eq_bind,
    Option.bind_some]

theorem spelled_writeFilter (f : Filter) :
    Spelled value? (Handler.writeFilter f).toList (.record (filterMembers f)) := by
  have text (key front : String) (opens : front = key ++ ": ")
      (plain : isPlainIdent key.toList = true) (s : String) :
      Spelled (fun n => Text.field? (value? n)) (front ++ quote s).toList (key, .text s) :=
    spelled_field key front opens plain (spelled_quote s)
  exact spelled_inBraces (.cons (text _ _ (by decide) (by decide) _)
    (.cons (text _ _ (by decide) (by decide) _) (.cons (text _ _ (by decide) (by decide) _)
      (.cons (text _ _ (by decide) (by decide) _) .nil))))

theorem spelled_order (o : OrderBy) :
    Spelled value? (inBraces ["field: " ++ quote o.field,
      "direction: " ++ quote o.direction.name]).toList (.record (orderMembers o)) :=
  spelled_inBraces (.cons (spelled_field _ _ (by decide) (by decide) (spelled_quote _))
    (.cons (spelled_field _ _ (by decide) (by decide) (spelled_quote _)) .nil))

theorem members_unless {absent : Bool} {key front text : String} {v : Value}
    (opens : front = key ++ ": ") (plain : isPlainIdent key.toList = true)
    (spelled : Spelled value? text.toList v) :
    Members (if absent then [] else [front ++ text]) (if absent then [] else [(key, v)]) := by
  cases absent with
  | true => exact .nil
  | false => exact .cons (spelled_field key front opens plain spelled) .nil

theorem members_optionParts (o : SearchOptions) : Members (Handler.optionParts o) o.members := by
  have filters : Spelled value? (inBrackets (o.filters.map Handler.writeFilter)).toList
      (.list (o.filters.map fun f => .record (filterMembers f))) := by
    refine spelled_inBrackets ?_
    rw [List.forall₂_map_left_iff, List.forall₂_map_right_iff, List.forall₂_same]
    exact fun f _ => spelled_writeFilter f
  have order := members_toList o.orderBy fun order =>
    spelled_field "orderBy" "orderBy: " (by decide) (by decide) (spelled_order order)
  have limit := members_toList o.limit fun n =>
    spelled_field "limit" "limit: " (by decide) (by decide) (FieldSpec.spelled_nat n)
  exact members_append (members_append (members_append
    (members_unless (by decide) (by decide) filters)
    (members_unless (by decide) (by decide) (FieldSpec.spelled_texts o.select))) order) limit

end SearchOptions

/-! ### Handlers -/

namespace Source

/-- The argument is what stands between the braces. -/
theorem searchArgument?_ended {texts : List String} {members : List (String × Value)}
    (each : Members texts members) (rest : List Char) :
    searchArgument? (", ".toList ++ '\x7b' :: ' ' ::
      ((texts.flatMap fun text => text.toList ++ [',', ' ']) ++ '\x7d' :: (");".toList ++ rest))) =
      searchOptions? members := by
  generalize argument : ", ".toList ++ '\x7b' :: ' ' ::
    ((texts.flatMap fun text => text.toList ++ [',', ' ']) ++ '\x7d' :: (");".toList ++ rest)) = cs
  have closed : after? ");" cs = none := by rw [← argument]; rfl
  have opened : after? ", " cs = some ('\x7b' :: ' ' ::
      ((texts.flatMap fun text => text.toList ++ [',', ' ']) ++
        '\x7d' :: (");".toList ++ rest))) := by
    rw [← argument, after?_append]
  obtain ⟨n, size⟩ : ∃ n, cs.length = n + 1 := ⟨cs.length - 1, by rw [← argument]; simp⟩
  -- the parts are read under the length of the whole argument, which is more than theirs
  have enough : (texts.flatMap fun text => text.toList ++ [',', ' ']).length < n := by
    rw [← argument] at size
    simp only [List.length_append, List.length_cons] at size ⊢
    omega
  have read : parts? (Text.field? (value? n)) '\x7d' n
      ((texts.flatMap fun text => text.toList ++ [',', ' ']) ++ '\x7d' :: (");".toList ++ rest)) =
      some (members, ");".toList ++ rest) := parts?_ended each (by decide) enough enough
  rw [searchArgument?, closed, opened, size]
  simp only [value?, parts?_blank, read, Option.map_some, Option.bind_eq_bind, Option.bind_some,
    after?_append]

end Source

namespace Handler

open Source

variable {names : ModelNames}

theorem silent_respond (status : Nat) (value : String) : Silent (respond status value) :=
  silent_of_head _ (by rw [head_respond]; decide)

theorem silent_refuse (result model : String) : Silent (refuse result model) :=
  silent_of_head _ (by rw [head_refuse]; decide)

theorem searchCall?_callAs {result : String} (plain : isPlainIdent result.toList = true)
    (bound : isPlainIdent names.repository.toList = true) (action : Action) (arguments : String)
    (rest : List Char) :
    searchCall? (unindented (callAs result names action arguments) ++ rest) =
      (after? ".findMany(req" (".".toList ++ (action.method.toList ++ ("(".toList ++
        (arguments.toList ++ rest))))).bind fun more =>
          (searchArgument? more).map fun options => ⟨names.repository, options⟩ := by
  rw [callAs_spelled, searchCall?, unindented_append (c := 'c') (by decide) (by decide)]
  simp only [String.toList_append, List.append_assoc, after?_append, Option.bind_eq_bind,
    Option.bind_some, identifier?_before plain " = await " (by decide),
    identifier?_before bound "." (by decide)]

def searched? (names : ModelNames) : Action → Option SearchCall
  | .list options => some ⟨names.repository, options⟩
  | _ => none

theorem silent_callAs {result : String} (plain : isPlainIdent result.toList = true)
    (bound : isPlainIdent names.repository.toList = true) {action : Action}
    (other : searched? names action = none) (arguments : String) :
    Silent (callAs result names action arguments) := by
  intro rest
  rw [flat_cons, searchCall?_callAs plain bound]
  have differs : after? ".findMany(req" (".".toList ++ (action.method.toList ++ ("(".toList ++
      (arguments.toList ++ ' ' :: flat rest)))) = none := by
    cases action with
    | list options => cases other
    | create | read | update | delete =>
      simp only [Action.method]
      rfl
  rw [differs, Option.bind_none]

theorem searchCall?_search (bound : isPlainIdent names.repository.toList = true)
    (o : SearchOptions) (passed : String) (rest : List Char) :
    searchCall? (unindented (callAs "items" names (.list o) ("req" ++ passed)) ++ rest) =
      (searchArgument? (passed.toList ++ rest)).map fun options => ⟨names.repository, options⟩ := by
  have method (more : List Char) : ".".toList ++ ((Action.list o).method.toList ++ ("(".toList ++
      ("req".toList ++ more))) = ".findMany(req".toList ++ more := by
    simp only [Action.method]
    rfl
  rw [searchCall?_callAs (by decide) bound, String.toList_append, List.append_assoc, method,
    after?_append, Option.bind_some]

theorem searchCall?_plain (bound : isPlainIdent names.repository.toList = true)
    (o : SearchOptions) (rest : List (List Char)) :
    searchCall? (flat (unindented (callAs "items" names (.list o) "req);") :: rest)) =
      some ⟨names.repository, {}⟩ := by
  have arguments : "req);" = "req" ++ ");" := by decide
  rw [flat_cons, arguments, searchCall?_search bound, searchArgument?, after?_append]
  rfl

/-- The lines of options, one behind the other. -/
theorem flat_options (o : SearchOptions) :
    flat ((indent ((optionParts o).map (· ++ ","))).map unindented) =
      (optionParts o).flatMap fun part => part.toList ++ [',', ' '] := by
  refine flat_ended fun part member => ?_
  obtain ⟨start, text, c, rfl, begins, visible, -⟩ := option_begins member
  refine ⟨c, ?_, visible⟩
  rw [String.toList_append, List.head?_append, begins]
  rfl

theorem searchCall?_options (bound : isPlainIdent names.repository.toList = true)
    (o : SearchOptions) (rest : List (List Char)) :
    searchCall? (flat ((block (callAs "items" names (.list o) "req, ")
        ((optionParts o).map (· ++ ",")) ");").map unindented ++ rest)) =
      some ⟨names.repository, o⟩ := by
  have opens : callAs "items" names (.list o) "req, " ++ "\x7b" =
      callAs "items" names (.list o) ("req" ++ ", \x7b") := String.append_assoc
  have argument (more : List Char) : ", \x7b".toList ++ ' ' :: more =
      ", ".toList ++ '\x7b' :: ' ' :: more := rfl
  have closes : unindented ("\x7d" ++ ");") = '\x7d' :: ");".toList := by decide
  rw [block, opens, List.map_append, List.map_cons, List.cons_append, List.cons_append, flat_cons,
    searchCall?_search bound, argument, flat_append, flat_append, flat_options,
    List.map_singleton, closes, flat, List.flatMap_singleton, List.append_assoc,
    List.append_assoc, List.cons_append, searchArgument?_ended o.members_optionParts,
    o.searchOptions?_members, Option.map_some]

theorem eq_default_of_isEmpty {o : SearchOptions} (empty : (optionParts o).isEmpty = true) :
    o = {} := by
  have none : o.members = [] := by
    have each := o.members_optionParts
    rw [List.isEmpty_iff.mp empty] at each
    exact List.forall₂_nil_left_iff.mp each
  have read := o.searchOptions?_members
  rw [none] at read
  exact (Option.some.inj read).symm

theorem silent_addressed {result : String} (plain : isPlainIdent result.toList = true)
    (bound : isPlainIdent names.repository.toList = true) {action : Action}
    (other : searched? names action = none) (arguments model value : String) (status : Nat) :
    ∀ line ∈ [callAs result names action arguments, refuse result model, respond status value],
      Silent line := by
  simp [silent_callAs plain bound other, silent_refuse, silent_respond]

/-- The lines of an action begin its search, and no other. Only the line of a call begins as one. -/
theorem callsFrom_actionLines (bound : isPlainIdent names.repository.toList = true)
    (model : String) (status : Nat) (action : Action) (rest : List (List Char)) :
    callsFrom ((actionLines names model status action).map unindented ++ rest) =
      (searched? names action).toList ++ callsFrom rest := by
  cases action with
  | list o =>
    have answers : ∀ line ∈ [respond status "items"], Silent line := by simp [silent_respond]
    rw [actionLines]
    split
    · rename_i none
      have call := searchCall?_plain bound o ([respond status "items"].map unindented ++ rest)
      have whole : callsFrom ([callAs "items" names (.list o) "req);",
          respond status "items"].map unindented ++ rest) = _ := callsFrom_first call answers
      rw [← eq_default_of_isEmpty none] at whole
      exact whole
    · have call := searchCall?_options bound o ([respond status "items"].map unindented ++ rest)
      rw [← List.append_assoc, ← List.map_append] at call
      have closes : ∀ line ∈ ["\x7d" ++ ");"], Silent line := by
        simpa using silent_of_head ("\x7d" ++ ");") (by decide)
      have options : ∀ line ∈ indent ((optionParts o).map (· ++ ",")), Silent line :=
        silent_indent (List.forall_mem_map.mpr fun _ option => silent_of_head _ (head_option option))
      exact callsFrom_first call
        (List.forall_mem_append.mpr ⟨List.forall_mem_append.mpr ⟨options, closes⟩, answers⟩)
  | create =>
    refine callsFrom_silent ?_ rest
    rw [actionLines, List.forall_mem_cons]
    exact ⟨silent_callAs (by decide) bound rfl _, by simp [silent_respond]⟩
  | read param =>
    exact callsFrom_silent (silent_addressed (by decide) bound rfl _ _ _ _) rest
  | update param =>
    exact callsFrom_silent (silent_addressed (by decide) bound rfl _ _ _ _) rest
  | delete param =>
    exact callsFrom_silent (silent_addressed (by decide) bound rfl _ _ _ _) rest

theorem searchCalls_lines (bound : isPlainIdent names.repository.toList = true) (r : Route)
    (model : String) (action : Action) (status : Nat) :
    searchCalls ((run names model action status).lines r) = (searched? names action).toList := by
  have silent : ∀ line ∈ frame, Silent line := by
    have begins : ∀ line ∈ frame, (unindented line).head? ≠ some 'c' := by decide
    exact fun line member => silent_of_head line (begins line member)
  have whole : ((run names model action status).lines r).map unindented =
      (frame.take 2).map unindented ++ ((actionLines names model status action).map unindented ++
        (frame.drop 2).map unindented) := by
    simp [lines, block, map_unindented_indent, frame]
  have opens : ∀ line ∈ frame.take 2, Silent line :=
    fun line member => silent line (List.mem_of_mem_take member)
  have closes : ∀ line ∈ frame.drop 2, Silent line :=
    fun line member => silent line (List.mem_of_mem_drop member)
  rw [searchCalls, whole, callsFrom_silent opens, callsFrom_actionLines bound, ← searchCalls,
    searchCalls_silent closes, List.append_nil]

theorem searchCalls_stub (r : Route) : searchCalls (stub.lines r) = [] := by
  have answer (rest : String) : ∀ line ∈ ["res.status(501).json(" ++ rest], Silent line := by
    refine List.forall_mem_singleton.mpr (silent_of_head _ ?_)
    rw [head_unindented (c := 'r') (by decide) (by decide)]
    decide
  have opens : ∀ line ∈ ["(_req, res) => " ++ "\x7b"], Silent line := by
    simpa using silent_of_head ("(_req, res) => " ++ "\x7b") (by decide)
  have closes : ∀ line ∈ ["\x7d" ++ ","], Silent line := by
    simpa using silent_of_head ("\x7d" ++ ",") (by decide)
  have silent : ∀ line ∈ stub.lines r, Silent line := by
    rw [lines, String.append_assoc]
    exact List.forall_mem_append.mpr
      ⟨List.forall_mem_append.mpr ⟨opens, silent_indent (answer _)⟩, closes⟩
  exact searchCalls_silent silent

end Handler

end ApiGraph.Backend
