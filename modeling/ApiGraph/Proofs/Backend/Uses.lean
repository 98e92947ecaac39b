import ApiGraph.Backend.Router
import ApiGraph.Proofs.Backend.Lines
import ApiGraph.Proofs.Backend.Names
import ApiGraph.Proofs.Backend.References
import ApiGraph.Proofs.Number.Digits

namespace ApiGraph.Backend

open Text Source

namespace Source

/-- Lines that are complete each, with their references. -/
def Code (lines : List String) (rs : List Reference) : Prop :=
  (∀ line ∈ lines, Reading.code.after line.toList = .code) ∧
    lines.flatMap (fun line => Reading.code.collect line.toList) = rs

variable {line : String} {lines more : List String} {rs qs : List Reference}

theorem code_nil : Code [] [] := ⟨fun _ member => absurd member List.not_mem_nil, rfl⟩

theorem code_cons (first : Reads line rs) (rest : Code lines qs) : Code (line :: lines) (rs ++ qs) :=
  ⟨List.forall_mem_cons.mpr ⟨first.1, rest.1⟩, by rw [List.flatMap_cons, first.2, rest.2]⟩

theorem code_one (reads : Reads line rs) : Code [line] rs := by
  have one := code_cons reads code_nil
  rw [List.append_nil] at one
  exact one

theorem Code.append (left : Code lines rs) (right : Code more qs) :
    Code (lines ++ more) (rs ++ qs) :=
  ⟨fun line member => (List.mem_append.mp member).elim (left.1 line) (right.1 line),
    by rw [List.flatMap_append, left.2, right.2]⟩

theorem code_of_silent (each : ∀ line ∈ lines, Reads line []) : Code lines [] :=
  ⟨fun line member => (each line member).1,
    List.flatMap_eq_nil_iff.mpr fun line member => (each line member).2⟩

theorem Code.reads (code : Code lines rs) {line : String} (member : line ∈ lines) :
    Reads line (Reading.code.collect line.toList) := ⟨code.1 line member, rfl⟩

theorem Code.indent (code : Code lines rs) : Code (indent lines) rs := by
  have blanks : Reads "  " [] := by decide
  constructor
  · intro line member
    obtain ⟨inner, present, rfl⟩ := List.mem_map.mp member
    exact (blanks.append (code.reads present)).1
  · rw [Backend.indent, List.flatMap_map, ← code.2]
    exact List.flatMap_congr fun inner present => (blanks.append (code.reads present)).2

theorem Code.block {head tail : String} (code : Code lines rs) (opens : Reads (head ++ "\x7b") qs)
    (closes : Reads ("\x7d" ++ tail) []) : Code (block head lines tail) (qs ++ rs) := by
  have whole := code_cons opens (code.indent.append (code_one closes))
  rw [List.append_nil] at whole
  exact whole

theorem references_of_code (code : Code lines rs) (begin : ∀ line ∈ lines, Begins line) :
    lines.flatMap references = rs := by
  rw [← code.2]
  exact List.flatMap_congr fun line member =>
    references_of_reads (code.reads member) (begin line member)

theorem begins_indent : ∀ line ∈ indent lines, Begins line := by
  intro line member
  obtain ⟨inner, -, rfl⟩ := List.mem_map.mp member
  exact Starts.append (by decide) inner

theorem phrase_quoted {key : String} (silent : Reads key []) (s : String) :
    Phrase (key ++ quote s) [] := (silent.append (reads_quote s)).phrase

theorem numeric_toString (n : Nat) : ∀ c ∈ (toString n).toList, Numeric c := by
  intro c member
  rw [Nat.toString_eq_repr, Nat.toList_repr] at member
  exact Or.inl (Digits.allDigits_ofNat n c member)

theorem numeric_positional (style : NumberStyle) {digits : List Char}
    (all : Digits.AllDigits digits) (exponent : Int) :
    ∀ c ∈ style.layPositional digits exponent, Numeric c := by
  have zeros := fun n => Digits.allDigits_zeros n
  intro c member
  unfold NumberStyle.layPositional at member
  split at member
  · rcases List.mem_append.mp member with places | point
    · exact Or.inl (all.append (zeros _) c places)
    · split at point
      · simp only [List.mem_cons, List.not_mem_nil, or_false] at point
        rcases point with rfl | rfl
        · exact Or.inr (Or.inl rfl)
        · exact Or.inl rfl
      · exact absurd point List.not_mem_nil
  · simp only at member
    split at member
    · rcases List.mem_append.mp member with whole | fraction
      · exact Or.inl (all c (List.mem_of_mem_take whole))
      · rcases List.mem_cons.mp fraction with rfl | later
        · exact Or.inr (Or.inl rfl)
        · exact Or.inl (all c (List.mem_of_mem_drop later))
    · rcases List.mem_cons.mp member with rfl | point
      · exact Or.inl rfl
      · rcases List.mem_cons.mp point with rfl | later
        · exact Or.inr (Or.inl rfl)
        · exact Or.inl ((zeros _).append all c later)

theorem phrase_counted {key : String} (silent : Reads key []) (n : Nat) :
    Phrase (key ++ toString n) [] := silent.then (phrase_number (numeric_toString n))

theorem Phrase.comma {text : String} {rs : List Reference} (phrase : Phrase text rs) :
    Reads (text ++ ",") rs := by
  have comma : Reads "," [] := by decide
  have line := phrase.then comma (by decide)
  rw [List.append_nil] at line
  exact line

end Source

namespace FieldSpec

theorem numeric_write (x : Binary64) : ∀ c ∈ (numberStyle.write x).toList, Numeric c := by
  intro c member
  have body := numeric_positional numberStyle
    (Digits.allDigits_ofNat (x.shortest numberStyle.tie).digits)
    (x.shortest numberStyle.tie).exponent
  have chars : c ∈ if x.negative then '-' :: _ else _ := String.toList_ofList ▸ member
  split at chars
  · rcases List.mem_cons.mp chars with rfl | later
    · exact Or.inr (Or.inr rfl)
    · exact body c later
  · exact body c chars

theorem phrase_limits (c : Constraints) : ∀ part ∈ limitParts c, Phrase part [] := by
  have enumKey : Reads "enum: " [] := by decide
  have minLengthKey : Reads "minLength: " [] := by decide
  have maxLengthKey : Reads "maxLength: " [] := by decide
  have minimumKey : Reads "minimum: " [] := by decide
  have maximumKey : Reads "maximum: " [] := by decide
  have patternKey : Reads "pattern: " [] := by decide
  intro part member
  simp only [limitParts, List.mem_append, Option.mem_toList, Option.map_eq_some_iff] at member
  rcases member with ((((choices | least) | most) | low) | high) | pattern
  · obtain ⟨l, -, rfl⟩ := choices
    refine (enumKey.append (reads_inBrackets fun text quoted => ?_)).phrase
    obtain ⟨s, -, rfl⟩ := List.mem_map.mp quoted
    exact (reads_quote s).phrase
  · obtain ⟨n, -, rfl⟩ := least
    exact phrase_counted minLengthKey n
  · obtain ⟨n, -, rfl⟩ := most
    exact phrase_counted maxLengthKey n
  · obtain ⟨x, -, rfl⟩ := low
    exact minimumKey.then (phrase_number (numeric_write x))
  · obtain ⟨x, -, rfl⟩ := high
    exact maximumKey.then (phrase_number (numeric_write x))
  · obtain ⟨s, -, rfl⟩ := pattern
    exact phrase_quoted patternKey s

theorem phrase_required : Phrase "required: true" [] := by
  have key : Reads "required: " [] := by decide
  have word : Phrase "true" (named "true".toList none) := phrase_word (by decide)
  have keyword : named "true".toList none = [] := by decide
  have parts : "required: true" = "required: " ++ "true" := by decide
  rw [keyword] at word
  rw [parts]
  exact key.then word

mutual

theorem reads_write : ∀ f : FieldSpec, Reads f.write []
  | .mk name type required limits children => by
    have nameKey : Reads "name: " [] := by decide
    have typeKey : Reads "type: " [] := by decide
    have childrenKey : Reads "children: " [] := by decide
    rw [write]
    refine reads_inBraces fun part member => ?_
    simp only [List.mem_append, List.mem_cons, List.not_mem_nil, or_false] at member
    rcases member with (((rfl | rfl) | needed) | limit) | nested
    · exact phrase_quoted nameKey name
    · exact phrase_quoted typeKey type
    · split at needed
      · exact List.mem_singleton.mp needed ▸ phrase_required
      · exact absurd needed List.not_mem_nil
    · exact phrase_limits limits part limit
    · split at nested
      · exact absurd nested List.not_mem_nil
      · rw [List.mem_singleton.mp nested]
        exact (childrenKey.append (reads_inBrackets fun text inner =>
          (reads_writeAll children text inner).phrase)).phrase

theorem reads_writeAll : ∀ fs : List FieldSpec, ∀ text ∈ writeAll fs, Reads text []
  | [] => fun _ member => absurd member List.not_mem_nil
  | f :: fs => List.forall_mem_cons.mpr ⟨reads_write f, reads_writeAll fs⟩

end

end FieldSpec

/-! ### Middleware -/

namespace Middleware

theorem code_lines (m : Middleware) : Code m.lines [⟨m.function, none⟩] := by
  cases m with
  | rateLimit requests windowMs =>
    have opens : Reads "rateLimit(" [⟨"rateLimit", none⟩] := by decide
    have requestsKey : Reads "requests: " [] := by decide
    have windowKey : Reads "windowMs: " [] := by decide
    have closes : Reads ")," [] := by decide
    have options : Reads (inBraces [s!"requests: {requests}", s!"windowMs: {windowMs}"]) [] :=
      reads_inBraces (List.forall_mem_cons.mpr ⟨phrase_counted requestsKey requests,
        List.forall_mem_singleton.mpr (phrase_counted windowKey windowMs)⟩)
    exact code_one ((opens.append options).append closes)
  | authenticate scheme location header =>
    have opens : Reads "authenticate(" [⟨"authenticate", none⟩] := by decide
    have locationKey : Reads "tokenLocation: " [] := by decide
    have headerKey : Reads "headerName: " [] := by decide
    have comma : Reads ", " [] := by decide
    have closes : Reads ")" [] := by decide
    have options : Reads (inBraces (authOptions location header)) [] := by
      refine reads_inBraces fun part member => ?_
      simp only [authOptions, List.mem_append, Option.mem_toList, Option.map_eq_some_iff] at member
      rcases member with ⟨l, -, rfl⟩ | ⟨h, -, rfl⟩
      · exact phrase_quoted locationKey l.name
      · exact phrase_quoted headerKey h
    have stated : Reads (if (authOptions location header).isEmpty then ""
        else ", " ++ inBraces (authOptions location header)) [] := by
      split
      · exact Reading.Moves.nil
      · exact comma.append options
    exact code_one ((((opens.append (reads_quote scheme.name)).append stated).append
      closes).phrase.comma)
  | requireRoles roles =>
    have opens : Reads "requireRoles(" [⟨"requireRoles", none⟩] := by decide
    have closes : Reads ")," [] := by decide
    have list : Reads (inBrackets (roles.map quote)) [] := by
      refine reads_inBrackets fun text quoted => ?_
      obtain ⟨s, -, rfl⟩ := List.mem_map.mp quoted
      exact (reads_quote s).phrase
    exact code_one ((opens.append list).append closes)
  | parseJson => exact code_one (by decide)
  | validateBody specs =>
    have opens : Reads "validateBody([" [⟨"validateBody", none⟩] := by decide
    have closes : Reads "])," [] := by decide
    have inside : Code (specs.map fun s => s.write ++ ",") [] := by
      refine code_of_silent fun line member => ?_
      obtain ⟨spec, -, rfl⟩ := List.mem_map.mp member
      exact (FieldSpec.reads_write spec).phrase.comma
    exact code_cons opens (inside.indent.append (code_one closes))

theorem code_chain (ms : List Middleware) :
    Code (ms.flatMap (·.lines)) (ms.map fun m => ⟨m.function, none⟩) := by
  induction ms with
  | nil => exact code_nil
  | cons m ms ih => exact (code_lines m).append ih

end Middleware

/-! ### Handlers -/

namespace Handler

/-- The names of parameters and constants inside handlers. -/
def locals : List String :=
  ["_req", "req", "res", "next", "err", "items", "item", "created", "updated", "removed"]

/-- A name that stands for nothing else in a handler. -/
structure Binding (name : String) : Prop where
  plain : isPlainIdent name.toList = true
  notKeyword : name ∉ keywords
  notLocal : name ∉ locals

/-- A name under which a handler holds what its call returns. -/
structure Result (name : String) : Prop where
  plain : isPlainIdent name.toList = true
  notKeyword : name ∉ keywords
  isLocal : name ∈ locals

theorem Result.phrase {name : String} (held : Result name) : Phrase name [⟨name, none⟩] :=
  phrase_name held.plain held.notKeyword

/-- What a handler refers to beside its local names. -/
def references : Handler → List Reference
  | stub => []
  | run names _ action _ =>
    ⟨names.repository, some action.method⟩ ::
      if action.param?.isSome then [⟨"HttpError", none⟩] else []

/-- The references beside those to local names. -/
def outside (rs : List Reference) : List Reference := rs.filter fun r => r.name ∉ locals

theorem outside_append (rs qs : List Reference) : outside (rs ++ qs) = outside rs ++ outside qs :=
  List.filter_append ..

theorem outside_local {name : String} (isLocal : name ∈ locals) (m : Option String)
    (rs : List Reference) : outside (⟨name, m⟩ :: rs) = outside rs :=
  List.filter_cons_of_neg (by simpa using isLocal)

theorem outside_binding {name : String} (binding : Binding name) (m : Option String)
    (rs : List Reference) : outside (⟨name, m⟩ :: rs) = ⟨name, m⟩ :: outside rs :=
  List.filter_cons_of_pos (by simpa using binding.notLocal)

theorem reads_callAs {result : String} {names : ModelNames} {arguments : String}
    {rs : List Reference} (action : Action) (held : Result result)
    (binding : Binding names.repository) (reads : Reads arguments rs) :
    Reads (callAs result names action arguments)
      (⟨result, none⟩ :: ⟨names.repository, some action.method⟩ :: rs) := by
  have const : Reads "const " [] := by decide
  have await : Reads " = await " [] := by decide
  have opens : Reads "(" [] := by decide
  have bound := (const.then held.phrase).then await (by decide)
  have called := (phrase_member binding.plain binding.notKeyword (method_plain action)).then
    (opens.append reads) (Starts.append (by decide) arguments)
  have text : callAs result names action arguments = "const " ++ result ++ " = await " ++
      (names.repository ++ "." ++ action.method ++ ("(" ++ arguments)) := by
    rw [← String.append_assoc, ← String.append_assoc, ← String.append_assoc,
      ← String.append_assoc]
    rfl
  rw [text]
  have whole := bound.append called
  simp only [List.nil_append, List.append_nil, List.cons_append] at whole
  exact whole

theorem phrase_paramAccess (param : String) :
    Phrase (paramAccess param) [⟨"req", some "params"⟩] := by
  unfold paramAccess
  split
  · rename_i plain
    intro c stops
    obtain ⟨first, chars, form, begins, later⟩ := plain_cons plain
    have opens : Reading.code.Moves "req.params.".toList [⟨"req", some "params"⟩] .skipped := by
      decide
    have each : ∀ d ∈ param.toList, (isIdentRest d || d = '.') = true := by
      rw [form]
      refine List.forall_mem_cons.mpr ⟨?_, fun d member => ?_⟩
      · simp [isIdentRest, begins]
      · simp [later d member]
    have ends : Reading.skipped.Moves [c] [] .code := skipped_stop stops
    have whole := opens.trans ((moves_skipped each).trans ends)
    rw [← List.append_assoc, ← String.toList_append] at whole
    exact whole
  · have opens : Reads "req.params[" [⟨"req", some "params"⟩] := by decide
    have closes : Reads "]" [] := by decide
    exact ((opens.append (reads_quote param)).append closes).phrase

theorem reads_refuse {result : String} (model : String) (held : Result result) :
    Reads (refuse result model) [⟨result, none⟩, ⟨"HttpError", none⟩] := by
  have opens : Reads "if (!" [] := by decide
  have throws : Reads ") throw new HttpError(404, " [⟨"HttpError", none⟩] := by decide
  have closes : Reads ");" [] := by decide
  exact (((opens.then held.phrase).then throws (by decide)).append
    (reads_quote _)).append closes

def responseReferences (status : Nat) (rs : List Reference) : List Reference :=
  ⟨"res", some "status"⟩ :: if status = 204 then [] else rs

theorem reads_respond {value : String} {rs : List Reference} (status : Nat)
    (phrase : Phrase value rs) :
    Reads (respond status value) (responseReferences status rs) := by
  unfold respond responseReferences
  split
  · decide
  · have opens : Reads "res.status(" [⟨"res", some "status"⟩] := by decide
    have between : Reads ").json(" [] := by decide
    have closes : Reads ");" [] := by decide
    have number := phrase_number (numeric_toString status)
    have sent := ((opens.then number).then between (by decide)).then phrase
    have whole := sent.then closes (by decide)
    simp only [List.append_nil, List.cons_append, List.nil_append] at whole
    exact whole

theorem outside_response (status : Nat) {rs : List Reference} (local_ : outside rs = []) :
    outside (responseReferences status rs) = [] := by
  rw [responseReferences, outside_local (by decide)]
  split
  · rfl
  · exact local_

theorem phrase_optionParts (o : SearchOptions) : ∀ part ∈ optionParts o, Phrase part [] := by
  have filtersKey : Reads "filters: " [] := by decide
  have selectKey : Reads "select: " [] := by decide
  have orderKey : Reads "orderBy: " [] := by decide
  have limitKey : Reads "limit: " [] := by decide
  have fieldKey : Reads "field: " [] := by decide
  have operatorKey : Reads "operator: " [] := by decide
  have valueKey : Reads "value: " [] := by decide
  have sourceKey : Reads "source: " [] := by decide
  have directionKey : Reads "direction: " [] := by decide
  intro part member
  simp only [optionParts, List.mem_append, Option.mem_toList, Option.map_eq_some_iff] at member
  rcases member with ((filters | select) | order) | limit
  · split at filters
    · exact absurd filters List.not_mem_nil
    · rw [List.mem_singleton.mp filters]
      refine (filtersKey.append (reads_inBrackets fun text written => ?_)).phrase
      obtain ⟨f, -, rfl⟩ := List.mem_map.mp written
      refine (reads_inBraces ?_).phrase
      simp only [List.forall_mem_cons]
      exact ⟨phrase_quoted fieldKey _, phrase_quoted operatorKey _, phrase_quoted valueKey _,
        phrase_quoted sourceKey _, fun _ absent => absurd absent List.not_mem_nil⟩
  · split at select
    · exact absurd select List.not_mem_nil
    · rw [List.mem_singleton.mp select]
      refine (selectKey.append (reads_inBrackets fun text quoted => ?_)).phrase
      obtain ⟨name, -, rfl⟩ := List.mem_map.mp quoted
      exact (reads_quote name).phrase
  · obtain ⟨o, -, rfl⟩ := order
    refine (orderKey.append (reads_inBraces ?_)).phrase
    simp only [List.forall_mem_cons]
    exact ⟨phrase_quoted fieldKey _, phrase_quoted directionKey _,
      fun _ absent => absurd absent List.not_mem_nil⟩
  · obtain ⟨n, -, rfl⟩ := limit
    exact phrase_counted limitKey n

/-- The lines of a call and of the answer with what it returns. -/
theorem code_answered {names : ModelNames} {result method : String} {lines : List String}
    {rs : List Reference} (binding : Binding names.repository) (held : Result result) (status : Nat)
    (call : Code lines (⟨result, none⟩ :: ⟨names.repository, some method⟩ :: rs))
    (localArguments : outside rs = []) :
    ∃ all, Code (lines ++ [respond status result]) all ∧
      outside all = [⟨names.repository, some method⟩] := by
  refine ⟨_, call.append (code_one (reads_respond status held.phrase)), ?_⟩
  have response : outside (responseReferences status [⟨result, none⟩]) = [] :=
    outside_response status (outside_local held.isLocal none [])
  rw [outside_append, response, outside_local held.isLocal, outside_binding binding, localArguments]
  rfl

/-- The lines of an action on one record, which may be missing. -/
theorem code_addressed {names : ModelNames} {result value arguments : String}
    {rs vs : List Reference} (binding : Binding names.repository) (action : Action) (model : String)
    (status : Nat) (held : Result result) (reads : Reads arguments rs) (phrase : Phrase value vs)
    (localArguments : outside rs = []) (localValue : outside vs = []) :
    ∃ all, Code [callAs result names action arguments, refuse result model, respond status value]
        all ∧
      outside all = [⟨names.repository, some action.method⟩, ⟨"HttpError", none⟩] := by
  have call := reads_callAs action held binding reads
  have refusal := reads_refuse model held
  have response := reads_respond status phrase
  have error : Binding "HttpError" := ⟨by decide, by decide, by decide⟩
  refine ⟨_, code_cons call (code_cons refusal (code_one response)), ?_⟩
  rw [outside_append, outside_append, outside_response status localValue,
    outside_local held.isLocal, outside_binding binding, localArguments,
    outside_local held.isLocal, outside_binding error]
  rfl

/-- A search passes the request, and its options on lines of their own where it has any. -/
theorem code_search {names : ModelNames} (binding : Binding names.repository)
    (held : Result "items") (options : SearchOptions) :
    Code (if (optionParts options).isEmpty then
        [callAs "items" names (.list options) "req);"]
      else Backend.block (callAs "items" names (.list options) "req, ")
        ((optionParts options).map (· ++ ",")) ");")
      [⟨"items", none⟩, ⟨names.repository, some "findMany"⟩, ⟨"req", none⟩] := by
  split
  · have arguments : Reads "req);" [⟨"req", none⟩] := by decide
    exact code_one (reads_callAs _ held binding arguments)
  · have arguments : Reads "req, " [⟨"req", none⟩] := by decide
    have brace : Reads "\x7b" [] := by decide
    have closes : Reads ("\x7d" ++ ");") [] := by decide
    have inside : Code ((optionParts options).map (· ++ ",")) [] := by
      refine code_of_silent fun line member => ?_
      obtain ⟨part, present, rfl⟩ := List.mem_map.mp member
      exact (phrase_optionParts options part present).comma
    exact inside.block ((reads_callAs _ held binding arguments).append brace) closes

/-- The lines of an action refer to the repository, and to the error of a missing record. -/
theorem code_actionLines {names : ModelNames} (binding : Binding names.repository) (model : String)
    (status : Nat) (action : Action) :
    ∃ all, Code (actionLines names model status action) all ∧
      outside all = references (.run names model action status) := by
  cases action with
  | list options =>
    have held : Result "items" := ⟨by decide, by decide, by decide⟩
    exact code_answered binding held status (code_search binding held options) (by decide)
  | create =>
    have held : Result "created" := ⟨by decide, by decide, by decide⟩
    have arguments : Reads (requestBody ++ ");") [⟨"req", some "body"⟩] := by decide
    exact code_answered binding held status
      (code_one (reads_callAs .create held binding arguments)) (by decide)
  | read param =>
    have held : Result "item" := ⟨by decide, by decide, by decide⟩
    have closes : Reads ");" [] := by decide
    have arguments := (phrase_paramAccess param).then closes (by decide)
    exact code_addressed binding (.read param) model status held arguments held.phrase
      (by decide) (by decide)
  | update param =>
    have held : Result "updated" := ⟨by decide, by decide, by decide⟩
    have comma : Reads ", " [] := by decide
    have body : Reads (requestBody ++ ");") [⟨"req", some "body"⟩] := by decide
    have arguments := ((phrase_paramAccess param).then comma (by decide)).append body
    rw [← String.append_assoc] at arguments
    exact code_addressed binding (.update param) model status held arguments held.phrase
      (by decide) (by decide)
  | delete param =>
    have held : Result "removed" := ⟨by decide, by decide, by decide⟩
    have closes : Reads ");" [] := by decide
    have arguments := (phrase_paramAccess param).then closes (by decide)
    have value : Reads (inBraces ["deleted: true"]) [] := by decide
    exact code_addressed binding (.delete param) model status held arguments value.phrase
      (by decide) (by decide)

theorem code_lines (r : Route) {h : Handler}
    (binding : ∀ names model action status, h = .run names model action status →
      Binding names.repository) :
    ∃ all, Code (h.lines r) all ∧ outside all = h.references := by
  cases h with
  | stub =>
    have opens : Reads ("(_req, res) => " ++ "\x7b") [⟨"_req", none⟩, ⟨"res", none⟩] := by decide
    have sends : Reads "res.status(501).json(" [⟨"res", some "status"⟩] := by decide
    have operationKey : Reads "operation: " [] := by decide
    have closes : Reads ");" [] := by decide
    have ends : Reads ("\x7d" ++ ",") [] := by decide
    have error : Reads "error: 'Not Implemented'" [] := by decide
    have answer : Reads (inBraces ["error: 'Not Implemented'",
        "operation: " ++ quote (r.method.name ++ " " ++ r.path)]) [] := by
      refine reads_inBraces ?_
      simp only [List.forall_mem_cons]
      exact ⟨error.phrase, phrase_quoted operationKey _,
        fun _ absent => absurd absent List.not_mem_nil⟩
    have line := code_one ((sends.append answer).append closes)
    exact ⟨_, line.block opens ends, by decide⟩
  | run names model action status =>
    obtain ⟨all, code, found⟩ := code_actionLines (binding names model action status rfl) model
      status action
    have opens : Reads ("async (req, res, next) => " ++ "\x7b")
      [⟨"req", none⟩, ⟨"res", none⟩, ⟨"next", none⟩] := by decide
    have tries : Reads "try \x7b" [] := by decide
    have catches : Reads "\x7d catch (err) \x7b" [⟨"err", none⟩] := by decide
    have passes : Reads "next(err);" [⟨"next", none⟩, ⟨"err", none⟩] := by decide
    have brace : Reads "\x7d" [] := by decide
    have ends : Reads ("\x7d" ++ ",") [] := by decide
    have tried := (code_one tries).append code.indent
    have caught := (tried.append (code_one catches)).append (code_one passes).indent
    have body := caught.append (code_one brace)
    refine ⟨_, body.block opens ends, ?_⟩
    have parameters : outside [⟨"req", none⟩, ⟨"res", none⟩, ⟨"next", none⟩] = [] := by decide
    have error : outside [⟨"err", none⟩] = [] := by decide
    have passed : outside [⟨"next", none⟩, ⟨"err", none⟩] = [] := by decide
    simp only [outside_append, parameters, error, passed, found, List.append_nil, List.nil_append]

end Handler

namespace Registration

/-- What a registration refers to beside its router and local names. -/
def references (g : Registration) : List Reference :=
  (Middleware.chain g.route).map (fun m => ⟨m.function, none⟩) ++ g.handler.references

/-- What a comment says behind its two slashes. -/
def remark (r : Route) : String :=
  " " ++ r.method.name ++ " " ++ r.path ++ (if summary r = "" then "" else ": " ++ summary r)

theorem comment_eq (r : Route) : comment r = "//" ++ remark r := by
  have opening : "// " = "//" ++ " " := by decide
  simp only [comment, remark, opening, String.append_assoc]

theorem isComment_comment (r : Route) : isComment (comment r) = true := by
  rw [comment_eq, isComment, String.toList_append, List.isPrefixOf_iff_prefix]
  exact List.prefix_append _ _

theorem references_comment (r : Route) : Source.references (comment r) = [] := by
  rw [Source.references, if_pos (isComment_comment r)]

theorem outside_chain (r : Route) :
    Handler.outside ((Middleware.chain r).map fun m => ⟨m.function, none⟩) =
      (Middleware.chain r).map fun m => ⟨m.function, none⟩ := by
  refine List.filter_eq_self.mpr fun ref member => ?_
  obtain ⟨m, -, rfl⟩ := List.mem_map.mp member
  have notLocal : m.function ∉ Handler.locals := by
    cases m <;> simp only [Middleware.function] <;> decide
  simpa using notLocal

/-- The lines of a registration refer to the router, the middleware and what the handler calls. -/
theorem references_registration {router : String} {g : Registration}
    (bound : Handler.Binding router)
    (binding : ∀ names model action status, g.handler = .run names model action status →
      Handler.Binding names.repository) :
    Handler.outside ((g.lines router).flatMap Source.references) =
      ⟨router, some g.route.method.lowercase⟩ :: g.references := by
  obtain ⟨all, code, found⟩ := Handler.code_lines g.route binding
  have plainMethod : isPlainIdent g.route.method.lowercase.toList = true := by
    cases g.route.method <;> decide
  have opens : Reads "(" [] := by decide
  have closes : Reads ");" [] := by decide
  have call := (phrase_member bound.plain bound.notKeyword plainMethod).then opens (by decide)
  have path := code_one (reads_quote g.route.path).phrase.comma
  have chain := Middleware.code_chain (Middleware.chain g.route)
  have inside := ((path.append chain).append code).indent
  have rest := code_cons call (inside.append (code_one closes))
  show Handler.outside (Source.references (comment g.route) ++ _) = _
  rw [references_comment, List.nil_append]
  have begins : Begins (router ++ "." ++ g.route.method.lowercase ++ "(") :=
    (((begins_word bound.plain).append _).append _).append _
  have lines := references_of_code rest <| List.forall_mem_cons.mpr ⟨begins,
    List.forall_mem_append.mpr ⟨begins_indent, by decide⟩⟩
  refine (congrArg Handler.outside lines).trans ?_
  simp only [Handler.outside_append, outside_chain, found, List.append_nil, List.nil_append]
  rw [Handler.outside_binding bound]
  rfl

end Registration

end ApiGraph.Backend
