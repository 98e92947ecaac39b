import ApiGraph.Proofs.Backend.Legible
import ApiGraph.Proofs.Backend.RecordCalls
import ApiGraph.Proofs.Backend.Registrations

/-!
# Registrations in texts

What the text of a file registers: a line that declares a router, and further down a line that calls
a method of it, above the path as a literal. Where the comments of a router end with their lines,
its text registers what the router does and nothing else (`registrationsIn_router`).
-/

namespace ApiGraph.Backend

open Text

namespace Source

/-- The router that a line declares. -/
def router? (line : String) : Option String := do
  let declared ← (after? "const " line.toList).or (after? "export const " line.toList)
  let (name, rest) ← identifier? declared
  if rest = " = Router();".toList then some name else none

def routersIn (lines : List String) : List String := lines.filterMap router?

/-- The method and the path of a registration that begins with the first of some lines. -/
def registration? (routers : List String) : List String → Option (Method × String)
  | call :: path :: _ => do return (← calledMethod? routers call, ← argument? path)
  | _ => none

def registrationsOn (routers lines : List String) : List (Method × String) :=
  lines.tails.filterMap (registration? routers)

def registrationsIn (lines : List String) : List (Method × String) :=
  registrationsOn (routersIn lines) lines

variable {routers lines : List String} {line : String}

theorem registrationsOn_cons (routers lines : List String) (line : String) :
    registrationsOn routers (line :: lines) =
      (registration? routers (line :: lines)).toList ++ registrationsOn routers lines := by
  rw [registrationsOn, List.tails, List.filterMap_cons]
  cases registration? routers (line :: lines) <;> rfl

theorem registrationsOn_silent (silent : ∀ line ∈ lines, calledMethod? routers line = none)
    (rest : List String) : registrationsOn routers (lines ++ rest) = registrationsOn routers rest := by
  induction lines with
  | nil => rfl
  | cons line lines ih =>
    obtain ⟨first, later⟩ := List.forall_mem_cons.mp silent
    have none : registration? routers (line :: (lines ++ rest)) = none := by
      cases lines ++ rest with
      | nil => rfl
      | cons next more => rw [registration?, first]; rfl
    rw [List.cons_append, registrationsOn_cons, none, ih later]
    rfl

/-- A call of a router ends with an opening parenthesis. -/
theorem calledMethod?_of_last (last : line.toList.getLast? ≠ some '(') :
    calledMethod? routers line = none := by
  refine List.find?_eq_none.mpr fun m _ called => last ?_
  obtain ⟨r, -, same⟩ := List.any_eq_true.mp called
  rw [eq_of_beq same, String.toList_append, List.getLast?_append]
  rfl

theorem calledMethod?_append {tail : String} (last : tail.toList.getLast?.any (· ≠ '(') = true)
    (start : String) : calledMethod? routers (start ++ tail) = none := by
  refine calledMethod?_of_last fun same => ?_
  rw [String.toList_append, List.getLast?_append] at same
  cases form : tail.toList.getLast? with
  | none => simp [form] at last
  | some c => simp_all

/-- A call of a router does not begin with a blank or a slash. -/
theorem calledMethod?_of_head {name : String} (plain : isPlainIdent name.toList = true)
    (head : line.toList.head?.any isIdentStart = false) : calledMethod? [name] line = none := by
  refine List.find?_eq_none.mpr fun m _ called => ?_
  obtain ⟨r, member, same⟩ := List.any_eq_true.mp called
  obtain ⟨c, cs, form, start, -⟩ := plain_cons plain
  rw [eq_of_beq same, List.mem_singleton.mp member, String.toList_append, String.toList_append,
    String.toList_append, form] at head
  exact absurd start (by simpa using head)

/-- The method of a call does not depend on the routers that there are besides. -/
theorem calledMethod?_declared {router : String} (declared : router ∈ routers) (m : Method) :
    calledMethod? routers (router ++ "." ++ m.lowercase ++ "(") = some m := by
  have apart : ∀ a b : Method, ("." ++ a.lowercase ++ "(").toList <:+ ("." ++ b.lowercase ++ "(").toList →
      a = b := by
    intro a b
    cases a <;> cases b <;> decide
  have ends (name : String) (m : Method) :
      ("." ++ m.lowercase ++ "(").toList <:+ (name ++ "." ++ m.lowercase ++ "(").toList :=
    ⟨name.toList, by simp⟩
  unfold calledMethod?
  cases found : List.find? _ Method.all with
  | none =>
    refine absurd ?_ (List.find?_eq_none.mp found m (by cases m <;> decide))
    exact List.any_eq_true.mpr ⟨router, declared, beq_self_eq_true _⟩
  | some other =>
    have called := List.find?_some found
    obtain ⟨name, -, same⟩ := List.any_eq_true.mp called
    have both := ends name other
    rw [← eq_of_beq same] at both
    refine congrArg some ?_
    rcases List.suffix_or_suffix_of_suffix both (ends router m) with inner | outer
    · exact apart other m inner
    · exact (apart m other outer).symm

/-- A call on a declared router registers, wherever it stands. -/
theorem mem_registrationsIn {router : String} (declared : router ∈ routersIn lines) {m : Method}
    {argument path : String} (quoted : argument? argument = some path)
    (calls : [router ++ "." ++ m.lowercase ++ "(", argument] <:+: lines) :
    (m, path) ∈ registrationsIn lines := by
  obtain ⟨before, after, rfl⟩ := calls
  refine List.mem_filterMap.mpr
    ⟨(router ++ "." ++ m.lowercase ++ "(") :: argument :: after, ?_, ?_⟩
  · rw [List.mem_tails]
    exact ⟨before, by simp⟩
  · rw [registration?, calledMethod?_declared declared, quoted]
    rfl

theorem router?_of_last (last : line.toList.getLast? ≠ some ';') : router? line = none := by
  refine Option.eq_none_iff_forall_ne_some.mpr fun name declares => last ?_
  have key_suffix {key : String} {cs rest : List Char} (found : after? key cs = some rest) :
      rest <:+ cs := by
    obtain ⟨front, form, -⟩ := List.dropPrefix?_eq_some_iff.mp found
    exact ⟨front, form.symm⟩
  simp only [router?, Option.bind_eq_bind, Option.bind_eq_some_iff] at declares
  obtain ⟨declared, begins, ⟨word, rest⟩, found, ends⟩ := declares
  have inner : rest <:+ declared := by
    simp only [identifier?] at found
    split at found
    · cases found
      exact List.dropWhile_suffix _
    · cases found
  have outer : declared <:+ line.toList := by
    rcases Option.or_eq_some_iff.mp begins with plain | ⟨-, exported⟩
    · exact key_suffix plain
    · exact key_suffix exported
  obtain ⟨front, form⟩ := inner.trans outer
  split at ends
  · rename_i closing
    have closing : rest = " = Router();".toList := closing
    rw [← form, closing, List.getLast?_append]
    rfl
  · cases ends

theorem router?_of_head (notConst : line.toList.head? ≠ some 'c')
    (notExport : line.toList.head? ≠ some 'e') : router? line = none := by
  rw [router?, after?_of_head (by decide) notConst, after?_of_head (by decide) notExport]
  rfl

theorem router?_declaration {name : String} (plain : isPlainIdent name.toList = true)
    (exported : Bool) :
    router? ((if exported then "export " else "") ++ "const" ++ " " ++ name ++ " = Router();") =
      some name := by
  have read := identifier?_before plain " = Router();" (by decide) []
  rw [List.append_nil] at read
  cases exported with
  | true =>
    have key : "export " ++ "const" ++ " " = "export const " := by decide
    have notPlain : ∀ cs, after? "const " ("export const ".toList ++ cs) = none := fun _ => rfl
    rw [if_pos rfl, key, router?, String.toList_append, String.toList_append, List.append_assoc,
      notPlain, Option.none_or, after?_append, Option.bind_eq_bind, Option.bind_some, read,
      Option.bind_eq_bind, Option.bind_some]
    exact if_pos rfl
  | false =>
    have key : "" ++ "const" ++ " " = "const " := by decide
    rw [if_neg Bool.false_ne_true, key, router?, String.toList_append, String.toList_append,
      List.append_assoc, after?_append, Option.some_or, Option.bind_eq_bind, Option.bind_some, read,
      Option.bind_eq_bind, Option.bind_some]
    exact if_pos rfl

theorem router?_exportDefault (name : String) : router? ("export default " ++ name ++ ";") = none := by
  have chars : ("export default " ++ name ++ ";").toList =
      "export default ".toList ++ (name.toList ++ [';']) := by simp
  have apart : ¬ "export const ".toList <+: "export default ".toList ∧
      ¬ "export default ".toList <+: "export const ".toList := by decide
  have notConst : after? "const " ("export default ".toList ++ (name.toList ++ [';'])) = none :=
    after?_of_head (k := 'c') (by decide) (by simp)
  rw [router?, chars, after?_of_apart apart, notConst]
  rfl

theorem getLast?_import (i : Import) : i.write.toList.getLast? = some ';' := by
  obtain ⟨clause, source⟩ := i
  have ends (start : String) : (start ++ (quote source ++ ";")).toList.getLast? = some ';' := by
    simp
  cases clause <;> exact ends _

theorem router?_import (i : Import) : router? i.write = none := by
  have begins (start : String) (rest : String) (head : start.toList.head? = some 'i') :
      router? (start ++ rest) = none := by
    have first : (start ++ rest).toList.head? = some 'i' := by
      rw [String.toList_append, List.head?_append, head]
      rfl
    exact router?_of_head (by rw [first]; decide) (by rw [first]; decide)
  obtain ⟨clause, source⟩ := i
  cases clause <;> simp only [Import.write, String.append_assoc] <;> exact begins _ _ (by decide)

theorem router?_generated : ∀ line ∈ generated, router? line = none := by decide +kernel

theorem calledMethod?_generated : ∀ line ∈ generated, calledMethod? routers line = none :=
  fun line member => calledMethod?_of_last
    ((by decide +kernel : ∀ line ∈ generated, line.toList.getLast? ≠ some '(') line member)

end Source

namespace Registration

open Source

variable {name : String} (plain : isPlainIdent name.toList = true)

theorem router?_lines (g : Registration) : ∀ line ∈ g.lines name, router? line = none := by
  have comment : router? (comment g.route) = none := by
    rw [comment_eq]
    exact router?_of_head (by simp) (by simp)
  have call : router? (name ++ "." ++ g.route.method.lowercase ++ "(") = none := by
    refine router?_of_last ?_
    rw [String.toList_append, List.getLast?_append]
    exact fun last => absurd (Option.some.inj last) (by decide)
  rw [lines_eq, Registration.call]
  refine List.forall_mem_cons.mpr ⟨comment, List.forall_mem_cons.mpr ⟨call,
    List.forall_mem_append.mpr ⟨List.forall_mem_map.mpr fun line _ => ?_, by decide⟩⟩⟩
  exact router?_of_head (by simp) (by simp)

include plain

/-- A registration is found at its call, and nothing else is found among its lines. -/
theorem registrationsOn_lines (g : Registration) (rest : List String) :
    registrationsOn [name] (g.lines name ++ rest) =
      (g.route.method, g.route.path) :: registrationsOn [name] rest := by
  have remarked : calledMethod? [name] (comment g.route) = none := by
    rw [comment_eq]
    exact calledMethod?_of_head plain (by simp; decide)
  have inner : ∀ line ∈ indent ((quote g.route.path ++ ",") :: g.arguments) ++ [");"],
      calledMethod? [name] line = none := by
    refine List.forall_mem_append.mpr ⟨List.forall_mem_map.mpr fun line _ => ?_,
      List.forall_mem_singleton.mpr (calledMethod?_of_last (by decide))⟩
    exact calledMethod?_of_head plain (by simp; decide)
  have found : registration? [name] ((name ++ "." ++ g.route.method.lowercase ++ "(") ::
      (indent ((quote g.route.path ++ ",") :: g.arguments) ++ [");"] ++ rest)) =
      some (g.route.method, g.route.path) := by
    simp only [registration?, indent, List.map_cons, List.cons_append, calledMethod_call,
      argument_quote]
    rfl
  have first : registrationsOn [name] (comment g.route :: (g.call name ++ rest)) =
      registrationsOn [name] (g.call name ++ rest) :=
    registrationsOn_silent (List.forall_mem_singleton.mpr remarked) _
  rw [lines_eq, List.cons_append, first, Registration.call, List.cons_append, List.cons_append,
    registrationsOn_cons, found, registrationsOn_silent inner]
  rfl

end Registration

namespace Source

theorem routersIn_text {m : Module} (plain : m.Plain) :
    routersIn (linesOf (unlines m.lines)) = routersIn (m.items.flatMap (·.lines)) := by
  have header : m.comment.filterMap router? = [] := by
    rw [plain.header]
    exact List.filterMap_eq_nil_iff.mpr router?_generated
  have imports : (m.imports.map (·.write)).filterMap router? = [] :=
    List.filterMap_eq_nil_iff.mpr (List.forall_mem_map.mpr fun i _ => router?_import i)
  have last : [""].filterMap router? = [] := by decide
  rw [plain.lines, routersIn, Module.lines, List.filterMap_append, List.filterMap_append,
    List.filterMap_append, header, imports, last, List.append_nil]
  rfl

theorem registrationsOn_text {m : Module} (plain : m.Plain) :
    registrationsOn routers (linesOf (unlines m.lines)) =
      registrationsOn routers (m.items.flatMap (·.lines) ++ [""]) := by
  have header : ∀ line ∈ m.comment ++ m.imports.map (·.write),
      calledMethod? routers line = none := by
    refine List.forall_mem_append.mpr ⟨plain.header ▸ calledMethod?_generated,
      List.forall_mem_map.mpr fun i _ => calledMethod?_of_last ?_⟩
    rw [getLast?_import]
    decide
  rw [plain.lines, Module.lines, List.append_assoc, registrationsOn_silent header]

end Source

namespace Router

open Source

/-- What stands behind the registrations of a router. -/
def ending (r : Router) : List String :=
  if r.exported then [] else ["", "export default " ++ r.name ++ ";"]

theorem itemLines_toModule (r : Router) : r.toModule.items.flatMap (·.lines) =
    "" :: (declaration r.exported r.name).first ::
      (r.registrations.flatMap fun g => "" :: g.lines r.name) ++ r.ending := by
  have codes : (r.registrations.flatMap fun g =>
      [Item.gap, .code (g.lines r.name)]).flatMap (·.lines) =
      r.registrations.flatMap fun g => "" :: g.lines r.name := by
    rw [List.flatMap_assoc]
    exact List.flatMap_congr fun g _ => congrArg _ (List.append_nil _)
  have last : (if r.exported then [] else [Item.gap, .exportDefault r.name]).flatMap (·.lines) =
      r.ending := by
    unfold ending
    split <;> rfl
  rw [toModule, items, List.flatMap_append, last, List.flatMap_cons, List.flatMap_cons, codes]
  rfl

/-- A router is declared in its text, whatever else stands there. -/
theorem declared_text {r : Router} (named : r.Named) :
    r.name ∈ routersIn (linesOf (unlines r.toModule.lines)) := by
  have legible : (declaration r.exported r.name).Legible := declaration_legible named
  have present : .declare (declaration r.exported r.name) ∈ r.toModule.items :=
    List.mem_append_left _ (List.mem_cons_of_mem _ List.mem_cons_self)
  exact List.mem_filterMap.mpr ⟨_, first_mem_linesOf present legible,
    router?_declaration named.bound.plain r.exported⟩

theorem routersIn_router {r : Router} (plain : isPlainIdent r.name.toList = true)
    (text : r.toModule.Plain) : routersIn (linesOf (unlines r.toModule.lines)) = [r.name] := by
  have gap : router? "" = none := by decide
  have own : router? (declaration r.exported r.name).first = some r.name :=
    router?_declaration plain r.exported
  have codes : (r.registrations.flatMap fun g => "" :: g.lines r.name).filterMap router? = [] := by
    refine List.filterMap_eq_nil_iff.mpr fun line member => ?_
    obtain ⟨g, -, inside⟩ := List.mem_flatMap.mp member
    rcases List.mem_cons.mp inside with rfl | inside
    · exact gap
    · exact g.router?_lines line inside
  have last : r.ending.filterMap router? = [] := by
    unfold ending
    split
    · rfl
    · rw [List.filterMap_cons_none gap, List.filterMap_cons_none (router?_exportDefault r.name)]
      rfl
  rw [routersIn_text text, itemLines_toModule, routersIn, List.filterMap_append, last,
    List.filterMap_cons_none gap, List.filterMap_cons_some own, codes]
  rfl

/-- The text of a router registers what the router does. -/
theorem registrationsIn_router {r : Router} (plain : isPlainIdent r.name.toList = true)
    (text : r.toModule.Plain) :
    registrationsIn (linesOf (unlines r.toModule.lines)) =
      r.registrations.map fun g => (g.route.method, g.route.path) := by
  have gap : calledMethod? [r.name] "" = none := calledMethod?_of_last (by decide)
  have codes (rest : List String) : ∀ gs : List Registration,
      registrationsOn [r.name] ((gs.flatMap fun g => "" :: g.lines r.name) ++ rest) =
        gs.map (fun g => (g.route.method, g.route.path)) ++ registrationsOn [r.name] rest := by
    intro gs
    induction gs with
    | nil => rfl
    | cons g gs ih =>
      have first := registrationsOn_silent (List.forall_mem_singleton.mpr gap)
        (g.lines r.name ++ ((gs.flatMap fun g => "" :: g.lines r.name) ++ rest))
      rw [Registration.registrationsOn_lines plain, ih] at first
      rw [List.flatMap_cons, List.append_assoc]
      exact first
  have opening : ∀ line ∈ ["", (declaration r.exported r.name).first],
      calledMethod? [r.name] line = none := by
    have last : " = Router();".toList.getLast?.any (· ≠ '(') = true := by decide
    exact List.forall_mem_cons.mpr
      ⟨gap, List.forall_mem_singleton.mpr (calledMethod?_append last _)⟩
  have closing : ∀ line ∈ r.ending ++ [""], calledMethod? [r.name] line = none := by
    refine List.forall_mem_append.mpr ⟨?_, List.forall_mem_singleton.mpr gap⟩
    unfold ending
    split
    · exact List.forall_mem_nil _
    · exact List.forall_mem_cons.mpr
        ⟨gap, List.forall_mem_singleton.mpr (calledMethod?_append (by decide) _)⟩
  have nothing : registrationsOn [r.name] (r.ending ++ [""]) = [] := by
    rw [← List.append_nil (r.ending ++ [""]), registrationsOn_silent closing]
    rfl
  rw [registrationsIn, routersIn_router plain text, registrationsOn_text text, itemLines_toModule,
    List.append_assoc]
  refine (registrationsOn_silent opening _).trans ((codes _ _).trans ?_)
  rw [nothing, List.append_nil]

theorem registrationsIn_index {stems : List String} (text : (index stems).Plain) :
    registrationsIn (linesOf (unlines (index stems).lines)) = [] := by
  have silent (routers : List String) :
      ∀ line ∈ (index stems).items.flatMap (·.lines) ++ [""], calledMethod? routers line = none := by
    have gap : calledMethod? routers "" = none := calledMethod?_of_last (by decide)
    have uses : ∀ stem, calledMethod? routers ("router.use(" ++ nameOf stem ++ ");") = none :=
      fun stem => calledMethod?_append (by decide) _
    simp only [index, List.flatMap_cons, List.flatMap_nil, List.append_nil, List.forall_mem_append]
    exact ⟨⟨List.forall_mem_singleton.mpr gap, List.forall_mem_singleton.mpr
      (calledMethod?_append (by decide) _), List.forall_mem_map.mpr fun stem _ => uses stem,
      List.forall_mem_singleton.mpr gap, List.forall_mem_singleton.mpr
        (calledMethod?_append (by decide) _)⟩, List.forall_mem_singleton.mpr gap⟩
  rw [registrationsIn, registrationsOn_text text,
    ← List.append_nil ((index stems).items.flatMap (·.lines) ++ [""]),
    registrationsOn_silent (silent _)]
  rfl

end Router

open Source

/-- What a comment comes to stands in the text of its router. -/
theorem Router.infix_comment {r : Router} {g : Registration} (on : g ∈ r.registrations) :
    linesOf (Registration.comment g.route) <:+: linesOf (unlines r.toModule.lines) := by
  refine List.IsInfix.trans ?_ (infix_linesOf (code_mem_items on))
  show _ <:+: (Registration.comment g.route :: g.call r.name).flatMap linesOf
  rw [List.flatMap_cons]
  exact (List.prefix_append _ _).isInfix

/-- A registration stands in the text of its router below its comment, however that ends. -/
theorem Router.infix_call {models : List NamedModel} {r : Router} {g : Registration}
    (on : g ∈ r.registrations) (named : r.Named) (planned : Registration.Planned models r.registrations)
    (plain : ∀ m ∈ models, isPlainIdent m.names.repository.toList = true) :
    g.call r.name <:+: linesOf (unlines r.toModule.lines) := by
  have bound : ∀ names model action status, g.handler = .run names model action status →
      isPlainIdent names.repository.toList = true := by
    intro names model action status handler
    obtain ⟨m, modeled, rfl⟩ := planned g on names model action status handler
    exact plain m modeled
  have whole := List.flatMap_congr (Registration.linesOf_call named.bound.plain bound)
  refine List.IsInfix.trans ?_ (infix_linesOf (code_mem_items on))
  show _ <:+: (Registration.comment g.route :: g.call r.name).flatMap linesOf
  rw [List.flatMap_cons, whole, List.flatMap_singleton']
  exact (List.suffix_append _ _).isInfix

section

variable {p : Project} {routes : List Route}
  (closed : ∀ r ∈ keptRoutes routes, Registration.Closes r)
include closed

/-- What the text of a file registers is what its module does. -/
theorem registrationsIn_lines {f : File} (routed : f ∈ Router.files p.settings.layout
      (registrations p.settings.engine (namedModels p) routes)) :
    registrationsIn f.lines = f.registered := by
  have text {m : Module} := plain_of_routers (p := p) (m := m) closed routed
  rcases Router.mem_files routed with ⟨r, present, file⟩ | ⟨-, rfl⟩
  · have plain := (Router.named_of_mem present).bound.plain
    rw [File.lines_source file.content,
      Router.registrationsIn_router plain (text file.content), File.registered, file.content]
    exact (Router.registered_toModule r).symm
  · rw [File.lines_source rfl, Router.registrationsIn_index (text rfl)]
    exact (Router.registered_index _).symm

/-- The lines of every registration stand in the text of a file that declares its router. -/
theorem exists_text {r : Route} (kept : r ∈ keptRoutes routes) :
    ∃ f ∈ Router.files p.settings.layout
        (registrations p.settings.engine (namedModels p) routes),
      (r.method, r.path) ∈ registrationsIn f.lines ∧ ∃ router ∈ routersIn f.lines,
        Registration.lines router ⟨r, .plan p.settings.engine (namedModels p) r⟩ <:+: f.lines := by
  have member : ⟨r, .plan p.settings.engine (namedModels p) r⟩ ∈
      registrations p.settings.engine (namedModels p) routes := List.mem_map.mpr ⟨r, kept, rfl⟩
  obtain ⟨router, present, on, path, file⟩ := Router.exists_router p.settings.layout member
  have plain := (Router.named_of_mem present).bound.plain
  have text := plain_of_routers closed file rfl
  refine ⟨_, file, ?_, router.name, ?_, ?_⟩
  · rw [File.lines_source rfl, Router.registrationsIn_router plain text]
    exact List.mem_map.mpr ⟨_, on, rfl⟩
  · rw [File.lines_source rfl, Router.routersIn_router plain text]
    exact List.mem_singleton_self _
  · rw [File.lines_source rfl, text.lines]
    exact (Module.infix_lines (Router.code_mem_items on)).trans (List.prefix_append _ _).isInfix

end

end ApiGraph.Backend
