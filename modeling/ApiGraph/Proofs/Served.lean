import ApiGraph.Proofs.Exposure
import ApiGraph.Proofs.Backend.RouterText
import ApiGraph.Proofs.Backend.Steps

/-!
# Routes in the texts of a server

A kept route is registered in the text of some file, with its path, its steps and its handler as
arguments (`registersWith_kept`). What stands above a registration does not matter for that.
-/

namespace ApiGraph

open Backend Source Text

namespace Backend

namespace Source

/-- Whether a line begins the body of a function. -/
def opensFunction (line : String) : Bool := line.toList.getLast? = some '\x7b'

/-- The lines before the first function among some arguments. -/
def stepLines (arguments : List String) : List String := arguments.takeWhile (!opensFunction ·)

/-- The first function among some arguments, with all that follows. -/
def handlerLines (arguments : List String) : List String := arguments.dropWhile (!opensFunction ·)

theorem not_opensFunction_append (start : String) {tail : String}
    (last : tail.toList.getLast?.any (· ≠ '\x7b') = true) : opensFunction (start ++ tail) = false := by
  obtain ⟨c, ends⟩ : ∃ c, tail.toList.getLast? = some c := by
    cases form : tail.toList.getLast? with
    | none => simp [form] at last
    | some c => exact ⟨c, rfl⟩
  rw [opensFunction, String.toList_append, List.getLast?_append, ends]
  simpa [ends] using last

end Source

theorem Middleware.not_opensFunction (m : Middleware) :
    ∀ line ∈ m.lines, opensFunction line = false := by
  cases m with
  | validateBody specs =>
    refine List.forall_mem_append.mpr ⟨List.forall_mem_append.mpr ⟨by decide, ?_⟩, by decide⟩
    refine List.forall_mem_map.mpr (List.forall_mem_map.mpr fun s _ => ?_)
    rw [← String.append_assoc]
    exact not_opensFunction_append _ (by decide)
  | parseJson => decide
  | _ => exact List.forall_mem_singleton.mpr (not_opensFunction_append _ (by decide))

theorem Handler.opensFunction_lines (h : Handler) (r : Route) :
    ∃ first rest, h.lines r = first :: rest ∧ opensFunction first = true := by
  cases h <;> exact ⟨_, _, rfl, by decide⟩

theorem Registration.stepLines_arguments (g : Registration) :
    stepLines g.arguments = (Middleware.chain g.route).flatMap (·.lines) ∧
      handlerLines g.arguments = g.handler.lines g.route := by
  obtain ⟨first, rest, handler, opens⟩ := g.handler.opensFunction_lines g.route
  have steps : ∀ line ∈ (Middleware.chain g.route).flatMap (·.lines),
      (!opensFunction line) = true := by
    intro line member
    obtain ⟨m, -, inside⟩ := List.mem_flatMap.mp member
    rw [m.not_opensFunction line inside]
    rfl
  rw [stepLines, handlerLines, Registration.arguments, handler, List.takeWhile_append_of_pos steps,
    List.dropWhile_append_of_pos steps]
  simp [opens]

end Backend

namespace Project

variable {p : Project} {r : Route}

/-- The text of some file registers a route, with these lines as further arguments. -/
def RegistersWith (p : Project) (r : Route) (arguments : List String) : Prop :=
  ∃ f ∈ p.compile.files, ∃ router ∈ routersIn f.lines,
    (router ++ "." ++ r.method.lowercase ++ "(") :: indent ((quote r.path ++ ",") :: arguments) ++
      [");"] <:+: f.lines

theorem registersWith_kept (kept : r ∈ keptRoutes (Resolve.routes p)) :
    p.RegistersWith r (p.registrationOf r).arguments := by
  have member : p.registrationOf r ∈ registrations p.settings.engine (namedModels p)
      (Resolve.routes p) := List.mem_map.mpr ⟨r, kept, rfl⟩
  obtain ⟨router, present, on, path, file⟩ := Router.exists_router p.settings.layout member
  have named := Router.named_of_mem present
  have stands := Router.infix_call on named (planned_of_among (Router.among_of_mem present))
    fun m modeled => repository_plain modeled
  have declared := Router.declared_text named
  have text : (File.ofModule path router.toModule).lines = linesOf (unlines router.toModule.lines) :=
    File.lines_source rfl
  rw [← text] at stands declared
  exact ⟨_, mem_files_routers p _ _ file, router.name, declared, stands⟩

end Project

end ApiGraph
