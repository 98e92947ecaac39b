import ApiGraph.Proofs.Graph
import ApiGraph.Proofs.Served

namespace ApiGraph

open Backend Source Text

namespace Resolve

end Resolve

namespace Backend.Middleware

/-- The steps before the credentials. -/
def limitSteps (r : Route) : List Middleware :=
  (r.rateLimit.map fun l => rateLimit l.requests l.windowMs).toList

def roleSteps (a : Access) : List Middleware :=
  if a.roles.isEmpty then [] else [.requireRoles a.roles]

/-- The steps that read the body. -/
def bodySteps (r : Route) : List Middleware :=
  (if r.method.hasBody then [parseJson] else []) ++
    (if r.validatesBody then [validateBody (FieldSpec.ofFields r.body)] else [])

theorem chain_of_some {r : Route} {a : Access} (secured : r.access = some a) :
    chain r = limitSteps r ++ ofAccess a :: roleSteps a ++ bodySteps r := by
  simp [chain, secured, limitSteps, roleSteps, bodySteps]

end Backend.Middleware

namespace OpenApi

theorem operationParts_nodup : ["summary", "description", "operationId", "tags", "deprecated",
    "parameters", "requestBody", "responses", "security"].Nodup := by decide

theorem responses_toJson (o : Operation) :
    o.toJson.get? "responses" =
      some (.obj (o.responses.map fun a => (toString a.1, a.2.toJson))) := by
  unfold Operation.toJson
  refine (Json.get?_record ?_ "responses").trans rfl
  exact operationParts_nodup

end OpenApi

namespace Project

/-- Some file registers a route behind these steps. -/
def RegistersBehind (p : Project) (r : Route) (steps : List Middleware) : Prop :=
  ∃ f ∈ p.compile.files, ∃ m, f.content = .source m ∧ ∃ router ∈ m.routers, ∃ comment,
    .code ([comment, router ++ "." ++ r.method.lowercase ++ "("] ++
      indent ([Text.quote r.path ++ ","] ++ steps.flatMap (·.lines) ++
        (p.registrationOf r).handler.lines r) ++ [");"]) ∈ m.items

theorem registersBehind_chain {p : Project} {r : Route} (kept : r ∈ keptRoutes (Resolve.routes p)) :
    p.RegistersBehind r (Middleware.chain r) := by
  obtain ⟨f, file, _, m, content, router, declared, lines⟩ := exists_lines kept
  exact ⟨f, mem_files_routers p _ _ file, m, content, router, declared, _, lines⟩

end Project

end ApiGraph
