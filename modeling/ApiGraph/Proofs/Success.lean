import ApiGraph.Proofs.Access
import ApiGraph.Proofs.Backend.Answers
import ApiGraph.Proofs.Backend.Plans

/-!
# Success

A handler answers with the first status of success that its endpoint declares, or with 200 where it
declares none. The document lists what is declared, so the answer is documented unless all that an
endpoint declares are failures (`success_documented_iff`).
-/

namespace ApiGraph

open Backend

namespace OpenApi

/-- The keys of the responses of an operation, as the document has them. -/
def Operation.statusKeys (o : Operation) : List String :=
  match o.toJson.get? "responses" with
  | some (.obj fields) => fields.map (·.1)
  | _ => []

theorem Operation.statusKeys_eq (o : Operation) :
    o.statusKeys = (o.responses.map (·.1)).map fun status => toString status := by
  rw [statusKeys, responses_toJson]
  show List.map _ (List.map _ _) = _
  rw [List.map_map, List.map_map]
  rfl

theorem mem_statuses_iff {r : Route} {s : Nat} :
    s ∈ statuses r ↔ s ∈ r.responses.map (·.status) ∨ s ∈ [400, 404, 500] := by
  rw [statuses, List.mem_mergeSort, mem_firsts_iff, List.mem_append]
  rfl

theorem decimal_injective : Function.Injective fun n : Nat => toString n := by
  intro m n same
  have digits : Digits.ofNat m = Digits.ofNat n := by
    have chars : (toString m).toList = (toString n).toList := congrArg String.toList same
    rwa [Nat.toString_eq_repr, Nat.toString_eq_repr, Nat.toList_repr, Nat.toList_repr] at chars
  rw [← Digits.value_ofNat m, digits, Digits.value_ofNat]

theorem Operation.mem_statusKeys_iff {p : Project} {r : Route} {id : String} {s : Nat} :
    toString s ∈ (ofRoute p r id).statusKeys ↔
      s ∈ r.responses.map (·.status) ∨ s ∈ [400, 404, 500] := by
  have listed : (ofRoute p r id).responses.map (·.1) = statuses r := by
    show List.map _ (List.map _ _) = _
    rw [List.map_map]
    exact List.map_id _
  rw [statusKeys_eq, listed, List.mem_map_of_injective decimal_injective, mem_statuses_iff]

end OpenApi

/-- The first status of success that an endpoint declares. -/
def Endpoint.declaredSuccess? (e : Endpoint) : Option Nat :=
  (e.responses.find? (·.isSuccess)).map (·.status)

theorem Route.successStatus_lt (r : Route) : r.successStatus < 300 := by
  rw [successStatus]
  cases found : (r.responses.map (·.status)).find? fun s => 200 ≤ s && s < 300 with
  | none => decide
  | some s =>
    have success := List.find?_some found
    rw [Bool.and_eq_true, decide_eq_true_iff, decide_eq_true_iff] at success
    exact success.2

namespace Resolve

theorem statuses_routeOf (p : Project) (e : String × Endpoint) :
    (p.routeOf e).responses.map (·.status) = (declaredResponses e.2).map (·.status) := by
  show List.map _ (List.map _ _) = _
  rw [List.map_map]
  rfl

theorem successStatus_routeOf (p : Project) (e : String × Endpoint) :
    (p.routeOf e).successStatus = e.2.declaredSuccess?.getD 200 := by
  rw [Route.successStatus, statuses_routeOf, List.find?_map, declaredResponses]
  split
  · rename_i nothing
    rw [Endpoint.declaredSuccess?, List.isEmpty_iff.mp nothing]
    rfl
  · rfl

/-- The status of success is among the declared ones, where one of them is a success. -/
theorem successStatus_declared_iff (p : Project) (e : String × Endpoint) :
    (p.routeOf e).successStatus ∈ (p.routeOf e).responses.map (·.status) ↔
      e.2.responses = [] ∨ ∃ a ∈ e.2.responses, a.isSuccess = true := by
  rw [statuses_routeOf, successStatus_routeOf, Endpoint.declaredSuccess?, declaredResponses]
  by_cases nothing : e.2.responses = []
  · simp [nothing, DeclaredResponse.ofStatus]
  · rw [if_neg (by simpa using nothing), or_iff_right nothing]
    cases first : e.2.responses.find? (·.isSuccess) with
    | some a =>
      have declared : a ∈ e.2.responses := List.mem_of_find?_eq_some first
      exact iff_of_true (List.mem_map_of_mem declared) ⟨a, declared, List.find?_some first⟩
    | none =>
      have failures := List.find?_eq_none.mp first
      refine iff_of_false (fun listed => ?_) (fun ⟨a, declared, success⟩ =>
        failures a declared success)
      -- what stands under 200 would be a success itself
      obtain ⟨a, declared, same⟩ := List.mem_map.mp listed
      rw [Option.map_none, Option.getD_none] at same
      exact failures a declared (by simp [DeclaredResponse.isSuccess, same])

end Resolve

theorem Backend.Handler.status_plan {engine : Engine} {models : List NamedModel} {r : Route}
    (works : plan engine models r ≠ .stub) : (plan engine models r).status = r.successStatus := by
  obtain ⟨q, m, action, -, -, -, -, runs⟩ := exists_action_of_plan works
  rw [runs]
  rfl

namespace Project

/-- A kept route that is not a stub sends one status on success: the first success that its endpoint
declares, or 200. The responses of its operation have this status exactly if the endpoint declares
a success, or nothing at all. -/
theorem success_documented_iff (p : Project) :
    ∀ e ∈ p.endpoints, p.routeOf e ∈ keptRoutes (Resolve.routes p) →
      (p.registrationOf (p.routeOf e)).handler ≠ .stub →
      p.RegistersBehind (p.routeOf e) (Middleware.chain (p.routeOf e)) ∧
        ∃ status,
          Source.sentStatuses ((p.registrationOf (p.routeOf e)).handler.lines (p.routeOf e)) =
            [status] ∧
          status = e.2.declaredSuccess?.getD 200 ∧
          (∃ o, ((p.routeOf e).operationKey, o) ∈ p.compile.document.entries) ∧
          ∀ o, ((p.routeOf e).operationKey, o) ∈ p.compile.document.entries →
            (toString status ∈ o.statusKeys ↔
              e.2.responses = [] ∨ ∃ a ∈ e.2.responses, a.isSuccess = true) := by
  intro e _ kept works
  obtain ⟨id, documented⟩ := OpenApi.Document.exists_entry (p := p) kept
  have sent := Handler.sent_lines (p.routeOf e) (p.registrationOf (p.routeOf e)).handler
  have status : (p.registrationOf (p.routeOf e)).handler.status = (p.routeOf e).successStatus :=
    Handler.status_plan works
  rw [status] at sent
  refine ⟨registersBehind_chain kept, _, sent, Resolve.successStatus_routeOf p e,
    ⟨_, documented⟩, fun o entry => ?_⟩
  obtain ⟨id, rfl⟩ := OpenApi.Document.entry_ofRoute kept entry
  rw [OpenApi.Operation.mem_statusKeys_iff, Resolve.successStatus_declared_iff]
  refine or_iff_left fun standard => ?_
  -- a success is below 300, and the standard errors are not
  have low := (p.routeOf e).successStatus_lt
  simp only [List.mem_cons, List.not_mem_nil, or_false] at standard
  omega

def failuresOnly : Project where
  nodes :=
    [{ id := "items", content := .endpoint
        { path := "/items", responses := [.ofStatus 404] } },
     { id := "all", content := .database { operation := .list, model := "Item" } }]
  edges := [{ id := "reads", source := "items", target := "all" }]
  models := [{ name := "Item", fields := [{ name := "id", type := .string, isId := true }] }]

/-- A success that is sent and not documented, and nothing warns of it. -/
theorem failuresOnly_undocumented :
    let r := failuresOnly.routeOf ("items", { path := "/items", responses := [.ofStatus 404] })
    failuresOnly.compile.warnings = [] ∧ r ∈ keptRoutes (Resolve.routes failuresOnly) ∧
      (failuresOnly.registrationOf r).handler ≠ .stub ∧
      Source.sentStatuses ((failuresOnly.registrationOf r).handler.lines r) = [200] ∧
      ∃ o, (r.operationKey, o) ∈ failuresOnly.compile.document.entries ∧ "200" ∉ o.statusKeys := by
  intro r
  have kept : r ∈ keptRoutes (Resolve.routes failuresOnly) := by decide +kernel
  have works : (failuresOnly.registrationOf r).handler ≠ .stub := by decide +kernel
  obtain ⟨-, status, sent, rfl, ⟨o, entry⟩, documents⟩ := success_documented_iff failuresOnly
    ("items", { path := "/items", responses := [.ofStatus 404] }) (by decide) kept works
  refine ⟨by decide +kernel, kept, works, sent, o, entry, fun listed => ?_⟩
  have success := (documents o entry).mp listed
  exact absurd success (by decide)

end Project

end ApiGraph
