import ApiGraph.Proofs.Fresh
import ApiGraph.Proofs.OpenApi.Operations
import ApiGraph.Resolve

/-!
# Operation ids

The id of a route depends on the ids that are taken before it (`IdAfter`): the search for a free one
ends, and it finds the natural id unless that is taken. Along the kept routes every id is taken for
the rest, so no two operations of a document share one (`ids_assigned`).
-/

namespace ApiGraph.OpenApi

open Text Naming

/-- What the id of a route is like where some ids are taken. -/
structure IdAfter (taken : List String) (r : Route) (id : String) : Prop where
  /-- The search over the numbers ends, at the latest after as many as there are taken ids. -/
  found : ∃ n ≤ taken.length, Finds (fun k => numbered (baseId r) "" k ∉ taken) 0 n ∧
    id = numbered (baseId r) "" n
  plain : ∃ rest, id = r.method.lowercase ++ String.ofList rest ∧ Alnum rest
  natural : id = baseId r ↔ baseId r ∉ taken

theorem baseId_plain (r : Route) :
    ∃ rest, baseId r = r.method.lowercase ++ String.ofList rest ∧ Alnum rest := by
  refine ⟨_, rfl, fun c member => ?_⟩
  obtain ⟨w, word, inside⟩ := List.mem_flatMap.mp member
  have alnum := alnum_of_mem_words word
  rw [pascalChars_word alnum] at inside
  exact alnum_capitalize alnum c inside

/-- A number adds digits only. -/
theorem numbered_plain (r : Route) (n : Nat) :
    ∃ rest, numbered (baseId r) "" n = r.method.lowercase ++ String.ofList rest ∧ Alnum rest := by
  obtain ⟨rest, base, alnum⟩ := baseId_plain r
  refine ⟨rest ++ if n = 0 then [] else Digits.ofNat (n + 1), ?_, fun c member => ?_⟩
  · rw [← String.toList_inj, toList_numbered, base]
    simp
  · rcases List.mem_append.mp member with natural | number
    · exact alnum c natural
    · split at number
      · exact absurd number List.not_mem_nil
      · simp [isAsciiAlnum, Digits.allDigits_ofNat _ c number]

theorem idAfter_fresh (taken : List String) (r : Route) :
    IdAfter taken r (fresh taken (baseId r)) := by
  obtain ⟨n, small, finds, same⟩ := finds_fresh taken (baseId r)
  refine ⟨⟨n, small, finds, same⟩, ?_, fresh_eq_iff⟩
  rw [same]
  exact numbered_plain r n

/-- Only which ids are taken counts, not in which order. -/
theorem IdAfter.of_perm {taken others : List String} (perm : taken.Perm others) {r : Route}
    {id : String} (after : IdAfter taken r id) : IdAfter others r id := by
  obtain ⟨found, plain, natural⟩ := after
  rw [perm.mem_iff] at natural
  simp only [perm.length_eq, perm.mem_iff] at found
  exact ⟨found, plain, natural⟩

theorem operationIds_append (taken : List String) (routes more : List Route) :
    operationIds taken (routes ++ more) = operationIds taken routes ++
      operationIds ((operationIds taken routes).reverse ++ taken) more := by
  induction routes generalizing taken with
  | nil => rfl
  | cons r routes ih =>
    rw [List.cons_append, operationIds, operationIds, ih, List.reverse_cons, List.append_assoc]
    rfl

theorem operationIds_fresh (taken : List String) (routes : List Route) :
    (operationIds taken routes).Nodup ∧ ∀ id ∈ operationIds taken routes, id ∉ taken := by
  induction routes generalizing taken with
  | nil => exact ⟨List.nodup_nil, fun _ member => absurd member List.not_mem_nil⟩
  | cons r routes ih =>
    rw [operationIds]
    obtain ⟨distinct, unused⟩ := ih (fresh taken (baseId r) :: taken)
    refine ⟨List.nodup_cons.mpr ⟨fun again => unused _ again List.mem_cons_self, distinct⟩, ?_⟩
    rintro id (_ | ⟨_, later⟩)
    · exact fresh_not_mem taken (baseId r)
    · exact fun present => unused id later (List.mem_cons_of_mem _ present)

theorem idAfter_operationIds {routes : List Route} {i : Nat} {r : Route} {id : String}
    (route : routes[i]? = some r) (identified : (operationIds [] routes)[i]? = some id) :
    IdAfter ((operationIds [] routes).take i) r id := by
  obtain ⟨inRange, rfl⟩ := List.getElem?_eq_some_iff.mp route
  have split : routes.take i ++ routes[i] :: routes.drop (i + 1) = routes := by
    rw [← List.drop_eq_getElem_cons inRange, List.take_append_drop]
  have ids := operationIds_append [] (routes.take i) (routes[i] :: routes.drop (i + 1))
  rw [split, List.append_nil, operationIds] at ids
  have earlier : (operationIds [] (routes.take i)).length = i := by
    rw [Document.operationIds_length, List.length_take, Nat.min_eq_left (Nat.le_of_lt inRange)]
  rw [ids, List.getElem?_append_right (Nat.le_of_eq earlier), earlier, Nat.sub_self,
    List.getElem?_cons_zero, Option.some.injEq] at identified
  rw [ids, List.take_left' earlier, ← identified]
  exact (idAfter_fresh _ _).of_perm (List.reverse_perm _)

namespace Document

/-- The operations of a document are those of the kept routes under ids that are all different, each
found by a search that ends. An id is the method and ASCII letters and digits behind it, and it has
no number exactly if no operation before it took the id without one. -/
theorem ids_assigned (p : Project) (routes : List Route) :
    let kept := keptRoutes routes
    let ids := operationIds [] kept
    (assemble p routes).entries.Perm
        ((kept.zip ids).map fun x => (x.1.operationKey, Operation.ofRoute p x.1 x.2)) ∧
      ((assemble p routes).entries.map (·.2.id)).Perm ids ∧
      ids.length = kept.length ∧
      ids.Nodup ∧
      ∀ (i : Nat) (r : Route) (id : String), kept[i]? = some r → ids[i]? = some id →
        IdAfter (ids.take i) r id := by
  intro kept ids
  have size : ids.length = kept.length := operationIds_length [] kept
  have entries := entries_assemble p routes
  refine ⟨entries, ?_, size, (operationIds_fresh [] kept).1, fun i r id => idAfter_operationIds⟩
  refine (entries.map (·.2.id)).trans (List.Perm.of_eq ?_)
  calc _ = (kept.zip ids).map (·.2) := by
        rw [List.map_map]
        rfl
    _ = ids := List.map_snd_zip (Nat.le_of_eq size)

def itemRoutes : List Route :=
  ["/items", "/items/", "/items2"].map fun path =>
    Resolve.route "/api" path { path } { databases := [], gates := [] }

/-- An id whose natural form another operation got as its number. -/
theorem itemRoutes_numbered :
    let kept := keptRoutes itemRoutes
    let r := Resolve.route "/api" "/items2" { path := "/items2" } { databases := [], gates := [] }
    operationIds [] kept = ["getApiItems", "getApiItems2", "getApiItems22"] ∧
      kept[2]? = some r ∧ baseId r = "getApiItems2" ∧
      IdAfter ["getApiItems", "getApiItems2"] r "getApiItems22" := by
  intro kept r
  have ids : operationIds [] kept = ["getApiItems", "getApiItems2", "getApiItems22"] := by
    decide +kernel
  have route : kept[2]? = some r := by decide +kernel
  obtain ⟨-, -, -, -, after⟩ := ids_assigned {} itemRoutes
  have here := after 2 r "getApiItems22" route (by rw [ids]; rfl)
  rw [ids] at here
  exact ⟨ids, route, by decide +kernel, here⟩

end Document

end ApiGraph.OpenApi
