import Mathlib.Data.List.Permutation
import ApiGraph.Proofs.Json.Alike
import ApiGraph.Proofs.Json.Parser
import ApiGraph.Proofs.Project.Gaps

/-!
# Null and absent keys

An endpoint is imported alike whether one of its keys is null or absent. Migration puts the same
stand-in for both (`lookup_migrate_withoutNulls`), and the only key without a stand-in is optional
(`Endpoint.decode_dropField`). What is decoded alike in an endpoint is decoded alike in its node and
its project (`ofJson_bareNodes`).
-/

namespace ApiGraph

open Json

theorem Json.eq_of_lookup_eq {a b : List (String × Json)} (left : Ascending a) (right : Ascending b)
    (same : ∀ key, a.lookup key = b.lookup key) : a = b := by
  have mem_iff {l : List (String × Json)} (ascending : Ascending l) (f : String × Json) :
      f ∈ l ↔ l.lookup f.1 = some f.2 :=
    ⟨lookup_eq_some_of_mem ascending.nodup, Fields.mem_of_lookup_eq_some⟩
  have perm : a.Perm b := by
    rw [List.perm_ext_iff_of_nodup left.nodup.of_map right.nodup.of_map]
    intro f
    rw [mem_iff left, mem_iff right, same]
  exact perm.eq_of_pairwise
    (fun f g _ _ less greater => absurd (less.trans greater) (lt_irrefl _)) left right

namespace Fields

variable {α : Type} {name key k : String} {fields : Fields α} {c c' : Json → Json}
  {entries : List (String × Json)} {absent : Reading α} {d : Decoder α}

theorem read_under_other (other : k ≠ key) (absent : Reading α) (d : Decoder α) :
    (optional k absent d).read (Project.under key c entries) =
      (optional k absent d).read (Project.under key c' entries) :=
  read_optional_congr (by
    rw [Project.lookup_under_of_ne other, Project.lookup_under_of_ne other])

theorem read_under (absent : Reading α)
    (same : ∀ v, entries.lookup key = some v → d (c v) = d (c' v)) :
    (optional key absent d).read (Project.under key c entries) =
      (optional key absent d).read (Project.under key c' entries) := by
  refine read_optional_congr ?_
  rw [Project.lookup_under, Project.lookup_under, Option.map_map, Option.map_map]
  cases found : entries.lookup key with
  | none => rfl
  | some v => exact congrArg some (same v found)

theorem decode_within (same : fields.read (Project.under key c entries) =
    fields.read (Project.under key c' entries)) :
    decode name fields (Project.within key c (.obj entries)) =
      decode name fields (Project.within key c' (.obj entries)) :=
  decode_congr ((Project.keys_under ..).trans (Project.keys_under ..).symm) same

end Fields

theorem Decoder.list_onItems {α : Type} {d : Decoder α} {c c' : Json → Json} {j : Json}
    (same : ∀ items, j = .arr items → ∀ i ∈ items, d (c i) = d (c' i)) :
    list d (Project.onItems c j) = list d (Project.onItems c' j) := by
  cases j with
  | arr items =>
    have each := same items rfl
    clear same
    show (items.map c).mapM d = (items.map c').mapM d
    induction items with
    | nil => rfl
    | cons i items ih =>
      obtain ⟨here, later⟩ := List.forall_mem_cons.mp each
      rw [List.map_cons, List.map_cons, List.mapM_cons, List.mapM_cons, here, ih later]
  | _ => rfl

section

variable {c c' : Json → Json} {entries : List (String × Json)}

theorem Endpoint.decode_dropField (null : entries.lookup "rateLimit" = some .null) :
    Endpoint.decode (.obj (dropField "rateLimit" entries)) = Endpoint.decode (.obj entries) := by
  have other {α : Type} {k : String} (other : k ≠ "rateLimit") (value : α) (d : Decoder α) :=
    Fields.spares_default other value d entries
  refine Fields.Spares.decode "EndpointConfig" ?_
  exact ((((((((((((other (by decide) _ _).map _).seq (other (by decide) _ _)).seq
    (other (by decide) _ _)).seq (other (by decide) _ _)).seq (other (by decide) _ _)).seq
    (other (by decide) _ _)).seq (other (by decide) _ _)).seq (other (by decide) _ _)).seq
    (other (by decide) _ _)).seq (other (by decide) _ _)).seq (other (by decide) _ _)).seq
    (Fields.spares_maybe null _)

theorem NodeContent.decode_obj {kind : String} (typed : entries.lookup "type" = some (.str kind)) :
    NodeContent.decode (.obj entries) = ofConfig kind ((entries.lookup "config").getD .null) := by
  unfold NodeContent.decode Fields.decode
  simp only [Fields.read_seq, Fields.read_map, Fields.required, Fields.default, Fields.optional,
    typed]
  cases entries.lookup "config" <;> rfl

theorem NodeContent.decode_within (typed : entries.lookup "type" = some (.str "endpoint"))
    (same : ∀ v, entries.lookup "config" = some v →
      Endpoint.decode (orEmpty (c v)) = Endpoint.decode (orEmpty (c' v))) :
    NodeContent.decode (Project.within "config" c (.obj entries)) =
      NodeContent.decode (Project.within "config" c' (.obj entries)) := by
  have kind : ∀ c, (Project.under "config" c entries).lookup "type" = some (.str "endpoint") := by
    intro c
    rw [Project.lookup_under_of_ne (by decide), typed]
  have config : ∀ j, ofConfig "endpoint" j = endpoint <$> Endpoint.decode (orEmpty j) :=
    fun _ => rfl
  rw [Project.within_obj, Project.within_obj, decode_obj (kind c), decode_obj (kind c'),
    Project.lookup_under, Project.lookup_under, config, config]
  cases found : entries.lookup "config" with
  | none => rfl
  | some v => exact congrArg (endpoint <$> ·) (same v found)

theorem Node.decode_within
    (same : ∀ v, entries.lookup "data" = some v →
      NodeContent.decode (c v) = NodeContent.decode (c' v)) :
    Node.decode (Project.within "data" c (.obj entries)) =
      Node.decode (Project.within "data" c' (.obj entries)) := by
  have other {α : Type} {k : String} (other : k ≠ "data") (absent : Reading α) (d : Decoder α) :
      (Fields.optional k absent d).read (Project.under "data" c entries) =
        (Fields.optional k absent d).read (Project.under "data" c' entries) :=
    Fields.read_under_other other absent d
  refine Fields.decode_within ?_
  simp only [Fields.read_seq, Fields.read_map, Fields.required, Fields.default, Fields.maybe]
  rw [other (k := "id") (by decide), other (k := "type") (by decide),
    other (k := "position") (by decide), other (k := "selected") (by decide),
    Fields.read_under _ same]

theorem Project.decode_within
    (same : ∀ items, entries.lookup "nodes" = some (.arr items) →
      ∀ i ∈ items, Node.decode (c i) = Node.decode (c' i)) :
    Project.decode (within "nodes" (onItems c) (.obj entries)) =
      Project.decode (within "nodes" (onItems c') (.obj entries)) := by
  have other {α : Type} {k : String} (other : k ≠ "nodes") (absent : Reading α) (d : Decoder α) :
      (Fields.optional k absent d).read (under "nodes" (onItems c) entries) =
        (Fields.optional k absent d).read (under "nodes" (onItems c') entries) :=
    Fields.read_under_other other absent d
  refine Fields.decode_within ?_
  simp only [Fields.read_seq, Fields.read_map, Fields.default, Fields.maybe]
  rw [other (k := "formatVersion") (by decide), other (k := "id") (by decide),
    other (k := "name") (by decide), other (k := "description") (by decide),
    other (k := "createdAt") (by decide), other (k := "updatedAt") (by decide),
    other (k := "edges") (by decide), other (k := "models") (by decide),
    other (k := "settings") (by decide), Fields.read_under _ fun v found => ?_]
  refine Decoder.list_onItems fun items array => ?_
  exact same items (array ▸ found)

end

namespace Project

variable {fields root : List (String × Json)} {key : String}

/-! ### The keys of an endpoint -/

/-- An endpoint without the keys that are null. -/
def withoutNulls (fields : List (String × Json)) : List (String × Json) :=
  fields.filter fun f => ¬ (f.1 ∈ endpointKeys ∧ f.2 = .null)

theorem lookup_withoutNulls (distinct : (fields.map (·.1)).Nodup) (key : String) :
    (withoutNulls fields).lookup key =
      if key ∈ endpointKeys ∧ fields.lookup key = some .null then none
      else fields.lookup key := by
  induction fields with
  | nil => simp [withoutNulls]
  | cons f rest ih =>
    obtain ⟨k, v⟩ := f
    obtain ⟨fresh, others⟩ := List.nodup_cons.mp distinct
    have later := ih others
    by_cases null : k ∈ endpointKeys ∧ v = .null
    · have dropped : withoutNulls ((k, v) :: rest) = withoutNulls rest :=
        List.filter_cons_of_neg (by simpa using null)
      rw [dropped, lookup_cons_eq, later]
      by_cases same : key = k
      · rw [same, lookup_eq_none_of_not_mem fresh]
        simp [null]
      · rw [if_neg same]
    · have kept : withoutNulls ((k, v) :: rest) = (k, v) :: withoutNulls rest :=
        List.filter_cons_of_pos (decide_eq_true null)
      rw [kept, lookup_cons_eq, lookup_cons_eq, later]
      by_cases same : key = k
      · rw [if_pos same, if_pos same,
          if_neg fun found => null ⟨same ▸ found.1, Option.some.inj found.2⟩]
      · rw [if_neg same, if_neg same]

theorem isMissing_withoutNulls (distinct : (fields.map (·.1)).Nodup) (key : String) :
    isMissing (withoutNulls fields) key = isMissing fields key := by
  rw [isMissing, isMissing, lookup_withoutNulls distinct]
  split
  · rename_i null
    rw [null.2]
    rfl
  · rfl

/-- The stand-ins are read from texts, numbers and arrays, none of them null. -/
theorem standIns_withoutNulls (distinct : (fields.map (·.1)).Nodup) :
    standIns (withoutNulls fields) = standIns fields := by
  have same {k : String} (foreign : k ∉ endpointKeys) :
      (withoutNulls fields).lookup k = fields.lookup k := by
    rw [lookup_withoutNulls distinct, if_neg fun null => foreign null.1]
  have text : textAt (withoutNulls fields) "description" = textAt fields "description" := by
    rw [textAt, textAt, lookup_withoutNulls distinct]
    by_cases null : "description" ∈ endpointKeys ∧ fields.lookup "description" = some .null
    · rw [if_pos null, null.2]
    · rw [if_neg null]
  have response : soleResponse (withoutNulls fields) = soleResponse fields := by
    rw [soleResponse, soleResponse, same (by decide), same (by decide)]
  rw [standIns, standIns, text, response]

theorem endpointKeys_eq (fields : List (String × Json)) :
    endpointKeys = (standIns fields).map (·.1) ++ ["rateLimit"] := rfl

/-- The rate limit has no stand-in. -/
theorem lookup_migrate_rateLimit (fields : List (String × Json)) :
    (migrate fields).lookup "rateLimit" = fields.lookup "rateLimit" := by
  have none : (standIns fields).lookup "rateLimit" = none :=
    lookup_eq_none_of_not_mem (by rw [standIns_keys]; decide)
  rw [lookup_migrate, if_neg (by decide), none, Option.none_or, ite_self]

/-- Migration leaves no difference between null and absent keys, the rate limit apart. -/
theorem lookup_migrate_withoutNulls (distinct : (fields.map (·.1)).Nodup)
    (other : ¬ (key = "rateLimit" ∧ fields.lookup key = some .null)) :
    (migrate (withoutNulls fields)).lookup key = (migrate fields).lookup key := by
  rw [lookup_migrate, lookup_migrate, isMissing_withoutNulls distinct,
    standIns_withoutNulls distinct, lookup_withoutNulls distinct]
  by_cases null : key ∈ endpointKeys ∧ fields.lookup key = some .null
  · have missing : isMissing fields key = true := by simp [isMissing, null.2]
    have filled : key ∈ (standIns fields).map (·.1) := by
      rw [endpointKeys_eq fields, List.mem_append, List.mem_singleton] at null
      exact null.1.resolve_right fun limit => other ⟨limit, null.2⟩
    obtain ⟨s, listed, rfl⟩ := List.mem_map.mp filled
    rw [if_pos missing, if_pos missing, lookup_eq_some_of_mem (standIns_distinct fields) listed,
      Option.some_or, Option.some_or]
  · rw [if_neg null]

theorem sound_withoutNulls (sound : (Json.obj fields).Sound) :
    (Json.obj (withoutNulls fields)).Sound :=
  .obj (fun _ member => sound.field (List.mem_of_mem_filter member))
    (sound.ascending.sublist List.filter_sublist)

theorem migrate_withoutNulls (sound : (Json.obj fields).Sound) :
    migrate (withoutNulls fields) =
      if fields.lookup "rateLimit" = some .null then dropField "rateLimit" (migrate fields)
      else migrate fields := by
  have distinct := sound.ascending.nodup
  have present := sound_migrate sound
  have bare := (sound_migrate (sound_withoutNulls sound)).ascending
  split
  · rename_i null
    refine eq_of_lookup_eq bare (present.dropField _).ascending fun key => ?_
    by_cases limit : key = "rateLimit"
    · rw [limit, lookup_dropField_self, lookup_migrate_rateLimit, lookup_withoutNulls distinct,
        if_pos ⟨by decide, null⟩]
    · rw [lookup_dropField limit]
      exact lookup_migrate_withoutNulls distinct fun both => limit both.1
  · rename_i value
    refine eq_of_lookup_eq bare present.ascending fun key => ?_
    exact lookup_migrate_withoutNulls distinct fun both => value (both.1 ▸ both.2)

theorem decode_migrate_withoutNulls (sound : (Json.obj fields).Sound) :
    Endpoint.decode (.obj (migrate (withoutNulls fields))) =
      Endpoint.decode (.obj (migrate fields)) := by
  rw [migrate_withoutNulls sound]
  split
  · rename_i null
    exact Endpoint.decode_dropField ((lookup_migrate_rateLimit fields).trans null)
  · rfl

/-! ### The endpoints of a project -/

/-- A written node without the keys of its endpoint that are null. -/
def bareNode (node : Json) : Json :=
  if isEndpointNode node then within "data" (within "config" (onFields withoutNulls)) node else node

def bareNodes : Json → Json := within "nodes" (onItems bareNode)

theorem isEndpointNode_within (c : Json → Json) (node : Json) :
    isEndpointNode (within "data" (within "config" c) node) = isEndpointNode node := by
  have typed : ∀ data : Json, (within "config" c data).get? "type" = data.get? "type" := by
    intro data
    cases data with
    | obj entries => exact lookup_under_of_ne (by decide)
    | _ => rfl
  cases node with
  | obj entries =>
    rw [isEndpointNode, isEndpointNode, within_obj, Json.get?, Json.get?, lookup_under]
    cases entries.lookup "data" with
    | none => rfl
    | some data => rw [Option.map_some, Option.bind_some, Option.bind_some, typed]
  | _ => rfl

theorem exists_fields_of_isEndpointNode {node : Json} (endpoint : isEndpointNode node = true) :
    ∃ entries data, node = .obj entries ∧ entries.lookup "data" = some (.obj data) ∧
      data.lookup "type" = some (.str "endpoint") := by
  obtain ⟨data, found, typed⟩ := Option.bind_eq_some_iff.mp (of_decide_eq_true endpoint)
  cases node with
  | obj entries =>
    cases data with
    | obj fields => exact ⟨entries, fields, rfl, found, typed⟩
    | _ => cases typed
  | _ => cases found

/-- A node in the present form is decoded alike with null and with absent keys. -/
theorem decode_migrateNode_bareNode {node : Json} (sound : node.Sound) :
    Node.decode (migrateNode (bareNode node)) = Node.decode (migrateNode node) := by
  by_cases endpoint : isEndpointNode node = true
  · rw [bareNode, if_pos endpoint, migrateNode, isEndpointNode_within, if_pos endpoint, migrateNode,
      if_pos endpoint, within_within]
    obtain ⟨entries, data, rfl, found, typed⟩ := exists_fields_of_isEndpointNode endpoint
    refine Node.decode_within fun v same => ?_
    obtain rfl : Json.obj data = v := Option.some.inj (found.symm.trans same)
    rw [within_within]
    refine NodeContent.decode_within typed fun config written => ?_
    cases config with
    | obj fields =>
      exact decode_migrate_withoutNulls (sound_lookup (sound_lookup sound found) written)
    | _ => rfl
  · rw [bareNode, if_neg endpoint]

theorem dropField_under {k : String} (c : Json → Json) :
    dropField k (under key c root) = under key c (dropField k root) := by
  rw [dropField, under, List.filter_map]
  refine congrArg (List.map _) (List.filter_congr fun f _ => ?_)
  rw [Function.comp_apply]
  split <;> rfl

theorem newerFormat?_under (c : Json → Json) :
    newerFormat? (under "nodes" c root) = newerFormat? root := by
  rw [newerFormat?, newerFormat?, lookup_under_of_ne (by decide)]

theorem migrateAll_under (c : Json → Json) :
    migrateAll (under "nodes" c root) = within "nodes" (fun v => onItems migrateNode (c v))
      (.obj (if root.lookup "settings" = some .null then dropField "settings" root else root)) := by
  have settings : (under "nodes" c root).lookup "settings" = root.lookup "settings" :=
    lookup_under_of_ne (by decide)
  rw [migrateAll, settings, dropField_under, ← apply_ite (under "nodes" c), ← within_obj,
    within_within]

theorem ofJson_bareNodes {j : Json} (sound : j.Sound) : ofJson (bareNodes j) = ofJson j := by
  cases j with
  | obj root =>
    have items : ∀ nodes, onItems migrateNode (onItems bareNode nodes) =
        onItems (fun n => migrateNode (bareNode n)) nodes := by
      intro nodes
      cases nodes with
      | arr items => exact congrArg Json.arr List.map_map
      | _ => rfl
    have alike : decode (migrateAll (under "nodes" (onItems bareNode) root)) =
        decode (migrateAll root) := by
      rw [migrateAll_under, migrateAll, funext items]
      refine Project.decode_within fun nodes found n member => ?_
      have source : root.lookup "nodes" = some (.arr nodes) := by
        rw [← found]
        split
        · exact (lookup_dropField (by decide)).symm
        · rfl
      exact decode_migrateNode_bareNode ((sound_lookup sound source).item member)
    rw [bareNodes, within_obj, ofJson, ofJson, newerFormat?_under, alike]
  | _ => rfl

/-- What migration does to the fields of an endpoint: it is reported exactly if there are gaps, it
leaves none, and a key with a value keeps it unless it is one of the older ones. -/
structure OnlyFills (fields : List (String × Json)) : Prop where
  reported : migrateNoting fields = (migrate fields, decide (gaps fields ≠ []))
  settled : migrateNoting (migrate fields) = (migrate fields, false)
  kept : ∀ key j, fields.lookup key = some j → j ≠ .null → key ∉ olderKeys →
    (migrate fields).lookup key = some j

/-- Migration only fills gaps, whatever the fields are. It changes nothing in a written endpoint,
and texts that differ in null and absent keys of endpoints are imported alike. -/
theorem gaps_only_filled :
    (∀ fields, OnlyFills fields) ∧
      (∀ e : Endpoint, ∃ written, e.toJson.normal = .obj written ∧
        migrateNoting written = (written, false)) ∧
      ∀ s s' j j', Json.parse s = .ok j → Json.parse s' = .ok j' →
        bareNodes j = bareNodes j' → import? s = import? s' := by
  refine ⟨fun fields => ?_, exists_migrateNoting_written, fun s s' j j' read read' same => ?_⟩
  · exact ⟨migrateNoting_eq fields, migrateNoting_migrate fields,
      fun _ _ found value present => lookup_migrate_of_value found value present⟩
  · have imported {s : String} {j : Json} (read : Json.parse s = .ok j) : import? s =
        ofJson (bareNodes j) := by
      rw [import?, read, ofJson_bareNodes (sound_of_parse read)]
    rw [imported read, imported read', same]

theorem olderItems_filled :
    (migrate [("path", .str "/items"), ("statusCode", .num (.int 201))]).lookup "path" =
        some (.str "/items") ∧
      (import? ("\x7b\"nodes\":[\x7b\"id\":\"a\",\"data\":\x7b\"type\":\"endpoint\"," ++
          "\"config\":\x7b\"method\":null,\"path\":\"/items\"\x7d\x7d\x7d]\x7d") = import?
        ("\x7b\"nodes\":[\x7b\"id\":\"a\",\"data\":\x7b\"type\":\"endpoint\"," ++
          "\"config\":\x7b\"path\":\"/items\"\x7d\x7d\x7d]\x7d")) := by
  obtain ⟨fills, -, alike⟩ := gaps_only_filled
  let written (config : List (String × Json)) : Json :=
    .obj [("nodes", .arr [.obj [("data", .obj [("config", .obj config), ("type", .str "endpoint")]),
      ("id", .str "a")]])]
  exact ⟨(fills _).kept "path" _ rfl nofun (by decide),
    alike _ _ (written [("method", .null), ("path", .str "/items")])
      (written [("path", .str "/items")]) (by cbv) (by cbv) (by decide)⟩

/-- An endpoint whose content is written as an array is not migrated: without its method it is
imported, with null for it not. -/
theorem positional_null_refused :
    (import? "\x7b\"nodes\":[\x7b\"id\":\"a\",\"data\":[\"endpoint\",\x7b\x7d]\x7d]\x7d" =
        .ok { nodes := [{ id := "a", content := .endpoint {} }] }) ∧
      (import? ("\x7b\"nodes\":[\x7b\"id\":\"a\"," ++
        "\"data\":[\"endpoint\",\x7b\"method\":null\x7d]\x7d]\x7d") =
        .error (.misfit (.wrongType .null "string or map"))) := by
  let document (config : List (String × Json)) : Json :=
    .obj [("nodes", .arr [.obj [("data", .arr [.str "endpoint", .obj config]), ("id", .str "a")]])]
  constructor
  · have parsed : Json.parse
        "\x7b\"nodes\":[\x7b\"id\":\"a\",\"data\":[\"endpoint\",\x7b\x7d]\x7d]\x7d" =
          .ok (document []) := by cbv
    rw [import?, parsed]
    rfl
  · have parsed : Json.parse ("\x7b\"nodes\":[\x7b\"id\":\"a\"," ++
        "\"data\":[\"endpoint\",\x7b\"method\":null\x7d]\x7d]\x7d") =
          .ok (document [("method", .null)]) := by cbv
    rw [import?, parsed]
    rfl

end Project

end ApiGraph
