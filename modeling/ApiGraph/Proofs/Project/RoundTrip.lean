import Mathlib.Data.List.Permutation
import ApiGraph.Proofs.Json.Parser
import ApiGraph.Proofs.Json.Text
import ApiGraph.Proofs.Project.Migration

/-!
# Export and import

The exported text of a project that was imported is read as the project with its open gates settled
(`import_exported`), so it is read as the same project exactly when no gate has an open option and
the text is not nested too deep (`exported_reads_back`).
-/

namespace ApiGraph

open Json

/-- No option of the gate is open. -/
def AuthGate.Closed (g : AuthGate) : Prop :=
  g.location.isSome ∧ g.header.isSome ∧ g.roles.isSome

theorem AuthGate.settled_eq_iff {g : AuthGate} : g.settled = g ↔ g.Closed := by
  obtain ⟨scheme, location, header, roles⟩ := g
  cases location <;> cases header <;> cases roles <;> simp [settled, Closed, roleList]

theorem Node.settled_eq_iff {n : Node} :
    n.settled = n ↔ ∀ g, n.content.auth? = some g → g.Closed := by
  obtain ⟨id, type, position, content, selected⟩ := n
  cases content <;>
    simp [settled, NodeContent.settled, NodeContent.auth?, AuthGate.settled_eq_iff]

namespace Project

theorem settled_eq_iff {p : Project} :
    p.settled = p ↔ ∀ n ∈ p.nodes, ∀ g, n.content.auth? = some g → g.Closed := by
  have nodes : p.settled = p ↔ p.nodes.map Node.settled = p.nodes := by
    obtain ⟨version, id, name, description, created, updated, nodes, edges, models, settings⟩ := p
    simp [settled]
  rw [nodes]
  constructor
  · intro same n member
    rw [← Node.settled_eq_iff]
    exact List.map_inj_left.mp (same.trans (List.map_id' p.nodes).symm) n member
  · intro closed
    have each : ∀ n ∈ p.nodes, n.settled = n := fun n member =>
      Node.settled_eq_iff.mpr (closed n member)
    exact (List.map_congr_left each).trans (List.map_id' p.nodes)

theorem exists_migrateAll (root : List (String × Json)) :
    ∃ fields, migrateAll root = .obj fields ∧
      fields.lookup "formatVersion" = root.lookup "formatVersion" := by
  unfold migrateAll
  refine ⟨_, rfl, (lookup_under_of_ne (by decide)).trans ?_⟩
  split
  · exact lookup_dropField (by decide)
  · rfl

theorem supported_of_decode {root : List (String × Json)} {p : Project}
    (current : newerFormat? root = none) (read : decode (migrateAll root) = .ok p) :
    ∀ n ∈ p.formatVersion, n ≤ formatSupported := by
  obtain ⟨fields, migrated, version⟩ := exists_migrateAll root
  rw [migrated] at read
  have values := Fields.read_of_decode_obj read
  simp only [Fields.exists_read_seq, Fields.exists_read_map] at values
  obtain ⟨found, versionRead, _, -, _, -, _, -, _, -, _, -, _, -, _, -, _, -, _, -, rfl⟩ := values
  intro n member
  obtain ⟨j, present, -, value⟩ := Fields.lookup_of_maybe versionRead n member
  rw [version] at present
  rw [(Decoder.eq_of_unsigned value).1] at present
  by_contra beyond
  unfold newerFormat? at current
  rw [present] at current
  have later : (formatSupported : Int) < (n : Int) := by omega
  simp [Json.nat, later] at current

/-- A project that was read from a sound value is spelt by its written form, once its gates are
settled. -/
theorem ofJson_written {j : Json} {p : Project} (sound : j.Sound) (read : ofJson j = .ok p) :
    p.toJson.Legible ∧ ofJson p.toJson.normal = .ok p.settled := by
  cases j <;> try cases read
  rename_i root
  unfold ofJson at read
  simp only at read
  split at read
  · cases read
  · rename_i current
    cases decoded : decode (migrateAll root) with
    | error e => rw [decoded] at read; cases read
    | ok q =>
      rw [decoded] at read
      cases read
      obtain ⟨legible, back⟩ := spells ⟨_, sound_migrateAll sound, decoded⟩
      obtain ⟨written, form, present, version⟩ := migrateAll_written p
      have supported := supported_of_decode current decoded
      have current : newerFormat? written = none := by
        unfold newerFormat?
        rw [version]
        cases found : p.formatVersion with
        | none => rfl
        | some n =>
          have small := supported n found
          have least : ¬ (formatSupported : Int) < (n : Int) := by omega
          simp [Json.nat, least]
      refine ⟨legible, ?_⟩
      rw [form] at back ⊢
      unfold ofJson
      simp only [current, present, back]
      rfl

/-- The exported text of an imported project is read as the project with its gates settled, unless
it is nested too deep to be read. -/
theorem import_exported {s : String} {p : Project} (imported : import? s = .ok p) :
    (p.toJson.depth ≤ maxDepth → import? p.exported = .ok p.settled) ∧
      (¬ p.toJson.depth ≤ maxDepth →
        ∃ e, e.fault = .tooDeep ∧ import? p.exported = .error (.syntaxError e p.exported)) := by
  unfold import? at imported
  split at imported
  · cases imported
  · rename_i j parsed
    obtain ⟨legible, back⟩ := ofJson_written (sound_of_parse parsed) imported
    obtain ⟨taken, refused⟩ := parseWithin_pretty legible maxDepth
    constructor
    · intro fits
      have reads : parse p.exported = .ok p.toJson.normal := taken fits
      rw [import?, reads]
      exact back
    · intro deep
      obtain ⟨e, fault, fails⟩ := refused deep
      have fails : parse p.exported = .error e := fails
      exact ⟨e, fault, by rw [import?, fails]⟩

/-- Export and import give back an imported project exactly when no gate has an open option and the
text is not nested too deep; open options come back settled. -/
theorem exported_reads_back {s : String} {p : Project} (imported : import? s = .ok p) :
    (p.toJson.depth ≤ maxDepth → import? p.exported = .ok p.settled) ∧
      ((import? p.exported = .ok p) ↔
        (∀ n ∈ p.nodes, ∀ g, n.content.auth? = some g → g.Closed) ∧
          p.toJson.depth ≤ maxDepth) := by
  obtain ⟨taken, refused⟩ := import_exported imported
  refine ⟨taken, ?_⟩
  rw [← settled_eq_iff]
  by_cases fits : p.toJson.depth ≤ maxDepth
  · rw [taken fits, Except.ok.injEq]
    exact (and_iff_left fits).symm
  · obtain ⟨e, -, fails⟩ := refused fits
    rw [fails]
    exact ⟨(nomatch ·), fun both => absurd both.2 fits⟩

/-- A gate whose token location was null does not come back as it was. -/
theorem null_location_not_given_back : ∃ p,
    (import? ("\x7b\"nodes\":[\x7b\"id\":\"a\",\"data\":\x7b\"type\":\"auth\"," ++
      "\"config\":\x7b\"tokenLocation\":null\x7d\x7d\x7d]\x7d") = .ok p) ∧
      ¬ (import? p.exported = .ok p) := by
  let gate : AuthGate := { location := none }
  let p : Project := { nodes := [{ id := "a", content := .auth gate }] }
  let data : Json :=
    .obj [("config", .obj [("tokenLocation", .null)]), ("type", .str "auth")]
  have parsed : parse ("\x7b\"nodes\":[\x7b\"id\":\"a\",\"data\":\x7b\"type\":\"auth\"," ++
      "\"config\":\x7b\"tokenLocation\":null\x7d\x7d\x7d]\x7d") =
        .ok (.obj [("nodes", .arr [.obj [("data", data), ("id", .str "a")]])]) := by
    cbv
  have imported : import? ("\x7b\"nodes\":[\x7b\"id\":\"a\",\"data\":\x7b\"type\":\"auth\"," ++
      "\"config\":\x7b\"tokenLocation\":null\x7d\x7d\x7d]\x7d") = .ok p := by
    rw [import?, parsed]
    rfl
  refine ⟨p, imported, fun same => ?_⟩
  have closed := ((exported_reads_back imported).2.mp same).1
  exact absurd (closed _ List.mem_cons_self gate rfl).1 (by decide)

end Project

end ApiGraph
