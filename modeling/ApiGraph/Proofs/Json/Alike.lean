import ApiGraph.Json.Decode
import ApiGraph.Proofs.Json.Record

/-!
# Records that are read alike

When two field lists give the same record or the same error. The error that is reported depends on
the keys of the record and on what is wrong under them, so fields with the same keys that are read
alike are decoded alike (`decode_congr`), and so is a record without a key that is not at fault
(`Spares.decode`).
-/

namespace ApiGraph

open Json

variable {α β : Type}

namespace Reading

def problems : Reading α → List Problem
  | .ok _ => []
  | .bad first more => first :: more

theorem problems_both (f : Reading (α → β)) (x : Reading α) :
    (f.both x).problems = f.problems ++ x.problems := by
  cases f <;> cases x <;> simp [both, problems]

end Reading

namespace Fields

variable {name : String} {fields : Fields α} {a b entries : List (String × Json)} {key : String}

theorem read_seq (f : Fields (α → β)) (x : Fields α) (entries : List (String × Json)) :
    (f <*> x).read entries = (f.read entries).both (x.read entries) := rfl

theorem read_map (g : α → β) (x : Fields α) (entries : List (String × Json)) :
    (g <$> x).read entries = Reading.both (.ok g) (x.read entries) := rfl

/-- A field is read alike from values that are decoded alike. -/
theorem read_optional_congr {absent : Reading α} {d : Decoder α}
    (same : (a.lookup key).map d = (b.lookup key).map d) :
    (optional key absent d).read a = (optional key absent d).read b := by
  have found : ∀ entries : List (String × Json), (optional key absent d).read entries =
      match (entries.lookup key).map d with
      | none => absent
      | some (.ok value) => .ok value
      | some (.error e) => .bad (.fault key e) [] := by
    intro entries
    rw [optional]
    dsimp only
    cases entries.lookup key with
    | none => rfl
    | some j =>
      rw [Option.map_some]
      dsimp only
      cases d j <;> rfl
  rw [found, found, same]

theorem reported_congr (keys : a.map (·.1) = b.map (·.1)) (absent : String → DecodeError)
    (first : Problem) (more : List Problem) :
    reported a absent first more = reported b absent first more := by
  have byKeys : ∀ entries : List (String × Json),
      (entries.findSome? fun e => (first :: more).findSome? (Problem.faultOf e.1)) =
        (entries.map (·.1)).findSome? fun key => (first :: more).findSome? (Problem.faultOf key) :=
    fun entries => by rw [List.findSome?_map]; rfl
  unfold reported
  rw [byKeys, byKeys, keys]

theorem decode_congr (keys : a.map (·.1) = b.map (·.1)) (same : fields.read a = fields.read b) :
    decode name fields (.obj a) = decode name fields (.obj b) := by
  unfold decode
  dsimp only
  rw [same]
  cases fields.read b with
  | ok value => rfl
  | bad first more => exact congrArg _ (reported_congr keys _ first more)

/-- The fields are read alike without a key, and no fault is found under it. -/
structure Spares (fields : Fields α) (key : String) (entries : List (String × Json)) : Prop where
  read : fields.read (dropField key entries) = fields.read entries
  clear : ∀ q ∈ (fields.read entries).problems, q.faultOf key = none

theorem Spares.seq {f : Fields (α → β)} {x : Fields α} (left : f.Spares key entries)
    (right : x.Spares key entries) : (f <*> x).Spares key entries where
  read := by rw [read_seq, read_seq, left.read, right.read]
  clear q member := by
    rw [read_seq, Reading.problems_both] at member
    exact (List.mem_append.mp member).elim (left.clear q) (right.clear q)

theorem Spares.map {x : Fields α} (spares : x.Spares key entries) (g : α → β) :
    (g <$> x).Spares key entries where
  read := by rw [read_map, read_map, spares.read]
  clear q member := by
    rw [read_map, Reading.problems_both] at member
    exact spares.clear q member

theorem spares_default {k : String} (other : k ≠ key) (value : α) (d : Decoder α)
    (entries : List (String × Json)) : (default k value d).Spares key entries where
  read := read_optional_congr (by rw [lookup_dropField other])
  clear q member := by
    simp only [default, optional] at member
    split at member
    · exact absurd member List.not_mem_nil
    · split at member
      · exact absurd member List.not_mem_nil
      · rw [List.mem_singleton.mp member, Problem.faultOf, if_neg other]

/-- An optional field that is null may as well be absent. -/
theorem spares_maybe (null : entries.lookup key = some .null) (d : Decoder α) :
    (maybe key d).Spares key entries := by
  have read : (maybe key d).read entries = .ok none := by
    simp only [maybe, default, optional, null]
    rfl
  refine ⟨?_, fun q member => ?_⟩
  · rw [read]
    simp only [maybe, default, optional, lookup_dropField_self]
  · rw [read] at member
    exact absurd member List.not_mem_nil

theorem reported_dropField {first : Problem} {more : List Problem}
    (clear : ∀ q ∈ first :: more, q.faultOf key = none) (absent : String → DecodeError)
    (entries : List (String × Json)) :
    reported (dropField key entries) absent first more = reported entries absent first more := by
  have silent : (first :: more).findSome? (Problem.faultOf key) = none :=
    List.findSome?_eq_none_iff.mpr clear
  have visited : ((dropField key entries).findSome? fun e =>
      (first :: more).findSome? (Problem.faultOf e.1)) =
      entries.findSome? fun e => (first :: more).findSome? (Problem.faultOf e.1) := by
    induction entries with
    | nil => rfl
    | cons e entries ih =>
      by_cases same : e.1 = key
      · rw [List.findSome?_cons, same, silent, ← ih, dropField, List.filter_cons_of_neg (by simpa)]
        rfl
      · rw [List.findSome?_cons, ← ih, dropField, List.filter_cons_of_pos (by simpa),
          List.findSome?_cons]
        rfl
  unfold reported
  rw [visited]

theorem Spares.decode (name : String) (spares : fields.Spares key entries) :
    decode name fields (.obj (dropField key entries)) = decode name fields (.obj entries) := by
  unfold Fields.decode
  dsimp only
  rw [spares.read]
  cases found : fields.read entries with
  | ok value => rfl
  | bad first more =>
    have clear := spares.clear
    rw [found] at clear
    exact congrArg _ (reported_dropField clear _ entries)

end Fields

end ApiGraph
