import ApiGraph.Number.Binary64

/-!
# JSON values

A value keeps integers and floating point numbers apart and the fields of an object in order. A
dictionary is a field list with ascending keys; `setField` keeps that order. Equality is decidable
by recursion on both values (`Json.same_iff`).
-/

namespace ApiGraph

/-- A number: an integer literal in machine range, or a floating point number. -/
inductive Json.Number where
  | int (n : Int)
  | float (x : Binary64)
deriving DecidableEq, Repr

inductive Json where
  | null
  | bool (b : Bool)
  | num (n : Json.Number)
  | str (s : String)
  | arr (items : List Json)
  | obj (fields : List (String × Json))
deriving Repr

namespace Json

instance : Inhabited Json := ⟨.null⟩

mutual

def same : Json → Json → Bool
  | .null, .null => true
  | .bool a, .bool b => a == b
  | .num a, .num b => a == b
  | .str a, .str b => a == b
  | .arr a, .arr b => sameItems a b
  | .obj a, .obj b => sameFields a b
  | _, _ => false

def sameItems : List Json → List Json → Bool
  | [], [] => true
  | a :: as, b :: bs => same a b && sameItems as bs
  | _, _ => false

def sameFields : List (String × Json) → List (String × Json) → Bool
  | [], [] => true
  | (k, a) :: as, (l, b) :: bs => k == l && same a b && sameFields as bs
  | _, _ => false

end

mutual

theorem eq_of_same : ∀ {a b : Json}, same a b = true → a = b
  | .null, b, h => by cases b <;> simp [same] at h ⊢
  | .bool a, b, h => by cases b <;> simp [same] at h ⊢; exact h
  | .num a, b, h => by cases b <;> simp [same] at h ⊢; exact h
  | .str a, b, h => by cases b <;> simp [same] at h ⊢; exact h
  | .arr a, b, h => by
    cases b <;> simp [same] at h ⊢
    exact eq_of_sameItems h
  | .obj a, b, h => by
    cases b <;> simp [same] at h ⊢
    exact eq_of_sameFields h

theorem eq_of_sameItems : ∀ {a b : List Json}, sameItems a b = true → a = b
  | [], b, h => by cases b <;> simp [sameItems] at h ⊢
  | a :: as, b, h => by
    cases b <;> simp [sameItems] at h ⊢
    exact ⟨eq_of_same h.1, eq_of_sameItems h.2⟩

theorem eq_of_sameFields : ∀ {a b : List (String × Json)}, sameFields a b = true → a = b
  | [], b, h => by cases b <;> simp [sameFields] at h ⊢
  | (k, a) :: as, b, h => by
    cases b with
    | nil => simp [sameFields] at h
    | cons f bs =>
      obtain ⟨l, b⟩ := f
      simp only [sameFields, Bool.and_eq_true, beq_iff_eq] at h
      rw [h.1.1, eq_of_same h.1.2, eq_of_sameFields h.2]

end

mutual

theorem same_self : ∀ a : Json, same a a = true
  | .null => rfl
  | .bool _ => by simp [same]
  | .num _ => by simp [same]
  | .str _ => by simp [same]
  | .arr items => by simpa [same] using sameItems_self items
  | .obj fields => by simpa [same] using sameFields_self fields

theorem sameItems_self : ∀ items : List Json, sameItems items items = true
  | [] => rfl
  | a :: as => by simp [sameItems, same_self a, sameItems_self as]

theorem sameFields_self : ∀ fields : List (String × Json), sameFields fields fields = true
  | [] => rfl
  | (k, a) :: as => by simp [sameFields, same_self a, sameFields_self as]

end

theorem same_iff {a b : Json} : same a b = true ↔ a = b :=
  ⟨eq_of_same, fun h => h ▸ same_self a⟩

instance : DecidableEq Json := fun _ _ => decidable_of_iff _ same_iff

/-- Puts a value under a key of a field list with ascending keys, in place of an earlier one. -/
def setField (key : String) (value : Json) : List (String × Json) → List (String × Json)
  | [] => [(key, value)]
  | (k, v) :: rest =>
    if key = k then (key, value) :: rest
    else if key < k then (key, value) :: (k, v) :: rest
    else (k, v) :: setField key value rest

def dropField (key : String) (fields : List (String × Json)) : List (String × Json) :=
  fields.filter fun f => f.1 ≠ key

/-- The field list with ascending keys; of equal keys the last value counts. -/
def sortFields (fields : List (String × Json)) : List (String × Json) :=
  fields.foldl (fun done f => setField f.1 f.2 done) []

def get? (key : String) : Json → Option Json
  | .obj fields => fields.lookup key
  | _ => none

/-- The object with the fields that are present, in the given order. -/
def record (fields : List (String × Option Json)) : Json :=
  .obj (fields.filterMap fun f => f.2.map fun v => (f.1, v))

def strings (l : List String) : Json := .arr (l.map .str)

def nat (n : Nat) : Json := .num (.int n)

def float (x : Binary64) : Json := .num (.float x)

end Json

end ApiGraph
