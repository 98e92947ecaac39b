import ApiGraph.Number.Digits
import ApiGraph.Proofs.Json.Record
import ApiGraph.Proofs.Naming

/-!
# References inside of a value

A reference is a hash sign and a pointer: keys behind slashes, with `~0` for a tilde and `~1` for a
slash. `referenceKeys_component_iff` says which names a pointer may end with as they are, and `refs`
collects the references of a value.
-/

namespace ApiGraph.Json

open Text

/-- The text of an escaped key. No tilde stands for itself. -/
def keyChars : List Char → Option (List Char)
  | [] => some []
  | '~' :: '0' :: cs => (keyChars cs).map ('~' :: ·)
  | '~' :: '1' :: cs => (keyChars cs).map ('/' :: ·)
  | '~' :: _ => none
  | c :: cs => (keyChars cs).map (c :: ·)

def key? (cs : List Char) : Option String := (keyChars cs).map String.ofList

/-- The keys of a reference, each behind a slash. -/
def referenceKeys? (reference : String) : Option (List String) :=
  match reference.toList with
  | ['#'] => some []
  | '#' :: '/' :: cs => (splitOn (· == '/') cs).mapM key?
  | _ => none

/-- The position in an array that a key means: a numeral without leading zeros. -/
def index? (key : String) : Option Nat :=
  if Digits.isNumeral key.toList && (key == "0" || key.toList.head? != some '0') then
    some (Digits.value key.toList)
  else none

def step? (j : Json) (key : String) : Option Json :=
  match j with
  | .obj fields => fields.lookup key
  | .arr items => (index? key).bind (items[·]?)
  | _ => none

def at? (j : Json) : List String → Option Json
  | [] => some j
  | key :: keys => (j.step? key).bind (·.at? keys)

/-- The value in a document that a reference designates. -/
def resolve? (document : Json) (reference : String) : Option Json :=
  (referenceKeys? reference).bind document.at?

theorem length_keyChars {cs ds : List Char} (read : keyChars cs = some ds) :
    ds.length + cs.count '~' = cs.length := by
  induction cs using keyChars.induct generalizing ds with
  | case1 =>
    cases read
    rfl
  | case2 cs ih =>
    obtain ⟨rest, later, rfl⟩ := Option.map_eq_some_iff.mp read
    have shorter := ih later
    simp
    omega
  | case3 cs ih =>
    obtain ⟨rest, later, rfl⟩ := Option.map_eq_some_iff.mp read
    have shorter := ih later
    simp
    omega
  | case4 cs notZero notOne =>
    rw [keyChars] at read
    · cases read
    · exact notZero
    · exact notOne
  | case5 c cs notZero notOne plain ih =>
    rw [keyChars.eq_5 c cs notZero notOne plain] at read
    obtain ⟨rest, later, rfl⟩ := Option.map_eq_some_iff.mp read
    have shorter := ih later
    simp [List.count_cons_of_ne (fun same => plain same)]
    omega

theorem keyChars_of_plain {cs : List Char} (plain : '~' ∉ cs) : keyChars cs = some cs := by
  induction cs with
  | nil => rfl
  | cons c cs ih =>
    rw [List.mem_cons, not_or] at plain
    have different : c ≠ '~' := fun same => plain.1 same.symm
    rw [keyChars.eq_5 c cs (fun _ tilde _ => different tilde) (fun _ tilde _ => different tilde)
      different, ih plain.2]
    rfl

theorem keyChars_eq_self_iff {cs : List Char} : keyChars cs = some cs ↔ '~' ∉ cs := by
  refine ⟨fun same tilde => ?_, keyChars_of_plain⟩
  -- every tilde is lost in its escape
  have length := length_keyChars same
  have found := List.count_pos_iff.mpr tilde
  omega

theorem splitOn_eq_singleton_iff {c : Char} {cs ds : List Char} :
    splitOn (· == c) cs = [ds] ↔ cs = ds ∧ c ∉ cs := by
  constructor
  · intro single
    have joined : [c].intercalate (splitOn (· == c) cs) = cs := by
      rw [splitOn_eq_splitOnP, ← List.splitOn_eq_splitOnP, List.intercalate_splitOn]
    rw [single, List.intercalate_singleton] at joined
    subst joined
    refine ⟨rfl, fun member => ?_⟩
    have piece : ds ∈ splitOn (· == c) ds := by simp [single]
    simpa using (mem_piece piece member).2
  · rintro ⟨rfl, absent⟩
    rw [splitOn_eq_splitOnP, ← List.splitOn_eq_splitOnP, List.splitOn_eq_singleton absent]

theorem key_eq_some_iff {cs : List Char} {name : String} :
    key? cs = some name ↔ keyChars cs = some name.toList := by
  rw [key?, Option.map_eq_some_iff]
  constructor
  · rintro ⟨ds, read, rfl⟩
    rw [read, String.toList_ofList]
  · intro read
    exact ⟨name.toList, read, String.ofList_toList⟩

theorem mapM_eq_some_iff {α β : Type} {f : α → Option β} {l : List α} {bs : List β} :
    l.mapM f = some bs ↔ List.Forall₂ (fun a b => f a = some b) l bs := by
  induction l generalizing bs with
  | nil => simp [eq_comm]
  | cons a l ih =>
    rw [List.mapM_cons]
    cases bs with
    | nil => cases f a <;> cases l.mapM f <;> simp
    | cons b bs =>
      rw [List.forall₂_cons, ← ih]
      cases f a <;> cases l.mapM f <;> simp

/-- A component is designated by its name where the name has neither slash nor tilde, and by no
other name. -/
theorem referenceKeys_component_iff {name : String} :
    referenceKeys? ("#/components/schemas/" ++ name) = some ["components", "schemas", name] ↔
      '/' ∉ name.toList ∧ '~' ∉ name.toList := by
  have pieces : splitOn (· == '/') ("components/schemas/".toList ++ name.toList) =
      "components".toList :: "schemas".toList :: splitOn (· == '/') name.toList := by
    simp [splitOn]
  have chars : ("#/components/schemas/" ++ name).toList =
      '#' :: '/' :: ("components/schemas/".toList ++ name.toList) := by
    simp [String.toList_append]
  have keys : referenceKeys? ("#/components/schemas/" ++ name) =
      ("components".toList :: "schemas".toList :: splitOn (· == '/') name.toList).mapM key? := by
    simp only [referenceKeys?, chars, pieces]
  rw [keys, mapM_eq_some_iff]
  constructor
  · intro read
    obtain ⟨-, read⟩ := List.forall₂_cons.mp read
    obtain ⟨-, read⟩ := List.forall₂_cons.mp read
    obtain ⟨part, rest, last, none, parts⟩ := List.forall₂_cons_right_iff.mp read
    rw [List.forall₂_nil_right_iff.mp none] at parts
    obtain ⟨rfl, noSlash⟩ := splitOn_eq_singleton_iff.mp parts
    exact ⟨noSlash, keyChars_eq_self_iff.mp (key_eq_some_iff.mp last)⟩
  · rintro ⟨noSlash, noTilde⟩
    have last : key? name.toList = some name := key_eq_some_iff.mpr (keyChars_of_plain noTilde)
    rw [splitOn_eq_singleton_iff.mpr ⟨rfl, noSlash⟩]
    exact .cons (by decide) (.cons (by decide) (.cons last .nil))

/-- The reference that a field is. -/
def ownRef : String → Json → List String
  | "$ref", .str reference => [reference]
  | _, _ => []

mutual

def refs : Json → List String
  | .arr items => refsItems items
  | .obj fields => refsFields fields
  | _ => []

def refsItems : List Json → List String
  | [] => []
  | j :: js => refs j ++ refsItems js

def refsFields : List (String × Json) → List String
  | [] => []
  | (key, j) :: rest => (ownRef key j ++ refs j) ++ refsFields rest

end

theorem ownRef_of_ne {key : String} (plain : key ≠ "$ref") (j : Json) : ownRef key j = [] := by
  unfold ownRef
  split
  · exact absurd rfl plain
  · rfl

theorem ownRef_obj (key : String) (fields : List (String × Json)) :
    ownRef key (.obj fields) = [] := by
  unfold ownRef
  split
  · rename_i same
    cases same
  · rfl

theorem refs_arr (items : List Json) : refs (.arr items) = items.flatMap refs := by
  rw [refs]
  induction items with
  | nil => rfl
  | cons j js ih => rw [refsItems, ih, List.flatMap_cons]

theorem refs_obj (fields : List (String × Json)) :
    refs (.obj fields) = fields.flatMap fun f => ownRef f.1 f.2 ++ refs f.2 := by
  rw [refs]
  induction fields with
  | nil => rfl
  | cons f rest ih => rw [refsFields, ih, List.flatMap_cons]

theorem refs_obj_map {α : Type} (k : α → String) (v : α → Json)
    (objects : ∀ a, ∃ fields, v a = .obj fields) (l : List α) :
    refs (.obj (l.map fun a => (k a, v a))) = l.flatMap fun a => refs (v a) := by
  rw [refs_obj, List.flatMap_map]
  refine List.flatMap_congr fun a _ => ?_
  obtain ⟨fields, object⟩ := objects a
  rw [object, ownRef_obj, List.nil_append]

theorem refs_strings (l : List String) : refs (strings l) = [] := by
  rw [strings, refs_arr, List.flatMap_map, List.flatMap_eq_nil_iff]
  intro s _
  rfl

/-- The references of a record without a field for one are those of its values. -/
theorem refs_record {fields : List (String × Option Json)} (plain : "$ref" ∉ fields.map (·.1)) :
    refs (record fields) = fields.flatMap fun f => (f.2.map refs).getD [] := by
  rw [record, refs_obj]
  induction fields with
  | nil => rfl
  | cons f rest ih =>
    obtain ⟨key, value⟩ := f
    rw [List.map_cons, List.mem_cons, not_or] at plain
    cases value with
    | none => simpa using ih plain.2
    | some j => simp [ownRef_of_ne (Ne.symm plain.1), ih plain.2]

end ApiGraph.Json
