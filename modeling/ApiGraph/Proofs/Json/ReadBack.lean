import ApiGraph.Json.Decode
import ApiGraph.Proofs.Json.Normal

/-!
# Reading back what was written

A decoder yields a value when some sound JSON value is read as it. A JSON value spells a value when
its text is read as it (`Decoder.Spells`). For a record both are told field by field: `yields_record`
takes apart what was read, `spells_record` puts together what is written.
-/

namespace ApiGraph

open Json

variable {α β : Type}

namespace Decoder

/-- Some value that a text spells is read as `a`. -/
def Yields (decode : Decoder α) (a : α) : Prop := ∃ j, j.Sound ∧ decode j = .ok a

/-- The text of `j` is read as `a`. -/
def Spells (decode : Decoder α) (j : Json) (a : α) : Prop := j.Legible ∧ decode j.normal = .ok a

theorem exists_of_bind_eq_ok {x : Except DecodeError α} {f : α → Except DecodeError β} {b : β}
    (read : x.bind f = .ok b) : ∃ a, x = .ok a ∧ f a = .ok b := by
  cases x with
  | error e => cases read
  | ok a => exact ⟨a, rfl, read⟩

theorem exists_of_map_eq_ok {f : α → β} {x : Except DecodeError α} {b : β}
    (read : f <$> x = .ok b) : ∃ a, x = .ok a ∧ f a = b := by
  cases x with
  | error e => cases read
  | ok a =>
    injection read with same
    exact ⟨a, rfl, same⟩

theorem Spells.made {decode : Decoder α} {j : Json} {a : α} (spells : decode.Spells j a)
    (make : α → β) : j.Legible ∧ make <$> decode j.normal = .ok (make a) := by
  refine ⟨spells.1, ?_⟩
  rw [spells.2]
  rfl

theorem spells_text (s : String) : text.Spells (.str s) s := ⟨.str s, rfl⟩

theorem spells_bool (b : Bool) : bool.Spells (.bool b) b := ⟨.bool b, rfl⟩

theorem spells_float (x : Binary64) : float.Spells (.float x) x := ⟨.num trivial, rfl⟩

theorem spells_variant {variants : List (String × α)} {name : String} {a : α}
    (listed : variants.lookup name = some a) : (variant variants).Spells (.str name) a := by
  refine ⟨.str name, ?_⟩
  show named variants name = .ok a
  rw [named, listed]

theorem spells_unsigned {bits n : Nat} (small : n < 2 ^ bits) (word : bits ≤ 64) :
    (unsigned bits).Spells (.nat n) n := by
  have power : 2 ^ bits ≤ 2 ^ 64 := Nat.pow_le_pow_right (by decide) word
  refine ⟨.num ?_, ?_⟩
  · show -2 ^ 63 ≤ (n : Int) ∧ (n : Int) < 2 ^ 64
    omega
  · have bound : (0 : Int) ≤ n ∧ (n : Int) < Nat.pow 2 bits :=
      ⟨Int.natCast_nonneg n, Int.ofNat_lt.mpr small⟩
    show (if (0 : Int) ≤ n ∧ (n : Int) < Nat.pow 2 bits then _ else _) = _
    rw [if_pos bound]
    rfl

theorem eq_of_unsigned {bits n : Nat} {j : Json} (read : unsigned bits j = .ok n) :
    j = .nat n ∧ n < 2 ^ bits := by
  unfold unsigned at read
  split at read
  · rename_i m
    split at read
    · rename_i bound
      obtain ⟨nonneg, small⟩ := bound
      injection read with same
      subst same
      have power : ((Nat.pow 2 bits : Nat) : Int) = ((2 ^ bits : Nat) : Int) := rfl
      refine ⟨?_, by omega⟩
      rw [nat, Int.toNat_of_nonneg nonneg]
    · cases read
  · cases read

/-- A number that was read is spelt by its digits. -/
theorem Yields.unsigned {bits n : Nat} (yields : (unsigned bits).Yields n) (word : bits ≤ 64) :
    (Decoder.unsigned bits).Spells (.nat n) n := by
  obtain ⟨j, -, read⟩ := yields
  exact spells_unsigned (eq_of_unsigned read).2 word

theorem mapM_map_eq_ok {γ : Type} {f : β → Except DecodeError γ} {g : α → β} {h : α → γ}
    {l : List α} (each : ∀ a ∈ l, f (g a) = .ok (h a)) : (l.map g).mapM f = .ok (l.map h) := by
  induction l with
  | nil => rfl
  | cons a l ih =>
    rw [List.map_cons, List.mapM_cons, each a List.mem_cons_self,
      ih fun b member => each b (List.mem_cons_of_mem _ member)]
    rfl

theorem forall₂_of_mapM_eq_ok {f : α → Except DecodeError β} {l : List α} {bs : List β}
    (read : l.mapM f = .ok bs) : List.Forall₂ (fun a b => f a = .ok b) l bs := by
  induction l generalizing bs with
  | nil =>
    injection read with same
    subst same
    exact .nil
  | cons a l ih =>
    rw [List.mapM_cons] at read
    obtain ⟨c, first, read⟩ := exists_of_bind_eq_ok read
    obtain ⟨cs, rest, read⟩ := exists_of_bind_eq_ok read
    injection read with same
    subst same
    exact .cons first (ih rest)

theorem mem_of_mapM_eq_ok {f : α → Except DecodeError β} {l : List α} {bs : List β}
    (read : l.mapM f = .ok bs) {b : β} (member : b ∈ bs) : ∃ a ∈ l, f a = .ok b := by
  have pairs := forall₂_of_mapM_eq_ok read
  clear read
  induction pairs with
  | nil => cases member
  | cons first _ ih =>
    rcases List.mem_cons.mp member with rfl | later
    · exact ⟨_, List.mem_cons_self, first⟩
    · obtain ⟨a, source, found⟩ := ih later
      exact ⟨a, List.mem_cons_of_mem _ source, found⟩

/-- Items that are read as others are spelt by a list that is read as theirs. -/
theorem spells_list_map {decode : Decoder α} {write : β → Json} (fix : β → α) {l : List β}
    (each : ∀ b ∈ l, decode.Spells (write b) (fix b)) :
    (list decode).Spells (.arr (l.map write)) (l.map fix) := by
  refine ⟨.arr fun j member => ?_, ?_⟩
  · obtain ⟨b, source, rfl⟩ := List.mem_map.mp member
    exact (each b source).1
  · rw [normal_arr, List.map_map]
    exact mapM_map_eq_ok fun b member => (each b member).2

theorem spells_list {decode : Decoder α} {write : α → Json} {l : List α}
    (each : ∀ a ∈ l, decode.Spells (write a) a) : (list decode).Spells (.arr (l.map write)) l := by
  have spelt := spells_list_map id each
  rwa [List.map_id] at spelt

theorem spells_strings (l : List String) : (list text).Spells (.strings l) l :=
  spells_list fun s _ => spells_text s

theorem Yields.list {decode : Decoder α} {l : List α} (yields : (list decode).Yields l) :
    ∀ a ∈ l, decode.Yields a := by
  intro a member
  obtain ⟨j, sound, read⟩ := yields
  cases j <;> try cases read
  rename_i items
  obtain ⟨i, source, found⟩ := mem_of_mapM_eq_ok read member
  exact ⟨i, sound.item source, found⟩

/-! ### Dictionaries -/

theorem spells_dictionary {l : List (String × String)} (ascending : Ascending l) :
    (dictionary text).Spells (.obj (l.map fun f => (f.1, .str f.2))) l := by
  refine ⟨.obj fun f member => ?_, ?_⟩
  · obtain ⟨g, -, rfl⟩ := List.mem_map.mp member
    exact .str g.2
  · have ordered : Ascending (l.map fun f => (f.1, Json.str f.2)) := List.pairwise_map.mpr ascending
    have same : ((l.map fun f => (f.1, Json.str f.2)).map fun f => (f.1, f.2.normal)) =
        l.map fun f => (f.1, Json.str f.2) := by
      rw [List.map_map]
      rfl
    rw [normal_obj, same, sortFields_of_ascending ordered]
    have read := mapM_map_eq_ok (f := fun f => return (f.1, ← text f.2))
      (g := fun f : String × String => (f.1, Json.str f.2)) (h := id) (l := l) fun f _ => rfl
    rwa [List.map_id] at read

theorem ascending_of_yields_dictionary {decode : Decoder α} {l : List (String × α)}
    (yields : (dictionary decode).Yields l) : Ascending l := by
  obtain ⟨j, sound, read⟩ := yields
  cases j <;> try cases read
  rename_i fields
  have keys : fields.map (·.1) = l.map (·.1) := by
    rw [← List.forall₂_eq_eq_eq, List.forall₂_map_left_iff, List.forall₂_map_right_iff]
    refine (forall₂_of_mapM_eq_ok read).imp fun f g entry => ?_
    obtain ⟨a, -, entry⟩ := exists_of_bind_eq_ok entry
    injection entry with same
    rw [← same]
  have ascending := List.pairwise_map.mpr sound.ascending
  rw [keys] at ascending
  exact List.pairwise_map.mp ascending

theorem nullable_of_ne_null (decode : Decoder α) {j : Json} (present : j ≠ .null) :
    nullable decode j = some <$> decode j := by
  cases j <;> first | contradiction | rfl

theorem ne_null_of_nullable {decode : Decoder α} {j : Json} {a : α}
    (read : nullable decode j = .ok (some a)) : j ≠ .null ∧ decode j = .ok a := by
  by_cases null : j = .null
  · subst null
    cases read
  · rw [nullable_of_ne_null decode null] at read
    obtain ⟨b, value, same⟩ := exists_of_map_eq_ok read
    injection same with same
    exact ⟨null, same ▸ value⟩

theorem normal_ne_null {j : Json} (present : j ≠ .null) : j.normal ≠ .null := by
  cases j <;> first | contradiction | (intro null; cases null)

theorem spells_nullable {decode : Decoder α} {j : Json} {a : α} (spells : decode.Spells j a)
    (present : j ≠ .null) : (nullable decode).Spells j (some a) := by
  refine ⟨spells.1, ?_⟩
  rw [nullable_of_ne_null decode (normal_ne_null present), spells.2]
  rfl

end Decoder

/-! ### Records -/

namespace Fields

variable {entries : List (String × Json)}

/-- Records in which the keys have the written values are read as `a`. -/
structure Keeps (fields : Fields α) (a : α) (written : List (String × Option Json)) : Prop where
  keys : fields.keys = written.map (·.1)
  legible : ∀ f ∈ written, ∀ j ∈ f.2, j.Legible
  reads : ∀ entries : List (String × Json),
    (∀ f ∈ written, entries.lookup f.1 = f.2.map normal) → fields.read entries = .ok a

/-- The entries of a record, which an array lists in the order of the keys. -/
def entriesOf (fields : Fields α) : Json → List (String × Json)
  | .obj entries => entries
  | .arr items => fields.keys.zip items
  | _ => []

/-- What was read as a record, was read from its entries. -/
theorem read_entriesOf {name : String} {fields : Fields α} {j : Json} {a : α}
    (read : decode name fields j = .ok a) : fields.read (fields.entriesOf j) = .ok a := by
  unfold decode at read
  split at read
  · split at read
    · rename_i b found
      injection read with same
      exact same ▸ found
    · cases read
  · simp only at read
    split at read
    · rename_i b found
      split at read
      · injection read with same
        exact same ▸ found
      · cases read
    · cases read
  · cases read

theorem read_of_decode_obj {name : String} {fields : Fields α} {a : α}
    (read : decode name fields (.obj entries) = .ok a) :
    ∃ b, fields.read entries = .ok b ∧ b = a :=
  ⟨a, read_entriesOf read, rfl⟩

/-- What was read as a record, was read from fields with sound values. -/
theorem exists_entries {name : String} {fields : Fields α} {a : α}
    (yields : (decode name fields).Yields a) :
    ∃ entries : List (String × Json), (∀ e ∈ entries, e.2.Sound) ∧
      ∃ b, fields.read entries = .ok b ∧ b = a := by
  obtain ⟨j, sound, read⟩ := yields
  refine ⟨fields.entriesOf j, fun e member => ?_, a, read_entriesOf read, rfl⟩
  cases j with
  | obj entries => exact sound.field member
  | arr items => exact sound.item (List.of_mem_zip member).2
  | _ => cases member

/-! What was read, field by field -/

theorem exists_read_seq {f : Fields (α → β)} {x : Fields α} {P : β → Prop} :
    (∃ b, (f <*> x).read entries = .ok b ∧ P b) ↔
      ∃ g, f.read entries = .ok g ∧ ∃ a, x.read entries = .ok a ∧ P (g a) := by
  show (∃ b, (f.read entries).both (x.read entries) = .ok b ∧ P b) ↔ _
  cases f.read entries <;> cases x.read entries <;> simp [Reading.both]

theorem exists_read_map {g : α → β} {x : Fields α} {P : β → Prop} :
    (∃ b, (g <$> x).read entries = .ok b ∧ P b) ↔
      ∃ a, x.read entries = .ok a ∧ P (g a) := by
  show (∃ b, Reading.both (.ok g) (x.read entries) = .ok b ∧ P b) ↔ _
  cases x.read entries <;> simp [Reading.both]

theorem mem_of_lookup_eq_some {key : String} {j : Json} (found : entries.lookup key = some j) :
    (key, j) ∈ entries := by
  obtain ⟨before, after, rfl, -⟩ := List.lookup_eq_some_iff.mp found
  exact List.mem_append_right _ List.mem_cons_self

/-- A field that was read is absent, or has a value that was read. -/
theorem cases_of_optional {key : String} {absent : Reading α} {d : Decoder α} {a : α}
    (read : (optional key absent d).read entries = .ok a) :
    entries.lookup key = none ∧ absent = .ok a ∨
      ∃ j, entries.lookup key = some j ∧ d j = .ok a := by
  simp only [optional] at read
  split at read
  · rename_i missing
    exact Or.inl ⟨missing, read⟩
  · rename_i j found
    split at read
    · rename_i b value
      injection read with same
      subst same
      exact Or.inr ⟨j, found, value⟩
    · cases read

theorem lookup_of_optional {key : String} {absent : Reading α} {d : Decoder α} {a : α}
    (read : (optional key absent d).read entries = .ok a) :
    absent = .ok a ∨ ∃ j, entries.lookup key = some j ∧ d j = .ok a :=
  (cases_of_optional read).imp And.right id

theorem yields_of_optional {key : String} {absent : Reading α} {d : Decoder α} {a : α}
    (sound : ∀ e ∈ entries, e.2.Sound) (read : (optional key absent d).read entries = .ok a) :
    absent = .ok a ∨ d.Yields a := by
  rcases lookup_of_optional read with none | ⟨j, found, value⟩
  · exact Or.inl none
  · exact Or.inr ⟨j, sound _ (mem_of_lookup_eq_some found), value⟩

/-- A field with a default has that or a value that was read. -/
theorem yields_of_default {key : String} {value : α} {d : Decoder α} {a : α}
    (sound : ∀ e ∈ entries, e.2.Sound) (read : (default key value d).read entries = .ok a) :
    a = value ∨ d.Yields a := by
  rcases yields_of_optional sound read with absent | yields
  · injection absent with same
    exact Or.inl same.symm
  · exact Or.inr yields

/-- A required field has a value that was read. -/
theorem yields_of_required {key : String} {d : Decoder α} {a : α}
    (sound : ∀ e ∈ entries, e.2.Sound) (read : (required key d).read entries = .ok a) :
    d.Yields a := by
  rcases yields_of_optional sound read with absent | yields
  · cases absent
  · exact yields

theorem lookup_of_maybe {key : String} {d : Decoder α} {o : Option α}
    (read : (maybe key d).read entries = .ok o) :
    ∀ a ∈ o, ∃ j, entries.lookup key = some j ∧ j ≠ .null ∧ d j = .ok a := by
  intro a member
  cases member
  rcases lookup_of_optional read with absent | ⟨j, found, value⟩
  · cases absent
  · exact ⟨j, found, Decoder.ne_null_of_nullable value⟩

/-- A field that may be left out has no value, or one that was read. -/
theorem yields_of_maybe {key : String} {d : Decoder α} {o : Option α}
    (sound : ∀ e ∈ entries, e.2.Sound) (read : (maybe key d).read entries = .ok o) :
    ∀ a ∈ o, ∃ j, j.Sound ∧ j ≠ .null ∧ d j = .ok a := by
  intro a member
  obtain ⟨j, found, present, value⟩ := lookup_of_maybe read a member
  exact ⟨j, sound _ (mem_of_lookup_eq_some found), present, value⟩

/-! What is written, field by field -/

theorem Keeps.seq {f : Fields (α → β)} {x : Fields α} {g : α → β} {a : α}
    {before after : List (String × Option Json)} (left : f.Keeps g before)
    (right : x.Keeps a after) : (f <*> x).Keeps (g a) (before ++ after) where
  keys := by
    rw [List.map_append, ← left.keys, ← right.keys]
    rfl
  legible e member := (List.mem_append.mp member).elim (left.legible e) (right.legible e)
  reads entries written := by
    show (f.read entries).both (x.read entries) = .ok (g a)
    rw [left.reads entries fun e member => written e (List.mem_append_left _ member),
      right.reads entries fun e member => written e (List.mem_append_right _ member)]
    rfl

theorem Keeps.map {x : Fields α} {a : α} {written : List (String × Option Json)}
    (keeps : x.Keeps a written) (g : α → β) : (g <$> x).Keeps (g a) written where
  keys := keeps.keys
  legible := keeps.legible
  reads entries found := by
    show Reading.both (.ok g) (x.read entries) = .ok (g a)
    rw [keeps.reads entries found]
    rfl

theorem keeps_some {key : String} {absent : Reading α} {d : Decoder α} {j : Json} {a : α}
    (spells : d.Spells j a) : (optional key absent d).Keeps a [(key, some j)] where
  keys := rfl
  legible e member i found := by
    cases List.mem_singleton.mp member
    injection found with same
    exact same ▸ spells.1
  reads entries written := by
    have found := written _ (List.mem_singleton.mpr rfl)
    simp only [Option.map_some] at found
    simp only [optional, found, spells.2]

theorem keeps_none {key : String} {d : Decoder α} {a : α} :
    (default key a d).Keeps a [(key, none)] where
  keys := rfl
  legible e member i found := by
    cases List.mem_singleton.mp member
    cases found
  reads entries written := by
    have absent := written _ (List.mem_singleton.mpr rfl)
    simp only [Option.map_none] at absent
    simp only [default, optional, absent]

/-- A field with a default keeps that and whatever was read. -/
theorem keeps_default {key : String} {value : α} {d : Decoder α} {a : α} (write : α → Json)
    (sound : ∀ e ∈ entries, e.2.Sound) (read : (default key value d).read entries = .ok a)
    (base : d.Spells (write value) value) (each : d.Yields a → d.Spells (write a) a) :
    (default key value d).Keeps a [(key, some (write a))] := by
  rcases yields_of_default sound read with rfl | yields
  · exact keeps_some base
  · exact keeps_some (each yields)

theorem keeps_unsigned {key : String} {value bits n : Nat} (sound : ∀ e ∈ entries, e.2.Sound)
    (read : (default key value (Decoder.unsigned bits)).read entries = .ok n)
    (small : value < 2 ^ bits) (word : bits ≤ 64) :
    (default key value (Decoder.unsigned bits)).Keeps n [(key, some (.nat n))] :=
  keeps_default .nat sound read (Decoder.spells_unsigned small word) (·.unsigned word)

theorem keeps_list {key : String} {d : Decoder α} {l : List α} {write : α → Json}
    (sound : ∀ e ∈ entries, e.2.Sound)
    (read : (default key [] (Decoder.list d)).read entries = .ok l)
    (each : ∀ a ∈ l, d.Yields a → d.Spells (write a) a) :
    (default key [] (Decoder.list d)).Keeps l [(key, some (.arr (l.map write)))] :=
  keeps_default (fun l => .arr (l.map write)) sound read (Decoder.spells_list (by simp)) fun yields =>
    Decoder.spells_list fun a member => each a member (yields.list a member)

theorem keeps_maybe {key : String} {d : Decoder α} (write : α → Json) {o : Option α}
    (each : ∀ a ∈ o, d.Spells (write a) a ∧ write a ≠ .null) :
    (maybe key d).Keeps o [(key, o.map write)] := by
  cases o with
  | none => exact keeps_none
  | some a =>
    obtain ⟨spells, present⟩ := each a rfl
    exact keeps_some (Decoder.spells_nullable spells present)

theorem keeps_maybe_text {key : String} (o : Option String) :
    (maybe key Decoder.text).Keeps o [(key, o.map .str)] :=
  keeps_maybe .str fun s _ => ⟨Decoder.spells_text s, nofun⟩

theorem keeps_maybe_unsigned {key : String} {bits : Nat} {o : Option Nat}
    (sound : ∀ e ∈ entries, e.2.Sound)
    (read : (maybe key (Decoder.unsigned bits)).read entries = .ok o) (word : bits ≤ 64) :
    (maybe key (Decoder.unsigned bits)).Keeps o [(key, o.map .nat)] := by
  refine keeps_maybe .nat fun n member => ⟨?_, nofun⟩
  obtain ⟨j, legible, -, value⟩ := yields_of_maybe sound read n member
  exact Decoder.Yields.unsigned ⟨j, legible, value⟩ word

/-- A record with the kept fields is read back. -/
theorem Keeps.spells {name : String} {fields : Fields α} {a : α} {j : Json}
    {written : List (String × Option Json)} (keeps : fields.Keeps a written)
    (distinct : fields.keys.Nodup) (form : .record written = j) :
    (decode name fields).Spells j a := by
  subst form
  rw [keeps.keys] at distinct
  refine ⟨.obj fun f member => ?_, ?_⟩
  · obtain ⟨g, source, found⟩ := List.mem_filterMap.mp member
    obtain ⟨j, value, rfl⟩ := Option.map_eq_some_iff.mp found
    exact keeps.legible g source j value
  · have read : fields.read (normalRecord written) = .ok a := keeps.reads _ fun f member => by
      rw [lookup_normalRecord distinct, lookup_eq_some_of_mem distinct member]
      rfl
    rw [normal_record]
    simp only [decode, read]

end Fields

end ApiGraph
