import ApiGraph.Backend.Names
import ApiGraph.Proofs.Fresh
import ApiGraph.Proofs.Json.Record

namespace ApiGraph.Backend

open Text

theorem mem_keys_iff {n : ModelNames} {key : String} :
    key ∈ n.keys ↔ key = "ident:" ++ asciiLower n.ident ∨ key = "type:" ++ asciiLower n.type ∨
      key = "stem:" ++ asciiLower n.stem := by
  simp [ModelNames.keys]

theorem kinds_apart (a b : String) :
    "ident:" ++ a ≠ "type:" ++ b ∧ "ident:" ++ a ≠ "stem:" ++ b ∧ "type:" ++ a ≠ "stem:" ++ b := by
  refine ⟨fun same => ?_, fun same => ?_, fun same => ?_⟩ <;>
    have first := congrArg (·.toList.head?) same <;>
    simp [String.toList_append] at first

theorem eq_of_prefixed {kind a b : String} (same : kind ++ a = kind ++ b) : a = b := by
  have chars := congrArg String.toList same
  rw [String.toList_append, String.toList_append] at chars
  exact String.toList_inj.mp (List.append_cancel_left chars)

/-- Models share a key exactly if they share a name of one kind. -/
theorem keys_shared_iff {a b : ModelNames} :
    (∃ key ∈ a.keys, key ∈ b.keys) ↔ asciiLower a.ident = asciiLower b.ident ∨
      asciiLower a.type = asciiLower b.type ∨ asciiLower a.stem = asciiLower b.stem := by
  constructor
  · rintro ⟨key, left, right⟩
    rw [mem_keys_iff] at left right
    rcases left with rfl | rfl | rfl <;> rcases right with same | same | same
    · exact .inl (eq_of_prefixed same)
    · exact absurd same (kinds_apart _ _).1
    · exact absurd same (kinds_apart _ _).2.1
    · exact absurd same.symm (kinds_apart _ _).1
    · exact .inr (.inl (eq_of_prefixed same))
    · exact absurd same (kinds_apart _ _).2.2
    · exact absurd same.symm (kinds_apart _ _).2.1
    · exact absurd same.symm (kinds_apart _ _).2.2
    · exact .inr (.inr (eq_of_prefixed same))
  · rintro (same | same | same)
    · exact ⟨_, mem_keys_iff.mpr (.inl rfl), mem_keys_iff.mpr (.inl (by rw [same]))⟩
    · exact ⟨_, mem_keys_iff.mpr (.inr (.inl rfl)), mem_keys_iff.mpr (.inr (.inl (by rw [same])))⟩
    · exact ⟨_, mem_keys_iff.mpr (.inr (.inr rfl)), mem_keys_iff.mpr (.inr (.inr (by rw [same])))⟩

/-- A key is that of one candidate at most. -/
theorem candidate_unique {base : ModelNames} {n m : Nat} {key : String}
    (left : key ∈ (base.numbered n).keys) (right : key ∈ (base.numbered m).keys) : n = m := by
  rcases keys_shared_iff.mp ⟨key, left, right⟩ with same | same | same
  · exact Naming.numbered_lower_injective same
  · exact Naming.numbered_lower_injective same
  · exact Naming.numbered_lower_injective same

theorem nameFrom_models (taken : List (String × String)) (models : List Model) :
    (nameFrom taken models).map (·.model) = models := by
  induction models generalizing taken with
  | nil => rfl
  | cons m ms ih => rw [nameFrom, List.map_cons, ih]; rfl

theorem nameModels_models (models : List Model) : (nameModels models).map (·.model) = models :=
  nameFrom_models [] models

def takenBy (named : List NamedModel) : List (String × String) :=
  named.flatMap fun x => x.names.keys.map (·, x.model.name)

/-- More models are named after the others, which keep their names. -/
theorem nameFrom_append (taken : List (String × String)) (models more : List Model) :
    nameFrom taken (models ++ more) =
      nameFrom taken models ++ nameFrom (taken ++ takenBy (nameFrom taken models)) more := by
  induction models generalizing taken with
  | nil => simp [nameFrom, takenBy]
  | cons m models ih =>
    rw [List.cons_append, nameFrom, nameFrom, ih, List.append_assoc]
    rfl

theorem eq_nameModel_of_split {models : List Model} {earlier later : List NamedModel}
    {x : NamedModel} (split : nameModels models = earlier ++ x :: later) :
    earlier = nameModels (earlier.map (·.model)) ∧ x = nameModel (takenBy earlier) x.model := by
  have before : models = earlier.map (·.model) ++ x.model :: later.map (·.model) := by
    rw [← nameModels_models models, split, List.map_append, List.map_cons]
  have named := split
  rw [before, nameModels, nameFrom_append] at named
  have size : (nameFrom [] (earlier.map (·.model))).length = earlier.length := by
    rw [← List.length_map (·.model), nameFrom_models, List.length_map]
  obtain ⟨front, rest⟩ := List.append_inj named size
  rw [front, List.nil_append, nameFrom] at rest
  exact ⟨front.symm, (List.cons.inj rest).1.symm⟩

theorem owner_eq_none_iff {taken : List (String × String)} {n : ModelNames} :
    owner? taken n = none ↔ ∀ key ∈ n.keys, key ∉ taken.map (·.1) := by
  unfold owner?
  rw [List.findSome?_eq_none_iff]
  refine forall_congr' fun key => imp_congr_right fun _ => ?_
  constructor
  · intro absent member
    obtain ⟨f, present, rfl⟩ := List.mem_map.mp member
    have different := List.lookup_eq_none_iff.mp absent f present
    simp at different
  · exact Json.lookup_eq_none_of_not_mem

/-- Not all candidates have a taken key. -/
theorem exists_free_candidate (taken : List (String × String)) (base : ModelNames) :
    ∃ n ≤ taken.length, (owner? taken (base.numbered n)).isNone = true := by
  rw [← List.length_map (·.1)]
  refine Naming.exists_free (fun n key => key ∈ (base.numbered n).keys) (fun n blocked => ?_)
    candidate_unique
  by_contra unblocked
  have fresh : owner? taken (base.numbered n) = none :=
    owner_eq_none_iff.mpr fun key member present => unblocked ⟨key, present, member⟩
  simp [fresh] at blocked

theorem nameModel_fresh (taken : List (String × String)) (m : Model) :
    ∀ key ∈ (nameModel taken m).names.keys, key ∉ taken.map (·.1) := by
  have isFree := Naming.firstFree_free (exists_free_candidate taken (.ofName m.name))
  exact owner_eq_none_iff.mp (Option.isNone_iff_eq_none.mp isFree)

/-- The keys of names given later are neither taken before nor shared among them. -/
theorem nameFrom_apart (taken : List (String × String)) (models : List Model) :
    (∀ n ∈ nameFrom taken models, ∀ key ∈ n.names.keys, key ∉ taken.map (·.1)) ∧
      (nameFrom taken models).Pairwise fun a b => ∀ key ∈ b.names.keys, key ∉ a.names.keys := by
  induction models generalizing taken with
  | nil => exact ⟨fun _ member => absurd member List.not_mem_nil, List.Pairwise.nil⟩
  | cons m models ih =>
    rw [nameFrom]
    obtain ⟨fresh, apart⟩ := ih (taken ++ (nameModel taken m).names.keys.map (·, m.name))
    simp only [List.map_append, List.map_map, List.mem_append, not_or] at fresh
    constructor
    · intro n member
      rcases List.mem_cons.mp member with rfl | later
      · exact nameModel_fresh taken m
      · exact fun key inside => (fresh n later key inside).1
    · refine List.pairwise_cons.mpr ⟨fun n later key inside present => ?_, apart⟩
      exact (fresh n later key inside).2 (List.mem_map.mpr ⟨key, present, rfl⟩)

theorem keys_apart (models : List Model) :
    (nameModels models).Pairwise fun a b => ∀ key ∈ b.names.keys, key ∉ a.names.keys :=
  (nameFrom_apart [] models).2

/-- No two models share what a key is made of. -/
theorem names_nodup {kind : String} {get name : ModelNames → String}
    (isKey : ∀ n : ModelNames, kind ++ asciiLower (get n) ∈ n.keys)
    (tells : ∀ a b, name a = name b → get a = get b) (models : List Model) :
    ((nameModels models).map (name ·.names)).Nodup := by
  rw [List.nodup_iff_pairwise_ne, List.pairwise_map]
  refine (keys_apart models).imp fun {a b} apart same => ?_
  have shared := isKey a.names
  rw [tells _ _ same] at shared
  exact apart _ (isKey b.names) shared

theorem stems_nodup (models : List Model) : ((nameModels models).map (·.names.stem)).Nodup :=
  names_nodup (fun _ => mem_keys_iff.mpr (.inr (.inr rfl))) (fun _ _ same => same) models

theorem types_nodup (models : List Model) : ((nameModels models).map (·.names.type)).Nodup :=
  names_nodup (fun _ => mem_keys_iff.mpr (.inr (.inl rfl))) (fun _ _ same => same) models

theorem eq_of_repository_eq {models : List Model} {a b : NamedModel} (left : a ∈ nameModels models)
    (right : b ∈ nameModels models) (same : a.names.repository = b.names.repository) : a = b := by
  have tells : ∀ a b : ModelNames, a.repository = b.repository → a.ident = b.ident := by
    intro a b same
    have chars := congrArg String.toList same
    simp only [ModelNames.repository, String.toList_append] at chars
    exact String.toList_inj.mp (List.append_cancel_right chars)
  have idents : ((nameModels models).map (·.names.repository)).Nodup :=
    names_nodup (fun _ => mem_keys_iff.mpr (.inl rfl)) tells models
  exact List.inj_on_of_nodup_map idents left right same

theorem not_mem_of_suffix {suffix : String} {names : List String}
    (none : ∀ name ∈ names, suffix.toList.isSuffixOf name.toList = false) (stem : String) :
    stem ++ suffix ∉ names := by
  intro member
  have ends : suffix.toList.isSuffixOf (stem ++ suffix).toList = true := by
    rw [String.toList_append, List.isSuffixOf_iff_suffix]
    exact List.suffix_append _ _
  exact absurd ends (by rw [none _ member]; exact Bool.false_ne_true)

theorem exists_numbered {models : List Model} {m : NamedModel} (member : m ∈ nameModels models) :
    ∃ n, m.names = (ModelNames.ofName m.model.name).numbered n := by
  have each : ∀ taken, m ∈ nameFrom taken models →
      ∃ n, m.names = (ModelNames.ofName m.model.name).numbered n := by
    clear member
    induction models with
    | nil => exact fun _ member => absurd member List.not_mem_nil
    | cons first rest ih =>
      intro taken member
      rcases List.mem_cons.mp member with rfl | later
      · exact ⟨_, rfl⟩
      · exact ih _ later
  exact each [] member

theorem mem_numbered {base joint : String} {n : Nat} {c : Char}
    (member : c ∈ (Naming.numbered base joint n).toList) :
    c ∈ base.toList ∨ c ∈ joint.toList ∨ c.isDigit = true := by
  unfold Naming.numbered at member
  split at member
  · exact Or.inl member
  · simp only [String.toList_append, List.mem_append] at member
    rcases member with (inBase | inJoint) | digit
    · exact Or.inl inBase
    · exact Or.inr (Or.inl inJoint)
    · rw [Nat.toString_eq_repr, Nat.toList_repr] at digit
      exact Or.inr (Or.inr (Digits.allDigits_ofNat _ c digit))

theorem stem_no_slash {models : List Model} {m : NamedModel} (member : m ∈ nameModels models) :
    '/' ∉ m.names.stem.toList := by
  obtain ⟨n, names⟩ := exists_numbered member
  rw [names]
  intro slash
  rcases mem_numbered slash with inBase | inJoint | digit
  · rcases Naming.mem_snake_identifier inBase with alnum | joint
    · exact absurd alnum (by decide)
    · exact absurd joint (by decide)
  · exact absurd inJoint (by decide)
  · exact absurd digit (by decide)

theorem ident_plain {models : List Model} {m : NamedModel} (member : m ∈ nameModels models) :
    isPlainIdent m.names.ident.toList = true := by
  obtain ⟨n, names⟩ := exists_numbered member
  have plain := Naming.identifier_plain m.model.name
  rw [names]
  show isPlainIdent (Naming.numbered (Naming.identifier m.model.name) "" n).toList = true
  rw [Naming.toList_numbered]
  refine Naming.plain_append plain (List.all_eq_true.mpr fun c inside => ?_)
  split at inside
  · exact absurd inside List.not_mem_nil
  · simp [isIdentRest, Digits.allDigits_ofNat _ c inside]

theorem repository_plain {models : List Model} {m : NamedModel} (member : m ∈ nameModels models) :
    isPlainIdent m.names.repository.toList = true := by
  rw [ModelNames.repository, String.toList_append]
  exact Naming.plain_append (ident_plain member) (by decide)

end ApiGraph.Backend
