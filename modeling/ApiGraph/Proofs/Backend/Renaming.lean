import ApiGraph.Proofs.Backend.Names
import ApiGraph.Proofs.Naming.Spelling

/-!
# Renaming of models

Models are named one after the other. A model gets the names it would like to have unless one of
them clashes with a name of an earlier model; then it gets the first number without a clash, and a
warning (`models_named`).
-/

namespace ApiGraph

open Text

def Text.lowercase (s : String) : String := String.ofList (s.toList.flatMap lowerChars)

def Text.IsNameChar (c : Char) : Prop := isAsciiAlnum c = true ∨ c = '_'

theorem Text.lowercase_eq_asciiLower {s : String} (plain : ∀ c ∈ s.toList, IsNameChar c) :
    lowercase s = asciiLower s := by
  have each : ∀ c ∈ s.toList, lowerChars c = [c.toLower] := by
    intro c member
    rcases plain c member with alnum | rfl
    · exact lowerChars_alnum alnum
    · decide
  rw [lowercase, asciiLower, List.flatMap_congr each, List.map_eq_flatMap]

namespace Backend

/-- Two models clash that share a name of one kind in small letters. -/
def Clash (a b : ModelNames) : Prop :=
  lowercase a.ident = lowercase b.ident ∨ lowercase a.type = lowercase b.type ∨
    lowercase a.stem = lowercase b.stem

namespace ModelNames

structure Plain (n : ModelNames) : Prop where
  ident : ∀ c ∈ n.ident.toList, IsNameChar c
  type : ∀ c ∈ n.type.toList, IsNameChar c
  stem : ∀ c ∈ n.stem.toList, IsNameChar c

theorem plain_ofName (name : String) : (ofName name).Plain where
  ident _ member := Naming.mem_identifier member
  type c member := by
    obtain ⟨d, rest, -, alnum, -, spelled⟩ := Naming.exists_spelling name.toList
    have chars : (ofName name).type.toList = d.toUpper :: rest := by
      simp [ofName, Naming.pascal, Naming.identifier, spelled]
    rw [chars] at member
    obtain ⟨letter, inner⟩ := List.forall_mem_cons.mp alnum
    rcases List.mem_cons.mp member with rfl | later
    · exact .inl (alnum_upper letter)
    · exact .inl (inner c later)
  stem _ member := (Naming.mem_snake_identifier member).imp_left And.left

theorem nameChar_numbered {base joint : String} {n : Nat}
    (plainBase : ∀ c ∈ base.toList, IsNameChar c) (plainJoint : ∀ c ∈ joint.toList, IsNameChar c) :
    ∀ c ∈ (Naming.numbered base joint n).toList, IsNameChar c := by
  intro c member
  rcases mem_numbered member with inBase | inJoint | digit
  · exact plainBase c inBase
  · exact plainJoint c inJoint
  · exact .inl (by simp [isAsciiAlnum, digit])

theorem Plain.numbered {base : ModelNames} (plain : base.Plain) (n : Nat) :
    (base.numbered n).Plain where
  ident := nameChar_numbered plain.ident (by simp)
  type := nameChar_numbered plain.type (by simp)
  stem := nameChar_numbered plain.stem fun c member =>
    .inr (by simpa using member)

/-- Names clash exactly if they have a key in common. -/
theorem Plain.clash_iff {a b : ModelNames} (left : a.Plain) (right : b.Plain) :
    Clash a b ↔ ∃ key ∈ a.keys, key ∈ b.keys := by
  unfold Clash
  rw [lowercase_eq_asciiLower left.ident, lowercase_eq_asciiLower left.type,
    lowercase_eq_asciiLower left.stem, lowercase_eq_asciiLower right.ident,
    lowercase_eq_asciiLower right.type, lowercase_eq_asciiLower right.stem]
  exact keys_shared_iff.symm

end ModelNames

namespace NamedModel

def wanted (x : NamedModel) : ModelNames := .ofName x.model.name

/-- How a model is named after others. A search for a number without a clash gives its names. If it
is renamed, a warning names a model that it would have clashed with. -/
structure After (earlier : List NamedModel) (x : NamedModel) : Prop where
  numbered : ∃ n ≤ 3 * earlier.length,
    Naming.Finds (fun k => ∀ e ∈ earlier, ¬ Clash (x.wanted.numbered k) e.names) 0 n ∧
      x.names = x.wanted.numbered n
  keeps_iff : x.names = x.wanted ↔ ∀ e ∈ earlier, ¬ Clash x.wanted e.names
  silent : x.names = x.wanted → x.warning? = none
  warned : x.names ≠ x.wanted → ∃ e ∈ earlier, Clash x.wanted e.names ∧
    x.warning? = some (.modelNameCollision x.model.name e.model.name x.names.type)

end NamedModel

theorem plain_of_mem {models : List Model} {x : NamedModel} (member : x ∈ nameModels models) :
    x.names.Plain := by
  obtain ⟨n, names⟩ := exists_numbered member
  rw [names]
  exact (ModelNames.plain_ofName _).numbered n

theorem mem_takenBy {named : List NamedModel} {key name : String} :
    (key, name) ∈ takenBy named ↔ ∃ e ∈ named, key ∈ e.names.keys ∧ e.model.name = name := by
  simp [takenBy]

theorem length_takenBy (named : List NamedModel) :
    (takenBy named).length = 3 * named.length := by
  induction named with
  | nil => rfl
  | cons x named ih =>
    have keys : (takenBy (x :: named)).length = x.names.keys.length + (takenBy named).length := by
      simp [takenBy]
    rw [keys, ih, List.length_cons]
    show 3 + 3 * named.length = _
    omega

section

variable {named : List NamedModel} {n : ModelNames}

theorem owner_takenBy_eq_none_iff (given : ∀ e ∈ named, e.names.Plain) (plain : n.Plain) :
    owner? (takenBy named) n = none ↔ ∀ e ∈ named, ¬ Clash n e.names := by
  rw [owner_eq_none_iff]
  constructor
  · intro free e member clash
    obtain ⟨key, own, other⟩ := (plain.clash_iff (given e member)).mp clash
    exact free key own (List.mem_map_of_mem (mem_takenBy.mpr ⟨e, member, other, rfl⟩))
  · intro clear key own taken
    obtain ⟨⟨_, name⟩, present, rfl⟩ := List.mem_map.mp taken
    obtain ⟨e, member, other, -⟩ := mem_takenBy.mp present
    exact clear e member ((plain.clash_iff (given e member)).mpr ⟨_, own, other⟩)

theorem exists_clash_of_owner (given : ∀ e ∈ named, e.names.Plain) (plain : n.Plain) {name : String}
    (owned : owner? (takenBy named) n = some name) :
    ∃ e ∈ named, Clash n e.names ∧ e.model.name = name := by
  obtain ⟨key, own, found⟩ := List.exists_of_findSome?_eq_some owned
  obtain ⟨before, after, split, -⟩ := List.lookup_eq_some_iff.mp found
  have present : (key, name) ∈ takenBy named := by simp [split]
  obtain ⟨e, member, other, same⟩ := mem_takenBy.mp present
  exact ⟨e, member, (plain.clash_iff (given e member)).mpr ⟨key, own, other⟩, same⟩

end

theorem numbered_zero (base : ModelNames) : base.numbered 0 = base := rfl

theorem nameModel_names_eq_iff (taken : List (String × String)) (m : Model) :
    (nameModel taken m).names = .ofName m.name ↔ owner? taken (.ofName m.name) = none := by
  constructor
  · intro same
    have fresh := nameModel_fresh taken m
    rw [same] at fresh
    exact owner_eq_none_iff.mpr fresh
  · intro free
    have first : (Naming.firstFree taken.length fun n =>
        (owner? taken ((ModelNames.ofName m.name).numbered n)).isNone) = 0 := by
      rw [Naming.firstFree, List.range_succ_eq_map, List.find?_cons_of_pos]
      · rfl
      · rw [numbered_zero, free]
        rfl
    rw [nameModel]
    dsimp only
    rw [first, numbered_zero]

theorem after_of_nameModel {earlier : List NamedModel} {x : NamedModel}
    (given : ∀ e ∈ earlier, e.names.Plain) (named : x = nameModel (takenBy earlier) x.model) :
    x.After earlier := by
  have plain : x.wanted.Plain := ModelNames.plain_ofName _
  have clash : x.clash = owner? (takenBy earlier) x.wanted := congrArg NamedModel.clash named
  have keeps : x.names = x.wanted ↔ owner? (takenBy earlier) x.wanted = none := by
    have names := nameModel_names_eq_iff (takenBy earlier) x.model
    rwa [← named] at names
  refine ⟨?_, keeps.trans (owner_takenBy_eq_none_iff given plain), fun same => ?_, fun renamed => ?_⟩
  · have found := Naming.finds_firstFree (exists_free_candidate (takenBy earlier) x.wanted)
    have free : (fun k => (owner? (takenBy earlier) (x.wanted.numbered k)).isNone = true) =
        fun k => ∀ e ∈ earlier, ¬ Clash (x.wanted.numbered k) e.names := by
      funext k
      rw [Option.isNone_iff_eq_none, owner_takenBy_eq_none_iff given (plain.numbered k)]
    rw [length_takenBy, free] at found
    refine ⟨_, found.1, found.2, ?_⟩
    rw [← length_takenBy]
    exact congrArg NamedModel.names named
  · rw [NamedModel.warning?, clash, keeps.mp same]
    rfl
  · obtain ⟨name, owned⟩ := Option.ne_none_iff_exists'.mp fun free => renamed (keeps.mpr free)
    obtain ⟨e, member, clashes, rfl⟩ := exists_clash_of_owner given plain owned
    refine ⟨e, member, clashes, ?_⟩
    rw [NamedModel.warning?, clash, owned]
    rfl

theorem clashes_apart (models : List Model) :
    (nameModels models).Pairwise fun a b => ¬ Clash a.names b.names := by
  refine (keys_apart models).imp_of_mem fun {a b} left right apart clash => ?_
  obtain ⟨key, inLeft, inRight⟩ := ((plain_of_mem left).clash_iff (plain_of_mem right)).mp clash
  exact apart key inRight inLeft

/-- Names differ in small letters whose likeness is a clash. -/
theorem lowercase_nodup {get : ModelNames → String}
    (clashes : ∀ a b, lowercase (get a) = lowercase (get b) → Clash a b) (models : List Model) :
    ((nameModels models).map fun x => lowercase (get x.names)).Nodup := by
  rw [List.nodup_iff_pairwise_ne, List.pairwise_map]
  exact (clashes_apart models).imp fun apart same => apart (clashes _ _ same)

theorem clash_of_repository {a b : ModelNames}
    (same : lowercase a.repository = lowercase b.repository) : Clash a b := by
  have chars := congrArg String.toList same
  simp only [lowercase, ModelNames.repository, String.toList_ofList, String.toList_append,
    List.flatMap_append] at chars
  exact .inl (congrArg String.ofList (List.append_cancel_right chars))

theorem prefix_nameModels (models more : List Model) :
    nameModels models <+: nameModels (models ++ more) :=
  ⟨_, (nameFrom_append [] models more).symm⟩

theorem after_of_split {models : List Model} {earlier later : List NamedModel} {x : NamedModel}
    (split : nameModels models = earlier ++ x :: later) : x.After earlier := by
  refine after_of_nameModel (fun e member => ?_) (eq_nameModel_of_split split).2
  have named : e ∈ nameModels models := by
    rw [split]
    exact List.mem_append_left _ member
  exact plain_of_mem named

theorem reported_iff {models : List Model} {x : NamedModel} (member : x ∈ nameModels models) :
    x.warning?.isSome = true ↔ x.names ≠ x.wanted := by
  obtain ⟨earlier, later, split⟩ := List.append_of_mem member
  have after := after_of_split split
  constructor
  · intro reported kept
    rw [after.silent kept] at reported
    exact absurd reported (by decide)
  · intro renamed
    obtain ⟨e, -, -, warned⟩ := after.warned renamed
    rw [warned]
    rfl

/-- Every model of a list gets names of its own, in small letters too, and keeps them when models
are added. A renamed model is reported once and no other, and each model is named after those before
it. -/
theorem models_named (models : List Model) :
    let named := nameModels models
    named.map (·.model) = models ∧
      (named.map fun x => lowercase x.names.ident).Nodup ∧
      (named.map fun x => lowercase x.names.type).Nodup ∧
      (named.map fun x => lowercase x.names.stem).Nodup ∧
      (named.map fun x => lowercase x.names.repository).Nodup ∧
      (∀ more, named <+: nameModels (models ++ more)) ∧
      (named.filterMap (·.warning?)).map some =
        (named.filter fun x => x.names ≠ x.wanted).map (·.warning?) ∧
      ∀ earlier x later, named = earlier ++ x :: later → x.After earlier := by
  intro named
  refine ⟨nameModels_models models, lowercase_nodup (fun _ _ same => .inl same) models,
    lowercase_nodup (fun _ _ same => .inr (.inl same)) models,
    lowercase_nodup (fun _ _ same => .inr (.inr same)) models,
    lowercase_nodup (fun _ _ => clash_of_repository) models, prefix_nameModels models, ?_,
    fun _ _ _ => after_of_split⟩
  rw [List.map_filterMap_some_eq_filter_map_isSome, List.filter_map]
  refine congrArg _ (List.filter_congr fun x member => ?_)
  exact Bool.eq_iff_iff.mpr ((reported_iff member).trans decide_eq_true_iff.symm)

def orderItems : List Model :=
  [{ name := "OrderItem" }, { name := "OrderItem2" }, { name := "order_item" }]

/-- A model that gets the third number, since the second is a natural name. -/
theorem orderItems_numbered :
    let first : NamedModel :=
      ⟨{ name := "OrderItem" }, ⟨"orderItem", "OrderItem", "order_item"⟩, none⟩
    let second : NamedModel :=
      ⟨{ name := "OrderItem2" }, ⟨"orderItem2", "OrderItem2", "order_item2"⟩, none⟩
    let third : NamedModel :=
      ⟨{ name := "order_item" }, ⟨"orderItem3", "OrderItem3", "order_item_3"⟩, some "OrderItem"⟩
    nameModels orderItems = [first, second] ++ third :: [] ∧ third.After [first, second] ∧
      third.warning? = some (.modelNameCollision "order_item" "OrderItem" "OrderItem3") := by
  intro first second third
  have split : nameModels orderItems = [first, second] ++ third :: [] := by decide +kernel
  exact ⟨split, (models_named orderItems).2.2.2.2.2.2.2 _ _ _ split, rfl⟩

end Backend

end ApiGraph
