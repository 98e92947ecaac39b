import Mathlib.Data.List.Perm.Basic
import Mathlib.Data.List.Basic
import Mathlib.Data.List.Nodup
import ApiGraph.FirstUse

/-!
# First uses

What `firstsBy` keeps: of each key exactly the first element. What it drops are the repetitions of a
key (`repeatsBy`). `groupBy` only reorders: `groupBy_perm` shows that no element is lost or doubled.
-/

namespace ApiGraph

variable {α κ : Type} [DecidableEq κ] {key : α → κ} {seen : List κ} {l : List α}

/-- An element is kept when its key is new and it is the first of its key. -/
theorem mem_firstsFrom_iff {a : α} :
    a ∈ firstsFrom key seen l ↔ key a ∉ seen ∧ l.find? (fun b => key b = key a) = some a := by
  induction l generalizing seen with
  | nil => simp [firstsFrom]
  | cons b l ih =>
    rw [firstsFrom]
    split
    · rename_i known
      rw [ih]
      refine and_congr_right fun fresh => ?_
      have different : key b ≠ key a := fun same => fresh (same ▸ known)
      simp [different]
    · rename_i unknown
      rw [List.mem_cons, ih]
      by_cases same : key b = key a
      · have old : key a ∈ key b :: seen := by simp [same]
        simp only [List.find?_cons, same, decide_true, Option.some.injEq]
        constructor
        · rintro (rfl | ⟨fresh, _⟩)
          · exact ⟨unknown, rfl⟩
          · exact absurd (same ▸ old) fresh
        · rintro ⟨_, rfl⟩
          exact Or.inl rfl
      · have other : a ≠ b := fun eq => same (eq ▸ rfl)
        simp [same, other, Ne.symm same]

/-- The keys that are kept are the new ones. -/
theorem mem_keys_firstsFrom_iff {k : κ} :
    k ∈ (firstsFrom key seen l).map key ↔ k ∉ seen ∧ k ∈ l.map key := by
  constructor
  · intro member
    obtain ⟨a, kept, rfl⟩ := List.mem_map.mp member
    obtain ⟨fresh, first⟩ := mem_firstsFrom_iff.mp kept
    exact ⟨fresh, List.mem_map_of_mem (List.mem_of_find?_eq_some first)⟩
  · rintro ⟨fresh, member⟩
    obtain ⟨a, present, rfl⟩ := List.mem_map.mp member
    obtain ⟨b, first⟩ : ∃ b, l.find? (fun b => key b = key a) = some b :=
      Option.isSome_iff_exists.mp (List.find?_isSome.mpr ⟨a, present, by simp⟩)
    have same : key b = key a := by simpa using List.find?_some first
    rw [← same] at first fresh ⊢
    exact List.mem_map_of_mem (mem_firstsFrom_iff.mpr ⟨fresh, first⟩)

theorem firstsFrom_keys_nodup : ((firstsFrom key seen l).map key).Nodup := by
  induction l generalizing seen with
  | nil => simp [firstsFrom]
  | cons a l ih =>
    rw [firstsFrom]
    split
    · exact ih
    · rw [List.map_cons, List.nodup_cons]
      refine ⟨fun again => ?_, ih⟩
      exact (mem_keys_firstsFrom_iff.mp again).1 List.mem_cons_self

theorem mem_firstsBy_iff {a : α} :
    a ∈ firstsBy key l ↔ l.find? (fun b => key b = key a) = some a := by
  simp [firstsBy, mem_firstsFrom_iff]

theorem mem_keys_firstsBy_iff {k : κ} : k ∈ (firstsBy key l).map key ↔ k ∈ l.map key := by
  simp only [firstsBy, mem_keys_firstsFrom_iff, List.not_mem_nil, not_false_eq_true, true_and]

theorem firstsBy_keys_nodup : ((firstsBy key l).map key).Nodup := firstsFrom_keys_nodup

theorem mem_of_mem_firstsBy {a : α} (kept : a ∈ firstsBy key l) : a ∈ l :=
  List.mem_of_find?_eq_some (mem_firstsBy_iff.mp kept)

theorem eq_of_mem_firstsBy {a b : α} (left : a ∈ firstsBy key l) (right : b ∈ firstsBy key l)
    (same : key a = key b) : a = b :=
  List.inj_on_of_nodup_map firstsBy_keys_nodup left right same

/-- Keys that tell the same elements apart keep the same elements. -/
theorem firstsBy_injective {ι : Type} [DecidableEq ι] {f : κ → ι} (injective : Function.Injective f)
    (key : α → κ) (l : List α) : firstsBy (fun a => f (key a)) l = firstsBy key l := by
  have walk : ∀ (seen : List κ) (l : List α),
      firstsFrom (fun a => f (key a)) (seen.map f) l = firstsFrom key seen l := by
    intro seen l
    induction l generalizing seen with
    | nil => rfl
    | cons a l ih =>
      have step := ih (key a :: seen)
      rw [List.map_cons] at step
      simp only [firstsFrom, List.mem_map_of_injective injective, ih, step]
  exact walk [] l

theorem firstsBy_map {β : Type} (g : β → α) (key : α → κ) (l : List β) :
    firstsBy key (l.map g) = (firstsBy (fun b => key (g b)) l).map g := by
  have walk : ∀ (seen : List κ) (l : List β),
      firstsFrom key seen (l.map g) = (firstsFrom (fun b => key (g b)) seen l).map g := by
    intro seen l
    induction l generalizing seen with
    | nil => rfl
    | cons b l ih =>
      rw [List.map_cons, firstsFrom, firstsFrom]
      split
      · exact ih seen
      · rw [List.map_cons, ih]
  exact walk [] l

/-- To keep some of the keys, it does not matter whether before or after. -/
theorem filter_firstsFrom {test : κ → Bool} {seen others : List κ}
    (same : ∀ k, test k = true → (k ∈ seen ↔ k ∈ others)) (key : α → κ) (l : List α) :
    (firstsFrom key seen l).filter (fun a => test (key a)) =
      firstsFrom key others (l.filter fun a => test (key a)) := by
  induction l generalizing seen others with
  | nil => rfl
  | cons a l ih =>
    by_cases passes : test (key a) = true
    · rw [List.filter_cons_of_pos (by simpa using passes), firstsFrom, firstsFrom]
      by_cases known : key a ∈ seen
      · rw [if_pos known, if_pos ((same _ passes).mp known), ih same]
      · rw [if_neg known, if_neg (fun also => known ((same _ passes).mpr also)),
          List.filter_cons_of_pos (by simpa using passes), ih]
        intro k kept
        simp [same k kept]
    · rw [List.filter_cons_of_neg (by simpa using passes), firstsFrom]
      split
      · exact ih same
      · rw [List.filter_cons_of_neg (by simpa using passes), ih]
        intro k kept
        have different : k ≠ key a := fun eq => passes (eq ▸ kept)
        simp [different, same k kept]

theorem filter_firstsBy (test : κ → Bool) (key : α → κ) (l : List α) :
    (firstsBy key l).filter (fun a => test (key a)) =
      firstsBy key (l.filter fun a => test (key a)) := filter_firstsFrom (fun _ _ => Iff.rfl) key l

/-- Only which keys were seen counts, not how. -/
theorem firstsFrom_congr {others : List κ} (same : ∀ k, k ∈ seen ↔ k ∈ others) (key : α → κ)
    (l : List α) : firstsFrom key seen l = firstsFrom key others l := by
  have all : ∀ k : κ, (fun _ => true) k = true → (k ∈ seen ↔ k ∈ others) := fun k _ => same k
  simpa using filter_firstsFrom all key l

theorem firstsBy_keys (key : α → κ) (l : List α) : (firstsBy key l).map key = firsts (l.map key) := by
  rw [firsts, firstsBy_map]
  rfl

theorem firsts_nodup (ks : List κ) : (firsts ks).Nodup := by
  have distinct : ((firstsBy id ks).map id).Nodup := firstsBy_keys_nodup
  simpa [firsts] using distinct

theorem mem_firsts_iff {ks : List κ} {k : κ} : k ∈ firsts ks ↔ k ∈ ks := by
  have same : k ∈ (firstsBy id ks).map id ↔ k ∈ ks.map id := mem_keys_firstsBy_iff
  simpa [firsts] using same

/-- What a longer list keeps: the same of its first part, and what is new in the rest. -/
theorem firstsFrom_append (key : α → κ) (seen : List κ) (l more : List α) :
    firstsFrom key seen (l ++ more) =
      firstsFrom key seen l ++ firstsFrom key (l.map key ++ seen) more := by
  induction l generalizing seen with
  | nil => rfl
  | cons a l ih =>
    -- the memory of the rest has the key twice, or at another place
    rw [List.cons_append, firstsFrom, firstsFrom, List.map_cons, List.cons_append]
    split
    · rename_i known
      rw [ih]
      refine congrArg _ (firstsFrom_congr (fun k => ?_) key more)
      rw [List.mem_cons, eq_comm (a := k), or_iff_right_of_imp]
      rintro rfl
      exact List.mem_append_right _ known
    · rw [ih, List.cons_append]
      refine congrArg _ (congrArg _ (firstsFrom_congr (fun k => ?_) key more))
      simp only [List.mem_cons, List.mem_append]
      exact or_left_comm

theorem prefix_firstsBy {l longer : List α} (longer_of : l <+: longer) :
    firstsBy key l <+: firstsBy key longer := by
  obtain ⟨more, rfl⟩ := longer_of
  exact ⟨_, (firstsFrom_append key [] l more).symm⟩

theorem prefix_firsts {ks longer : List κ} (longer_of : ks <+: longer) :
    firsts ks <+: firsts longer := prefix_firstsBy longer_of

/-- The elements of a list, each once and in the order of their first use. -/
structure FirstUses (uses once : List κ) : Prop where
  mem_iff : ∀ k, k ∈ once ↔ k ∈ uses
  distinct : once.Nodup
  ordered : once.Pairwise fun a b => uses.idxOf a < uses.idxOf b

theorem firstsFrom_ordered (seen ks : List κ) :
    (firstsFrom id seen ks).Pairwise fun a b => ks.idxOf a < ks.idxOf b := by
  induction ks generalizing seen with
  | nil => exact List.Pairwise.nil
  | cons k ks ih =>
    have later {seen : List κ} (known : k ∈ seen) : ∀ a ∈ firstsFrom id seen ks,
        (k :: ks).idxOf a = ks.idxOf a + 1 := fun a kept =>
      List.idxOf_cons_ne _ fun same => (mem_firstsFrom_iff.mp kept).1 (same ▸ known)
    have rest {seen : List κ} (known : k ∈ seen) : (firstsFrom id seen ks).Pairwise
        fun a b => (k :: ks).idxOf a < (k :: ks).idxOf b := by
      refine (ih seen).imp_of_mem fun {a b} left right before => ?_
      rw [later known a left, later known b right]
      exact Nat.succ_lt_succ before
    rw [firstsFrom]
    split
    · rename_i known
      exact rest known
    · refine List.pairwise_cons.mpr ⟨fun a kept => ?_, rest List.mem_cons_self⟩
      rw [later List.mem_cons_self a kept]
      show (k :: ks).idxOf k < _
      rw [List.idxOf_cons_self]
      exact Nat.succ_pos _

theorem firstUses_firsts (ks : List κ) : FirstUses ks (firsts ks) :=
  ⟨fun _ => mem_firsts_iff, firsts_nodup ks, firstsFrom_ordered [] ks⟩

/-- The elements whose key was used before, each with the first element of the key. -/
def repeatsFrom (key : α → κ) (before : List α) : List α → List (α × α)
  | [] => []
  | a :: as =>
    ((before.find? fun b => key b = key a).map (·, a)).toList ++ repeatsFrom key (before ++ [a]) as

def repeatsBy (key : α → κ) (l : List α) : List (α × α) := repeatsFrom key [] l

theorem mem_repeatsFrom_iff {before : List α} {x : α × α} :
    x ∈ repeatsFrom key before l ↔ ∃ earlier later, l = earlier ++ x.2 :: later ∧
      (before ++ earlier).find? (fun b => key b = key x.2) = some x.1 := by
  induction l generalizing before with
  | nil => simp [repeatsFrom]
  | cons a l ih =>
    rw [repeatsFrom, List.mem_append, ih]
    constructor
    · rintro (here | ⟨earlier, later, rfl, first⟩)
      · obtain ⟨k, first, rfl⟩ := Option.map_eq_some_iff.mp (Option.mem_toList.mp here)
        exact ⟨[], l, rfl, by rwa [List.append_nil]⟩
      · exact ⟨a :: earlier, later, rfl, by rwa [List.append_assoc] at first⟩
    · rintro ⟨earlier, later, split, first⟩
      cases earlier with
      | nil =>
        obtain ⟨rfl, -⟩ := List.cons.inj split
        rw [List.append_nil] at first
        exact .inl (Option.mem_toList.mpr (Option.map_eq_some_iff.mpr ⟨x.1, first, rfl⟩))
      | cons b earlier =>
        obtain ⟨rfl, rest⟩ := List.cons.inj split
        exact .inr ⟨earlier, later, rest, by rwa [List.append_assoc]⟩

theorem mem_repeatsBy_iff {x : α × α} :
    x ∈ repeatsBy key l ↔ ∃ earlier later, l = earlier ++ x.2 :: later ∧
      earlier.find? (fun b => key b = key x.2) = some x.1 := mem_repeatsFrom_iff

/-- What comes first of its key and what repeats a key make up the list. -/
theorem firstsFrom_append_repeatsFrom {before : List α} (known : ∀ k, k ∈ seen ↔ k ∈ before.map key) :
    (firstsFrom key seen l ++ (repeatsFrom key before l).map (·.2)).Perm l := by
  induction l generalizing seen before with
  | nil => exact List.Perm.refl []
  | cons a l ih =>
    rw [firstsFrom, repeatsFrom]
    cases first : before.find? fun b => key b = key a with
    | some b =>
      have same : key b = key a := by simpa using List.find?_some first
      have old : key a ∈ seen := by
        rw [known, ← same]
        exact List.mem_map_of_mem (List.mem_of_find?_eq_some first)
      have known' : ∀ k, k ∈ seen ↔ k ∈ (before ++ [a]).map key := by
        intro k
        rw [List.map_append, List.mem_append, ← known, List.map_singleton, List.mem_singleton,
          iff_self_or]
        rintro rfl
        exact old
      rw [if_pos old]
      exact List.perm_middle.trans ((ih known').cons a)
    | none =>
      have fresh : key a ∉ seen := by
        rw [known]
        intro member
        obtain ⟨b, present, same⟩ := List.mem_map.mp member
        exact List.find?_eq_none.mp first b present (decide_eq_true same)
      have known' : ∀ k, k ∈ key a :: seen ↔ k ∈ (before ++ [a]).map key := by
        intro k
        rw [List.mem_cons, known, List.map_append, List.mem_append, List.map_singleton,
          List.mem_singleton]
        exact or_comm
      rw [if_neg fresh]
      exact (ih known').cons a

theorem firstsBy_append_repeatsBy (key : α → κ) (l : List α) :
    (firstsBy key l ++ (repeatsBy key l).map (·.2)).Perm l :=
  firstsFrom_append_repeatsFrom fun _ => Iff.rfl

/-! ### Groups -/

theorem groupBy_keys (key : α → κ) (l : List α) : (groupBy key l).map (·.1) = firsts (l.map key) := by
  simp [groupBy, Function.comp_def]

theorem mem_group {g : κ × List α} (member : g ∈ groupBy key l) :
    g.2 = l.filter fun a => key a = g.1 := by
  obtain ⟨k, _, rfl⟩ := List.mem_map.mp member
  rfl

theorem groupBy_map {β : Type} (g : β → α) (key : α → κ) (l : List β) :
    groupBy key (l.map g) = (groupBy (fun b => key (g b)) l).map fun k => (k.1, k.2.map g) := by
  simp [groupBy, List.filter_map, Function.comp_def]

/-- In a longer list a group stays at its place and keeps its elements before new ones. -/
theorem getElem?_groupBy_append {g : κ × List α} {i : Nat} (here : (groupBy key l)[i]? = some g)
    (more : List α) :
    (groupBy key (l ++ more))[i]? = some (g.1, g.2 ++ more.filter fun a => key a = g.1) := by
  rw [groupBy, List.getElem?_map] at here
  obtain ⟨k, first, rfl⟩ := Option.map_eq_some_iff.mp here
  obtain ⟨later, keys⟩ := prefix_firsts (List.prefix_append (l.map key) (more.map key))
  have inRange := (List.getElem?_eq_some_iff.mp first).1
  have stays : (firsts ((l ++ more).map key))[i]? = some k := by
    rw [List.map_append, ← keys, List.getElem?_append_left inRange, first]
  rw [groupBy, List.getElem?_map, stays, Option.map_some, List.filter_append]

theorem exists_group (key : α → κ) {a : α} (present : a ∈ l) :
    ∃ g ∈ groupBy key l, g.1 = key a ∧ a ∈ g.2 := by
  refine ⟨(key a, l.filter fun b => key b = key a), ?_, rfl, by simpa using present⟩
  exact List.mem_map.mpr ⟨key a, mem_firsts_iff.mpr (List.mem_map_of_mem present), rfl⟩

/-- Parts of a list by keys that are different and cover it make up the list. -/
theorem perm_of_keys {ks : List κ} (distinct : ks.Nodup) (covered : ∀ a ∈ l, key a ∈ ks) :
    (ks.flatMap fun k => l.filter fun a => key a = k).Perm l := by
  induction ks generalizing l with
  | nil =>
    have empty : l = [] := List.eq_nil_iff_forall_not_mem.mpr fun a present => by
      simpa using covered a present
    simp [empty]
  | cons k ks ih =>
    obtain ⟨fresh, distinct⟩ := List.nodup_cons.mp distinct
    let others := l.filter fun a => !decide (key a = k)
    have rest : (ks.flatMap fun k' => others.filter fun a => key a = k').Perm others := by
      refine ih distinct fun a present => ?_
      obtain ⟨present, different⟩ := List.mem_filter.mp present
      exact (List.mem_cons.mp (covered a present)).resolve_left (by simpa using different)
    have same : (ks.flatMap fun k' => others.filter fun a => key a = k') =
        ks.flatMap fun k' => l.filter fun a => key a = k' := by
      refine List.flatMap_congr fun k' later => ?_
      have different : k' ≠ k := fun eq => fresh (eq ▸ later)
      rw [List.filter_filter]
      refine List.filter_congr fun a _ => ?_
      by_cases here : key a = k' <;> simp [here, different]
    rw [List.flatMap_cons, ← same]
    exact (rest.append_left _).trans (List.filter_append_perm _ l)

/-- Grouping loses no element and doubles none. -/
theorem groupBy_perm (key : α → κ) (l : List α) : ((groupBy key l).flatMap (·.2)).Perm l := by
  rw [groupBy, List.flatMap_map]
  exact perm_of_keys (firsts_nodup _) fun a present => mem_firsts_iff.mpr (List.mem_map_of_mem present)

/-- Grouping finds a match where there is one. -/
theorem find_groupBy_isSome (key : α → κ) (l : List α) (match? : α → Bool) :
    (((groupBy key l).flatMap (·.2)).find? match?).isSome = (l.find? match?).isSome := by
  rw [Bool.eq_iff_iff, List.find?_isSome, List.find?_isSome]
  simp only [(groupBy_perm key l).mem_iff]

/-- Grouping finds the same first match exactly when no match has a key that is used before that of
the first match. -/
theorem find_groupBy_iff {match? : α → Bool} {a : α} (first : l.find? match? = some a) :
    ((groupBy key l).flatMap (·.2)).find? match? = some a ↔
      ∃ before after, firsts (l.map key) = before ++ key a :: after ∧
        ∀ b ∈ l, match? b = true → key b ∉ before := by
  rw [groupBy, List.flatMap_map, List.find?_flatMap, List.findSome?_eq_some_iff]
  have found : ∀ k, (l.filter fun b => key b = k).find? match? = some a ↔ k = key a := by
    intro k
    constructor
    · intro inGroup
      simpa [eq_comm] using (List.mem_filter.mp (List.mem_of_find?_eq_some inGroup)).2
    · rintro rfl
      obtain ⟨hit, earlier, later, split, missed⟩ := List.find?_eq_some_iff_append.mp first
      rw [List.find?_filter, List.find?_eq_some_iff_append]
      refine ⟨by simpa using hit, earlier, later, split, fun b member => ?_⟩
      have passed : match? b = false := by simpa using missed b member
      simp [passed]
  constructor
  · rintro ⟨before, k, after, split, inGroup, missed⟩
    obtain rfl := (found k).mp inGroup
    refine ⟨before, after, split, fun b present hit early => ?_⟩
    refine List.find?_eq_none.mp (missed (key b) early) b ?_ hit
    exact List.mem_filter.mpr ⟨present, by simp⟩
  · rintro ⟨before, after, split, late⟩
    refine ⟨before, key a, after, split, (found _).mpr rfl, fun k early => ?_⟩
    refine List.find?_eq_none.mpr fun b member hit => ?_
    obtain ⟨present, same⟩ := List.mem_filter.mp member
    obtain rfl : key b = k := by simpa using same
    exact late b present hit early

end ApiGraph
