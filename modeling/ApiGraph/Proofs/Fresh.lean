import Mathlib.Data.List.Nodup
import Mathlib.Data.List.Perm.Subperm
import ApiGraph.Naming.Fresh
import ApiGraph.Proofs.Naming
import ApiGraph.Proofs.Number.Digits

namespace ApiGraph.Naming

open Text

/-- The search from an index on. An index that is not free is given up for the next one, and the
first that is free ends the search. -/
inductive Finds (Free : Nat → Prop) : Nat → Nat → Prop
  | here {n : Nat} (free : Free n) : Finds Free n n
  | further {n m : Nat} (taken : ¬ Free n) (later : Finds Free (n + 1) m) : Finds Free n m

theorem finds_of_first {Free : Nat → Prop} {m : Nat} (free : Free m)
    (taken : ∀ k < m, ¬ Free k) {n : Nat} (before : n ≤ m) : Finds Free n m := by
  induction before using Nat.decreasingInduction with
  | of_succ k less ih => exact .further (taken k less) ih
  | self => exact .here free

theorem Finds.free {Free : Nat → Prop} {n m : Nat} (finds : Finds Free n m) : Free m := by
  induction finds with
  | here free => exact free
  | further _ _ ih => exact ih

/-- Where some index up to the bound is free, the search ends, and at the index it is said to. -/
theorem finds_firstFree {bound : Nat} {free : Nat → Bool} (some : ∃ n ≤ bound, free n = true) :
    firstFree bound free ≤ bound ∧ Finds (free · = true) 0 (firstFree bound free) := by
  obtain ⟨n, small, isFree⟩ := some
  cases found : (List.range (bound + 1)).find? free with
  | none =>
    have blocked := List.find?_eq_none.mp found n (List.mem_range.mpr (by omega))
    exact absurd isFree blocked
  | some m =>
    obtain ⟨free, member, earlier⟩ := List.find?_range_eq_some.mp found
    have within : m < bound + 1 := List.mem_range.mp member
    rw [firstFree, found, Option.getD_some]
    refine ⟨by omega, finds_of_first free (fun k less => ?_) (Nat.zero_le m)⟩
    simpa using earlier k less

theorem firstFree_free {bound : Nat} {free : Nat → Bool} (some : ∃ n ≤ bound, free n = true) :
    free (firstFree bound free) = true := (finds_firstFree some).2.free

/-- If each taken key blocks one candidate at most, then some candidate is free. -/
theorem exists_free {κ : Type} {taken : List κ} {free : Nat → Bool} (Blocks : Nat → κ → Prop)
    (blocked : ∀ n, free n = false → ∃ k ∈ taken, Blocks n k)
    (once : ∀ {n m k}, Blocks n k → Blocks m k → n = m) :
    ∃ n ≤ taken.length, free n = true := by
  by_contra none
  have all : ∀ n : Fin (taken.length + 1), ∃ k ∈ taken, Blocks n k := by
    intro n
    refine blocked n ?_
    by_contra isFree
    exact none ⟨n, by omega, by simpa using isFree⟩
  choose blocker present blocks using all
  have distinct : ((List.finRange (taken.length + 1)).map blocker).Nodup := by
    refine (List.nodup_finRange _).map fun n m same => ?_
    have byOne := blocks m
    rw [← same] at byOne
    exact Fin.ext (once (blocks n) byOne)
  have within : (List.finRange (taken.length + 1)).map blocker ⊆ taken := by
    intro k member
    obtain ⟨n, -, rfl⟩ := List.mem_map.mp member
    exact present n
  have short := (List.subperm_of_subset distinct within).length_le
  rw [List.length_map, List.length_finRange] at short
  omega

theorem toLower_digit {c : Char} (digit : c.isDigit = true) : c.toLower = c :=
  of_ascii (P := fun c => c.isDigit = true → c.toLower = c) (by decide)
    (by simp [isAsciiAlnum, digit]) digit

theorem lower_digits (n : Nat) : (Digits.ofNat n).map Char.toLower = Digits.ofNat n := by
  refine (List.map_congr_left fun c member => ?_).trans (List.map_id' _)
  exact toLower_digit (Digits.allDigits_ofNat n c member)

theorem toList_asciiLower (s : String) : (asciiLower s).toList = s.toList.map Char.toLower :=
  String.toList_ofList

theorem toList_numbered (base joint : String) (n : Nat) :
    (numbered base joint n).toList =
      base.toList ++ if n = 0 then [] else joint.toList ++ Digits.ofNat (n + 1) := by
  unfold numbered
  split
  · rw [List.append_nil]
  · rw [String.toList_append, String.toList_append, List.append_assoc, Nat.toString_eq_repr,
      Nat.toList_repr]
    rfl

theorem lower_numbered (base joint : String) (n : Nat) :
    (asciiLower (numbered base joint n)).toList =
      (asciiLower base).toList ++
        if n = 0 then [] else (asciiLower joint).toList ++ Digits.ofNat (n + 1) := by
  rw [toList_asciiLower, toList_numbered, List.map_append, ← toList_asciiLower]
  split
  · rfl
  · rw [List.map_append, lower_digits, ← toList_asciiLower]

/-- Candidates differ, even without regard to case. -/
theorem numbered_lower_injective {base joint : String} {n m : Nat}
    (same : asciiLower (numbered base joint n) = asciiLower (numbered base joint m)) : n = m := by
  have chars := congrArg String.toList same
  rw [lower_numbered, lower_numbered, List.append_cancel_left_eq] at chars
  have nonempty (k : Nat) : (asciiLower joint).toList ++ Digits.ofNat (k + 1) ≠ [] :=
    List.append_ne_nil_of_right_ne_nil _ (Digits.ofNat_ne_nil _)
  split at chars <;> split at chars
  · omega
  · exact absurd chars.symm (nonempty m)
  · exact absurd chars (nonempty n)
  · have digits := List.append_cancel_left chars
    have values := congrArg Digits.value digits
    rw [Digits.value_ofNat, Digits.value_ofNat] at values
    omega

theorem numbered_injective {base joint : String} {n m : Nat}
    (same : numbered base joint n = numbered base joint m) : n = m :=
  numbered_lower_injective (congrArg asciiLower same)

/-- The search for a fresh name ends after as many numbers as there are taken names at most. -/
theorem finds_fresh (taken : List String) (base : String) :
    ∃ n ≤ taken.length, Finds (fun k => numbered base "" k ∉ taken) 0 n ∧
      fresh taken base = numbered base "" n := by
  have some : ∃ n ≤ taken.length, decide (numbered base "" n ∉ taken) = true :=
    exists_free (fun n name => numbered base "" n = name)
      (fun n blocked => ⟨_, by simpa using blocked, rfl⟩)
      fun left right => numbered_injective (left.trans right.symm)
  obtain ⟨small, finds⟩ := finds_firstFree some
  simp only [decide_eq_true_eq] at finds
  exact ⟨_, small, finds, rfl⟩

theorem fresh_not_mem (taken : List String) (base : String) : fresh taken base ∉ taken := by
  obtain ⟨n, -, finds, same⟩ := finds_fresh taken base
  rw [same]
  exact finds.free

/-- Only a name that is taken gets a number. -/
theorem fresh_eq_iff {taken : List String} {base : String} :
    fresh taken base = base ↔ base ∉ taken := by
  constructor
  · intro same
    have free := fresh_not_mem taken base
    rwa [same] at free
  · intro free
    obtain ⟨n, -, finds, same⟩ := finds_fresh taken base
    cases finds with
    | here => exact same
    | further blocked => exact absurd free blocked

end ApiGraph.Naming
