import Mathlib.Data.List.DropRight
import ApiGraph.Proofs.Path

/-!
# Base paths

A template is put under a base path once. What it becomes (`Placed`) lies within the base, so it is
not moved again, and only the normal form of the base counts: slashes after it and a slash before it
make no difference (`placed_once`).
-/

namespace ApiGraph.Path

/-- A path is the base itself or goes on below it. -/
def Within (base path : List Char) : Prop := path = base ∨ base ++ ['/'] <+: path

instance (base path : List Char) : Decidable (Within base path) :=
  inferInstanceAs (Decidable (_ ∨ _))

def slashes (n : Nat) : String := String.ofList (List.replicate n '/')

section

variable {cs core : List Char}

theorem withSlash_of_rooted (rooted : cs.head? = some '/') : withSlash cs = cs := by
  obtain ⟨rest, rfl⟩ := List.head?_eq_some_iff.mp rooted
  rfl

theorem withSlash_of_bare (bare : cs.head? ≠ some '/') : withSlash cs = '/' :: cs := by
  unfold withSlash
  split
  · exact absurd rfl bare
  · rfl

theorem withSlash_head (cs : List Char) : (withSlash cs).head? = some '/' := by
  obtain ⟨rest, slash, -⟩ := withSlash_eq cs
  rw [slash]
  rfl

theorem dropSlashes_append (cs : List Char) (n : Nat) :
    dropSlashes (cs ++ List.replicate n '/') = dropSlashes cs := by
  rw [dropSlashes, dropSlashes, List.reverse_append, List.reverse_replicate,
    List.dropWhile_append_of_pos]
  intro c member
  rw [List.eq_of_mem_replicate member]
  rfl

theorem dropSlashes_eq_self_iff : dropSlashes core = core ↔ core.getLast? ≠ some '/' := by
  have last : dropSlashes core = core ↔
      ∀ filled : core ≠ [], ¬ (core.getLast filled == '/') = true :=
    List.rdropWhile_eq_self_iff
  rw [last]
  cases core with
  | nil => simp
  | cons c cs => simp [List.getLast?_eq_some_getLast (List.cons_ne_nil c cs)]

/-- A text is what is left of it and slashes after that. -/
theorem exists_slashes (cs : List Char) : ∃ n, cs = dropSlashes cs ++ List.replicate n '/' ∧
    (dropSlashes cs).getLast? ≠ some '/' := by
  let tail := cs.reverse.takeWhile (· == '/')
  have same : tail = List.replicate tail.length '/' :=
    List.eq_replicate_iff.mpr ⟨rfl, fun c member =>
      eq_of_beq (List.mem_takeWhile_imp (p := (· == '/')) member)⟩
  have parts : cs = dropSlashes cs ++ tail.reverse := by
    rw [dropSlashes, ← List.reverse_append, List.takeWhile_append_dropWhile, List.reverse_reverse]
  rw [same, List.reverse_replicate] at parts
  refine ⟨tail.length, parts, dropSlashes_eq_self_iff.mp ?_⟩
  exact List.rdropWhile_idempotent _ _

theorem baseChars_eq (base : String) :
    baseChars base =
      if dropSlashes base.toList = [] then [] else withSlash (dropSlashes base.toList) := by
  unfold baseChars
  split
  · rename_i none
    rw [if_pos none]
  · rename_i filled
    rw [if_neg filled]

theorem baseChars_append_slashes (base : String) (n : Nat) :
    baseChars (base ++ slashes n) = baseChars base := by
  have text : (base ++ slashes n).toList = base.toList ++ List.replicate n '/' := by
    rw [slashes, String.toList_append, String.toList_ofList]
  rw [baseChars_eq, baseChars_eq, text, dropSlashes_append]

theorem baseChars_slash_append {base : String} (bare : base.toList.head? ≠ some '/') :
    baseChars ("/" ++ base) = baseChars base := by
  have text : ("/" ++ base).toList = '/' :: base.toList := String.toList_append
  obtain ⟨n, parts, solid⟩ := exists_slashes base.toList
  rw [baseChars_eq, baseChars_eq, text]
  generalize dropSlashes base.toList = core at parts solid
  rw [parts] at bare ⊢
  cases core with
  | nil =>
    -- a base of slashes alone that does not begin with one is empty
    obtain rfl : n = 0 := by
      cases n with
      | zero => rfl
      | succ n => exact absurd rfl bare
    rfl
  | cons c core =>
    have rooted : ('/' :: c :: core).getLast? ≠ some '/' := by rwa [List.getLast?_cons_cons]
    have front : (c :: core).head? ≠ some '/' := bare
    rw [show '/' :: (c :: core ++ List.replicate n '/') =
        ('/' :: c :: core) ++ List.replicate n '/' from rfl, dropSlashes_append,
      dropSlashes_eq_self_iff.mpr rooted, if_neg (List.cons_ne_nil _ _),
      if_neg (List.cons_ne_nil _ _), withSlash_of_bare front]
    rfl

end

section

variable {b t : List Char}

/-- What a template becomes under a base, both with their slashes. -/
inductive Placed (b t : List Char) : List Char → Prop
  | free (none : b = []) : Placed b t t
  | inside (within : Within b t) : Placed b t t
  | root (filled : b ≠ []) (root : t = ['/']) : Placed b t b
  | below (filled : b ≠ []) (deeper : t ≠ ['/']) (outside : ¬ Within b t) : Placed b t (b ++ t)

theorem underBase_eq (template base : String) :
    let b := baseChars base
    let t := withSlash template.toList
    (underBase template base).toList =
      if b = [] ∨ Within b t then t else if t = ['/'] then b else b ++ t := by
  intro b t
  have stays : (b.isEmpty || t == b || (b ++ ['/']).isPrefixOf t) = true ↔ b = [] ∨ Within b t := by
    rw [Bool.or_eq_true, Bool.or_eq_true, List.isEmpty_iff, beq_iff_eq,
      List.isPrefixOf_iff_prefix, or_assoc]
    rfl
  rw [underBase, String.toList_ofList]
  simp only [beq_iff_eq]
  exact if_congr stays rfl rfl

theorem placed (template base : String) :
    Placed (baseChars base) (withSlash template.toList) (underBase template base).toList := by
  rw [underBase_eq]
  split
  · rename_i stays
    exact stays.elim .free .inside
  · rename_i moves
    obtain ⟨filled, outside⟩ := not_or.mp moves
    split
    · rename_i root
      exact .root filled root
    · rename_i deeper
      exact .below filled deeper outside

variable {r : List Char}

theorem Placed.rooted (placed : Placed b t r) (base : b ≠ [] → b.head? = some '/')
    (template : t.head? = some '/') : r.head? = some '/' := by
  cases placed with
  | free | inside => exact template
  | root filled => exact base filled
  | below filled => rw [List.head?_append, base filled, Option.some_or]

/-- A placed template lies within the base. -/
theorem Placed.within (placed : Placed b t r) (template : t.head? = some '/') (filled : b ≠ []) :
    Within b r := by
  cases placed with
  | free none => exact absurd none filled
  | inside within => exact within
  | root => exact .inl rfl
  | below =>
    obtain ⟨rest, rfl⟩ := List.head?_eq_some_iff.mp template
    exact .inr ⟨rest, by rw [List.append_assoc, List.singleton_append]⟩

theorem Placed.parts (placed : Placed b t r) : r = t ∨ r = b ++ t ∨ t = ['/'] ∧ r = b := by
  cases placed with
  | free | inside => exact .inl rfl
  | root _ root => exact .inr (.inr ⟨root, rfl⟩)
  | below => exact .inr (.inl rfl)

theorem baseChars_rooted {base : String} (filled : baseChars base ≠ []) :
    (baseChars base).head? = some '/' := by
  rw [baseChars_eq] at filled ⊢
  split
  · rename_i none
    exact absurd (if_pos none) filled
  · exact withSlash_head _

theorem withSlash_eq_root_iff {template : String} :
    withSlash template.toList = ['/'] ↔ template = "" ∨ template = "/" := by
  have texts : template = "" ∨ template = "/" ↔ template.toList = [] ∨ template.toList = ['/'] :=
    or_congr String.toList_inj.symm String.toList_inj.symm
  rw [texts]
  cases template.toList with
  | nil => exact iff_of_true rfl (.inl rfl)
  | cons c cs =>
    rw [or_iff_right (List.cons_ne_nil c cs)]
    by_cases rooted : (c :: cs).head? = some '/'
    · rw [withSlash_of_rooted rooted]
    · rw [withSlash_of_bare rooted]
      refine iff_of_false (fun same => ?_) fun same => rooted (same ▸ rfl)
      exact absurd (List.cons.inj same).2 (List.cons_ne_nil c cs)

/-- Paths depend on the normal forms of base and template only. -/
theorem underBase_congr {template template' base base' : String}
    (templates : withSlash template.toList = withSlash template'.toList)
    (bases : baseChars base = baseChars base') :
    underBase template base = underBase template' base' := by
  rw [← String.toList_inj, underBase_eq, underBase_eq, templates, bases]

theorem underBase_underBase (template base : String) :
    underBase (underBase template base) base = underBase template base := by
  have here := placed template base
  have slash := here.rooted baseChars_rooted (withSlash_head _)
  rw [← String.toList_inj, underBase_eq, withSlash_of_rooted slash, if_pos]
  by_cases none : baseChars base = []
  · exact .inl none
  · exact .inr (here.within (withSlash_head _) none)

end

structure PlacedOnce (template base path : String) : Prop where
  /-- The base counts without the slashes after it, and with one before it. -/
  normal : ∃ core n, base.toList = core ++ List.replicate n '/' ∧ core.getLast? ≠ some '/' ∧
    baseChars base = if core = [] then [] else withSlash core
  rooted : path.toList.head? = some '/'
  again : underBase path base = path
  within : baseChars base ≠ [] → Within (baseChars base) path.toList
  parts : path.toList = withSlash template.toList ∨
    path.toList = baseChars base ++ withSlash template.toList ∨
    (template = "" ∨ template = "/") ∧ path.toList = baseChars base
  trailing : ∀ base' n, base' = base ++ slashes n ∨ base = base' ++ slashes n →
    underBase template base' = path
  bareBase : base.toList.head? ≠ some '/' → underBase template ("/" ++ base) = path
  bareTemplate : template.toList.head? ≠ some '/' → underBase ("/" ++ template) base = path

/-- Under a base a template becomes a path that begins with a slash and stays where it is when it is
put under the base again. The path lies within the base, if that is not empty; it is the template,
or the base followed by the template, or the base alone for a template that is empty or a slash.
Slashes after the base, and a missing slash before the base or the template, make no difference. -/
theorem placed_once (template base : String) :
    PlacedOnce template base (underBase template base) := by
  have here := placed template base
  obtain ⟨n, parts, solid⟩ := exists_slashes base.toList
  refine ⟨⟨_, n, parts, solid, baseChars_eq base⟩, here.rooted baseChars_rooted (withSlash_head _),
    underBase_underBase template base, here.within (withSlash_head _), ?_, ?_, ?_, ?_⟩
  · rw [← withSlash_eq_root_iff]
    exact here.parts
  · rintro base' n (rfl | rfl)
    · exact underBase_congr rfl (baseChars_append_slashes base n)
    · exact underBase_congr rfl (baseChars_append_slashes base' n).symm
  · exact fun bare => underBase_congr rfl (baseChars_slash_append bare)
  · intro bare
    refine underBase_congr ?_ rfl
    have text : ("/" ++ template).toList = '/' :: template.toList := String.toList_append
    rw [text, withSlash_of_bare bare]
    rfl

/-- A template that only begins with the letters of its base is moved below it, whatever slashes the
two are written with. -/
theorem apiary_placed :
    let r := underBase "apiary" "api//"
    r = "/api/apiary" ∧ "api//".toList.head? ≠ some '/' ∧ baseChars "api//" ≠ [] ∧
      Within (baseChars "api//") r.toList ∧ underBase r "api//" = r ∧
      underBase "apiary" "/api//" = r ∧ underBase "apiary" "api" = r ∧
      underBase "/apiary" "api//" = r := by
  intro r
  have placed := placed_once "apiary" "api//"
  have filled : baseChars "api//" ≠ [] := by decide
  exact ⟨by decide, by decide, filled, placed.within filled, placed.again,
    placed.bareBase (by decide), placed.trailing "api" 2 (.inr (by decide)),
    placed.bareTemplate (by decide)⟩

end ApiGraph.Path
