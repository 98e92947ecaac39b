import Mathlib.Data.List.TakeWhile
import ApiGraph.Path
import ApiGraph.Proofs.Naming

/-!
# Placeholders of a path

Where braces begin a segment of a path key (`Begins`): at a token, and at a literal segment that has
them itself. So a list of names has all of them when it covers every segment (`covered_iff`), and
paths with the same placeholders differ only where one has a token and the other braces
(`eq_iff_not_confused`). Under a base path a template keeps its tokens (`mem_segments_underBase`).
-/

namespace ApiGraph.Path

open Text

theorem segments_eq (path : String) : segments path = path.toList.splitOn '/' := by
  rw [segments, splitOn_eq_splitOnP, List.splitOn_eq_splitOnP]

theorem segment_solid {path : String} {s : List Char} (member : s ∈ segments path) : '/' ∉ s :=
  fun slash => absurd (mem_piece member slash).2 (by decide)

theorem segments_ofSegments {segs : List (List Char)} (some : segs ≠ [])
    (solid : ∀ s ∈ segs, '/' ∉ s) : segments (ofSegments segs) = segs := by
  rw [segments_eq, ofSegments, String.toList_ofList, List.splitOn_intercalate '/' solid some]

theorem token_spelled {s : List Char} {t : Token} (token : token? s = some t) :
    s = ':' :: (t.name.toList ++ t.suffix.toList) ∧ ∀ c ∈ t.name.toList, isNameChar c = true := by
  unfold token? at token
  split at token
  · rename_i rest
    split at token
    · cases token
    · cases token
      simp only [String.toList_ofList, List.takeWhile_append_dropWhile, true_and]
      exact fun c member => List.mem_takeWhile_imp member
  · cases token

theorem mem_tokenNames_iff {template n : String} :
    n ∈ tokenNames template ↔ ∃ s ∈ segments template, ∃ t, token? s = some t ∧ t.name = n := by
  simp only [tokenNames, List.mem_eraseDups, List.mem_map, List.mem_filterMap]
  constructor
  · rintro ⟨t, ⟨s, segment, token⟩, rfl⟩
    exact ⟨s, segment, t, token, rfl⟩
  · rintro ⟨s, segment, t, token, rfl⟩
    exact ⟨t, ⟨s, segment, token⟩, rfl⟩

theorem eraseDups_nodup (l : List String) : l.eraseDups.Nodup := by
  match l with
  | [] => exact List.nodup_nil
  | a :: as =>
    rw [List.eraseDups_cons, List.nodup_cons, List.mem_eraseDups]
    exact ⟨by simp, eraseDups_nodup _⟩
termination_by l.length
decreasing_by exact Nat.lt_succ_of_le (List.length_filter_le _ as)

theorem eraseDups_of_nodup {l : List String} (distinct : l.Nodup) : l.eraseDups = l := by
  induction l with
  | nil => rfl
  | cons a as ih =>
    obtain ⟨absent, rest⟩ := List.nodup_cons.mp distinct
    have kept : (as.filter fun b => !b == a) = as := by
      refine List.filter_eq_self.mpr fun b member => ?_
      have different : b ≠ a := fun same => absent (same ▸ member)
      simpa using different
    rw [List.eraseDups_cons, kept, ih rest]

theorem tokenNames_nodup (template : String) : (tokenNames template).Nodup := eraseDups_nodup _

theorem brace_free {template n : String} (token : n ∈ tokenNames template) : '}' ∉ n.toList := by
  obtain ⟨s, -, t, spelled, rfl⟩ := mem_tokenNames_iff.mp token
  exact fun brace => absurd ((token_spelled spelled).2 '}' brace) (by decide)

def Begins (n : String) (segment : List Char) : Prop := '{' :: (n.toList ++ ['}']) <+: segment

instance (n : String) (segment : List Char) : Decidable (Begins n segment) :=
  inferInstanceAs (Decidable (_ <+: _))

/-- A name in braces begins some segment of a path. -/
def IsPlaceholder (path n : String) : Prop := ∃ s ∈ segments path, Begins n s

instance (path n : String) : Decidable (IsPlaceholder path n) :=
  inferInstanceAs (Decidable (∃ s ∈ segments path, Begins n s))

theorem placeholder_token {s : List Char} {t : Token} (token : token? s = some t) :
    placeholder s = '{' :: (t.name.toList ++ '}' :: t.suffix.toList) := by
  simp [placeholder, token]

theorem placeholder_literal {s : List Char} (literal : token? s = none) : placeholder s = s := by
  simp [placeholder, literal]

theorem placeholder_solid {s : List Char} (solid : '/' ∉ s) : '/' ∉ placeholder s := by
  cases token : token? s with
  | none => rwa [placeholder_literal token]
  | some t =>
    rw [(token_spelled token).1] at solid
    rw [placeholder_token token]
    simpa using solid

theorem segments_placeholders (path : String) :
    segments (placeholders path) = (segments path).map placeholder := by
  have some : segments path ≠ [] := splitOn_ne_nil _ _
  refine segments_ofSegments (by simpa using some) fun s member => ?_
  obtain ⟨literal, segment, rfl⟩ := List.mem_map.mp member
  exact placeholder_solid (segment_solid segment)

theorem isPlaceholder_placeholders_iff {path n : String} :
    IsPlaceholder (placeholders path) n ↔ ∃ s ∈ segments path, Begins n (placeholder s) := by
  rw [IsPlaceholder, segments_placeholders]
  simp only [List.mem_map, exists_exists_and_eq_and]

/-- What begins the placeholder of a token: its name, and longer texts where a closing brace stands
in the suffix. -/
theorem begins_token_iff {s : List Char} {t : Token} (token : token? s = some t) {n : String} :
    Begins n (placeholder s) ↔ n = t.name ∨
      ∃ a b, t.suffix.toList = a ++ '}' :: b ∧ n.toList = t.name.toList ++ '}' :: a := by
  rw [Begins, placeholder_token token, List.cons_prefix_cons, eq_self, true_and,
    ← String.toList_inj]
  constructor
  · rintro ⟨rest, same⟩
    rw [List.append_assoc, List.singleton_append] at same
    -- One of the names continues the other with a closing brace, which the token's name has not.
    rcases List.append_eq_append_iff.mp same with ⟨more, name, tail⟩ | ⟨more, name, tail⟩
    · cases more with
      | nil => exact .inl (by simpa using name.symm)
      | cons c more =>
        obtain rfl : '}' = c := (List.cons.inj tail).1
        have letter := (token_spelled token).2 '}' (by simp [name])
        exact absurd letter (by decide)
    · cases more with
      | nil => exact .inl (by simpa using name)
      | cons c more =>
        obtain ⟨rfl, suffix⟩ := List.cons.inj tail
        exact .inr ⟨more, rest, suffix, name⟩
  · rintro (same | ⟨a, b, suffix, name⟩)
    · exact ⟨t.suffix.toList, by simp [same]⟩
    · exact ⟨b, by simp [name, suffix]⟩

/-! ### Covered segments -/

/-- The names have what may begin a segment in braces: the token, with no closing brace behind it,
or whatever begins a literal segment. -/
def Covered (names : List String) (segment : List Char) : Prop :=
  match token? segment with
  | some t => t.name ∈ names ∧ '}' ∉ t.suffix.toList
  | none => ∀ n, Begins n segment → n ∈ names

theorem covered_iff {names : List String} (plain : ∀ n ∈ names, '}' ∉ n.toList) (s : List Char) :
    Covered names s ↔ ∀ n, Begins n (placeholder s) → n ∈ names := by
  unfold Covered
  cases token : token? s with
  | none => rw [placeholder_literal token]
  | some t =>
    simp only [begins_token_iff token]
    constructor
    · rintro ⟨named, closed⟩ n (rfl | ⟨a, b, suffix, -⟩)
      · exact named
      · exact absurd (by simp [suffix]) closed
    · intro has
      refine ⟨has t.name (.inl rfl), fun brace => ?_⟩
      obtain ⟨a, b, suffix⟩ := List.append_of_mem brace
      have longer := has (String.ofList (t.name.toList ++ '}' :: a))
        (.inr ⟨a, b, suffix, String.toList_ofList⟩)
      exact plain _ longer (by simp)

/-- A literal segment that is spelled like the placeholder of a token. -/
def Mimics (literal segment : List Char) : Prop :=
  ∃ t, token? segment = some t ∧ literal = '{' :: (t.name.toList ++ '}' :: t.suffix.toList)

theorem Mimics.literal {l s : List Char} (mimics : Mimics l s) : token? l = none := by
  obtain ⟨t, -, rfl⟩ := mimics
  rfl

theorem Mimics.placeholder {l s : List Char} (mimics : Mimics l s) : placeholder s = l := by
  obtain ⟨t, token, rfl⟩ := mimics
  exact placeholder_token token

theorem not_mimics_self (s : List Char) : ¬ Mimics s s := by
  intro mimics
  obtain ⟨t, token, literal⟩ := mimics
  rw [literal] at token
  cases token

/-- The placeholders of tokens tell them apart. -/
theorem eq_of_placeholder_token {a b : List Char} {t u : Token} (tokenA : token? a = some t)
    (tokenB : token? b = some u) (same : placeholder a = placeholder b) : a = b := by
  -- the name ends at the first closing brace, since it holds none itself
  have begins : Begins t.name (placeholder b) := same ▸ (begins_token_iff tokenA).mpr (.inl rfl)
  have name : t.name = u.name := by
    rcases (begins_token_iff tokenB).mp begins with name | ⟨before, _, -, longer⟩
    · exact name
    · have letter := (token_spelled tokenA).2 '}' (by simp [longer])
      exact absurd letter (by decide)
  rw [placeholder_token tokenA, placeholder_token tokenB, name] at same
  have suffix : t.suffix.toList = u.suffix.toList := by simpa using same
  rw [(token_spelled tokenA).1, (token_spelled tokenB).1, name, suffix]

theorem placeholder_eq_iff {a b : List Char} :
    placeholder a = placeholder b ↔ a = b ∨ Mimics a b ∨ Mimics b a := by
  constructor
  · intro same
    cases tokenA : token? a with
    | none =>
      rw [placeholder_literal tokenA] at same
      cases tokenB : token? b with
      | none =>
        rw [placeholder_literal tokenB] at same
        exact .inl same
      | some u =>
        rw [placeholder_token tokenB] at same
        exact .inr (.inl ⟨u, tokenB, same⟩)
    | some t =>
      cases tokenB : token? b with
      | none =>
        rw [placeholder_literal tokenB, placeholder_token tokenA] at same
        exact .inr (.inr ⟨t, tokenA, same.symm⟩)
      | some u => exact .inl (eq_of_placeholder_token tokenA tokenB same)
  · rintro (rfl | mimics | mimics)
    · rfl
    · rw [mimics.placeholder, placeholder_literal mimics.literal]
    · rw [mimics.placeholder, placeholder_literal mimics.literal]

theorem ofSegments_segments (path : String) : ofSegments (segments path) = path := by
  rw [segments_eq, ofSegments, List.intercalate_splitOn, String.ofList_toList]

/-- At some place one of two paths has a token and the other a literal segment that mimics it. -/
def Confused (a b : String) : Prop :=
  ∃ (i : Nat) (s s' : List Char), (segments a)[i]? = some s ∧ (segments b)[i]? = some s' ∧
    (Mimics s s' ∨ Mimics s' s)

/-- Paths with the same placeholders are the same unless they are confused. -/
theorem eq_iff_not_confused {a b : String} (same : placeholders a = placeholders b) :
    a = b ↔ ¬ Confused a b := by
  constructor
  · rintro rfl ⟨i, s, s', left, right, mimics⟩
    obtain rfl : s = s' := Option.some.inj (left.symm.trans right)
    exact not_mimics_self s (or_self_iff.mp mimics)
  · intro clear
    have keys : (segments a).map placeholder = (segments b).map placeholder := by
      rw [← segments_placeholders, ← segments_placeholders, same]
    have segs : segments a = segments b := by
      refine List.ext_getElem? fun i => ?_
      have here := congrArg (·[i]?) keys
      simp only [List.getElem?_map] at here
      cases left : (segments a)[i]? with
      | none =>
        rw [left, Option.map_none] at here
        exact (Option.map_eq_none_iff.mp here.symm).symm
      | some s =>
        cases right : (segments b)[i]? with
        | none => simp [left, right] at here
        | some s' =>
          rw [left, right, Option.map_some, Option.map_some, Option.some.injEq] at here
          have equal : s = s' := (placeholder_eq_iff.mp here).resolve_right fun mimics =>
            clear ⟨i, s, s', left, right, mimics⟩
          rw [equal]
    rw [← ofSegments_segments a, segs, ofSegments_segments]

/-! ### Base paths -/

theorem withSlash_eq (cs : List Char) : ∃ rest, withSlash cs = '/' :: rest ∧
    ∀ s ∈ splitOn (· == '/') cs, s ≠ [] → s ∈ splitOn (· == '/') rest := by
  unfold withSlash
  split
  · rename_i rest
    refine ⟨rest, rfl, fun s member some => ?_⟩
    have split := splitOn_append_cons (p := (· == '/')) (c := '/') rfl [] rest
    rw [List.nil_append] at split
    rw [split] at member
    exact (List.mem_append.mp member).resolve_left (by simpa [splitOn] using some)
  · exact ⟨_, rfl, fun _ member _ => member⟩

/-- A template keeps its segments under a base path, but for empty ones. -/
theorem mem_segments_underBase {template base : String} {s : List Char}
    (member : s ∈ segments template) (some : s ≠ []) : s ∈ segments (underBase template base) := by
  obtain ⟨rest, slash, keeps⟩ := withSlash_eq template.toList
  have behind : ∀ before, s ∈ splitOn (· == '/') (before ++ withSlash template.toList) := by
    intro before
    rw [slash, splitOn_append_cons rfl]
    exact List.mem_append_right _ (keeps s member some)
  rw [segments, underBase, String.toList_ofList]
  split
  · exact behind []
  · split
    · rename_i root
      obtain rfl : rest = [] := by simpa [slash] using root
      exact absurd (List.mem_singleton.mp (keeps s member some)) some
    · exact behind _

/-- The tokens of a template are tokens of its path. -/
theorem exists_token_underBase {template n : String} (base : String)
    (token : n ∈ tokenNames template) :
    ∃ s ∈ segments (underBase template base), ∃ t, token? s = some t ∧ t.name = n := by
  obtain ⟨s, member, t, spelled, name⟩ := mem_tokenNames_iff.mp token
  have some : s ≠ [] := by
    rw [(token_spelled spelled).1]
    exact List.cons_ne_nil _ _
  exact ⟨s, mem_segments_underBase member some, t, spelled, name⟩

theorem isPlaceholder_of_token {template base n : String} (token : n ∈ tokenNames template) :
    IsPlaceholder (placeholders (underBase template base)) n := by
  obtain ⟨s, member, t, spelled, rfl⟩ := exists_token_underBase base token
  rw [isPlaceholder_placeholders_iff]
  exact ⟨s, member, (begins_token_iff spelled).mpr (.inl rfl)⟩

variable {c : Char}

theorem mem_withSlash_iff (letter : c ≠ '/') (cs : List Char) : c ∈ withSlash cs ↔ c ∈ cs := by
  unfold withSlash
  split
  · rfl
  · rw [List.mem_cons]
    exact or_iff_right letter

theorem mem_dropSlashes_iff (letter : c ≠ '/') (cs : List Char) :
    c ∈ dropSlashes cs ↔ c ∈ cs := by
  have kept : ∀ l : List Char, c ∈ l.dropWhile (· == '/') ↔ c ∈ l := by
    intro l
    have slashes : c ∉ l.takeWhile (· == '/') := by
      intro member
      have slash : (c == '/') = true := List.mem_takeWhile_imp (p := (· == '/')) member
      exact letter (eq_of_beq slash)
    have parts := List.mem_append (s := l.takeWhile (· == '/')) (t := l.dropWhile (· == '/')) (a := c)
    rw [List.takeWhile_append_dropWhile] at parts
    exact (parts.trans (or_iff_right slashes)).symm
  rw [dropSlashes, List.mem_reverse, kept, List.mem_reverse]

theorem mem_baseChars_iff (letter : c ≠ '/') (base : String) :
    c ∈ baseChars base ↔ c ∈ base.toList := by
  rw [← mem_dropSlashes_iff letter base.toList, baseChars]
  split
  · rename_i none
    rw [none]
  · exact mem_withSlash_iff letter _

/-- Beside slashes, a path is written with the characters of its template and of its base. -/
theorem mem_underBase_iff (letter : c ≠ '/') {template base : String} :
    c ∈ (underBase template base).toList ↔ c ∈ template.toList ∨ c ∈ base.toList := by
  rw [← mem_withSlash_iff letter template.toList, ← mem_baseChars_iff letter base, underBase,
    String.toList_ofList]
  split
  · rename_i covered
    refine (or_iff_left_of_imp fun inBase => ?_).symm
    -- a template that is kept as it is begins with the base
    rw [Bool.or_eq_true, Bool.or_eq_true, List.isEmpty_iff, beq_iff_eq, List.isPrefixOf_iff_prefix]
      at covered
    rcases covered with (none | same) | begins
    · rw [none] at inBase
      exact absurd inBase List.not_mem_nil
    · rw [same]
      exact inBase
    · exact begins.subset (List.mem_append_left _ inBase)
  · split
    · rename_i root
      rw [beq_iff_eq] at root
      refine (or_iff_right fun slash => ?_).symm
      rw [root] at slash
      exact letter (List.mem_singleton.mp slash)
    · rw [List.mem_append, or_comm]

end ApiGraph.Path
