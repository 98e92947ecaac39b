import ApiGraph.Json.Parser
import ApiGraph.Proofs.Json.Normal

/-!
# What is read is sound

Each token of a text has a sound value, each step of the grammar keeps the open containers sound, so
the value of a text is sound (`sound_of_parse`).
-/

namespace ApiGraph.Json

/-- The outcome of a scan has a property, if it has a value. -/
def Scan.Gives {α : Type} (P : α → Prop) : Scan α → Prop
  | .done v _ => P v
  | .failed .. => True

theorem inRange_floatScan (negative : Bool) (digits : List Char) (places : Nat) (exponent : Int)
    (used : Nat) : (floatScan negative digits places exponent used).Gives Number.InRange := by
  unfold floatScan
  split <;> trivial

theorem inRange_scanExponentDigits (negative : Bool) (digits : List Char) (places : Nat)
    (down : Bool) (used : Nat) (cs : List Char) :
    (scanExponentDigits negative digits places down used cs).Gives Number.InRange := by
  unfold scanExponentDigits
  split
  · trivial
  · split
    · simp only
      split
      · split <;> trivial
      · exact inRange_floatScan ..
    · trivial

theorem inRange_scanExponent (negative : Bool) (digits : List Char) (places : Nat) (used : Nat)
    (cs : List Char) : (scanExponent negative digits places used cs).Gives Number.InRange := by
  unfold scanExponent
  split <;> exact inRange_scanExponentDigits ..

theorem inRange_scanFraction (negative : Bool) (whole : List Char) (used : Nat) (cs : List Char) :
    (scanFraction negative whole used cs).Gives Number.InRange := by
  unfold scanFraction
  simp only
  split
  · split <;> trivial
  · split
    · exact inRange_scanExponent ..
    · exact inRange_scanExponent ..
    · exact inRange_floatScan ..

theorem inRange_integerScan (negative : Bool) (digits : List Char) (used : Nat) :
    (integerScan negative digits used).Gives Number.InRange := by
  unfold integerScan
  simp only
  split
  · rename_i small
    simp only [Bool.and_eq_true, decide_eq_true_eq] at small
    have bound : Digits.value digits < 2 ^ 64 := small.2
    show -2 ^ 63 ≤ (Digits.value digits : Int) ∧ (Digits.value digits : Int) < 2 ^ 64
    omega
  · split
    · rename_i small
      simp only [Bool.and_eq_true, decide_eq_true_eq] at small
      have bound : Digits.value digits ≤ 2 ^ 63 := small.2
      show -2 ^ 63 ≤ -(Digits.value digits : Int) ∧ -(Digits.value digits : Int) < 2 ^ 64
      omega
    · exact inRange_floatScan ..

theorem inRange_scanNumber (cs : List Char) : (scanNumber cs).Gives Number.InRange := by
  have unsigned : ∀ negative used cs,
      (scanUnsigned negative used cs).Gives Number.InRange := fun negative used cs => by
    unfold scanUnsigned
    split
    · trivial
    · split
      · trivial
      · split
        · trivial
        · simp only
          split
          · exact inRange_scanFraction ..
          · exact inRange_scanExponent ..
          · exact inRange_scanExponent ..
          · exact inRange_integerScan ..
  unfold scanNumber
  split <;> exact unsigned ..

def Token.Sound : Token → Prop
  | .scalar v => v.Sound
  | _ => True

theorem sound_toToken {α : Type} {cs : List Char} {token : α → Token} {scan : Scan α}
    (gives : scan.Gives fun v => (token v).Sound) : (scan.toToken cs token).1.Sound := by
  cases scan with
  | done v used => exact gives
  | failed => trivial

theorem gives_scanWord {value : Json} (sound : value.Sound) (used : Nat) (es cs : List Char) :
    (scanWord value used es cs).Gives Json.Sound := by
  induction es generalizing used cs with
  | nil => exact sound
  | cons e es ih =>
    cases cs with
    | nil => trivial
    | cons c cs =>
      unfold scanWord
      split
      · exact ih ..
      · trivial

theorem sound_firstToken (c : Char) (cs : List Char) : (firstToken c cs).1.Sound := by
  unfold firstToken
  split <;> try trivial
  · exact sound_toToken (gives_scanWord .null ..)
  · exact sound_toToken (gives_scanWord (.bool true) ..)
  · exact sound_toToken (gives_scanWord (.bool false) ..)
  · refine sound_toToken ?_
    cases scanString [] 0 cs <;> trivial
  · split
    · refine sound_toToken ?_
      have gives := inRange_scanNumber (c :: cs)
      cases scan : scanNumber (c :: cs) with
      | done n used =>
        rw [scan] at gives
        exact .num gives
      | failed => trivial
    · trivial

theorem sound_tokens {cs : List Char} {l : Lexeme} (member : l ∈ tokens cs) : l.token.Sound := by
  fun_induction tokens cs with
  | case1 => cases member
  | case2 c cs gap ih => exact ih member
  | case3 c cs gap token used first ih =>
    rcases List.mem_cons.mp member with rfl | later
    · have sound := sound_firstToken c cs
      rw [first] at sound
      exact sound
    · exact ih later

/-- What an open container holds so far is sound. -/
def Frame.Sound : Frame → Prop
  | .array items => ∀ j ∈ items, j.Sound
  | .object fields _ => (Json.obj fields).Sound

/-- All that was read before a state is sound. -/
def State.Sound : State → Prop
  | .value stack | .firstItem stack | .firstKey stack => ∀ f ∈ stack, f.Sound
  | .nextItem items stack | .afterItem items stack =>
    (∀ j ∈ items, j.Sound) ∧ ∀ f ∈ stack, f.Sound
  | .nextKey fields stack | .colon fields _ stack | .afterField fields stack =>
    (Json.obj fields).Sound ∧ ∀ f ∈ stack, f.Sound
  | .finished v => v.Sound

theorem sound_complete {v : Json} {stack : List Frame} (sound : v.Sound)
    (outer : ∀ f ∈ stack, f.Sound) : (complete v stack).Sound := by
  cases stack with
  | nil => exact sound
  | cons f rest =>
    obtain ⟨inner, below⟩ := List.forall_mem_cons.mp outer
    cases f with
    | array items => exact ⟨List.forall_mem_cons.mpr ⟨sound, inner⟩, below⟩
    | object fields key => exact ⟨Sound.setField inner key sound, below⟩

theorem sound_beginValue {depth : Nat} {stack : List Frame} {l : Lexeme} {state : State}
    (sound : l.token.Sound) (outer : ∀ f ∈ stack, f.Sound)
    (taken : beginValue depth stack l = .ok state) : state.Sound := by
  unfold beginValue at taken
  split at taken
  · rename_i v token
    injection taken with same
    rw [token] at sound
    exact same ▸ sound_complete sound outer
  · injection taken with same
    exact same ▸ sound_complete (.str _) outer
  · split at taken
    · injection taken with same
      exact same ▸ outer
    · cases taken
  · split at taken
    · injection taken with same
      exact same ▸ outer
    · cases taken
  · cases taken
  · cases taken

theorem sound_beginKey {fields : List (String × Json)} {stack : List Frame} {l : Lexeme}
    {state : State} (sound : (Json.obj fields).Sound) (outer : ∀ f ∈ stack, f.Sound)
    (taken : beginKey fields stack l = .ok state) : state.Sound := by
  unfold beginKey at taken
  split at taken
  · injection taken with same
    exact same ▸ ⟨sound, outer⟩
  · split at taken <;> cases taken
  · cases taken

theorem sound_step {depth : Nat} {state next : State} {l : Lexeme} (sound : l.token.Sound)
    (before : state.Sound) (taken : step depth state l = .ok next) : next.Sound := by
  have empty : (Json.obj []).Sound := .obj (fun _ member => nomatch member) .nil
  unfold step at taken
  split at taken
  · exact sound_beginValue sound before taken
  · split at taken
    · injection taken with same
      exact same ▸ sound_complete (.arr fun _ member => nomatch member) before
    · refine sound_beginValue sound ?_ taken
      exact List.forall_mem_cons.mpr ⟨(fun _ member => nomatch member), before⟩
  · split at taken
    · cases taken
    · refine sound_beginValue sound ?_ taken
      exact List.forall_mem_cons.mpr ⟨before.1, before.2⟩
  · split at taken
    · injection taken with same
      exact same ▸ before
    · injection taken with same
      refine same ▸ sound_complete (.arr fun j member => ?_) before.2
      exact before.1 j (List.mem_reverse.mp member)
    · cases taken
  · split at taken
    · injection taken with same
      exact same ▸ sound_complete empty before
    · exact sound_beginKey empty before taken
  · split at taken
    · cases taken
    · exact sound_beginKey before.1 before.2 taken
  · split at taken
    · injection taken with same
      exact same ▸ List.forall_mem_cons.mpr ⟨before.1, before.2⟩
    · cases taken
  · split at taken
    · injection taken with same
      exact same ▸ before
    · injection taken with same
      exact same ▸ sound_complete before.1 before.2
    · cases taken
  · cases taken

theorem sound_steps {depth : Nat} {state last : State} {lexemes : List Lexeme}
    (each : ∀ l ∈ lexemes, l.token.Sound) (before : state.Sound)
    (taken : lexemes.foldlM (step depth) state = .ok last) : last.Sound := by
  induction lexemes generalizing state with
  | nil =>
    injection taken with same
    exact same ▸ before
  | cons l rest ih =>
    obtain ⟨first, later⟩ := List.forall_mem_cons.mp each
    rw [List.foldlM_cons] at taken
    cases next : step depth state l with
    | error e => rw [next] at taken; cases taken
    | ok state' =>
      rw [next] at taken
      exact ih later (sound_step first before next) taken

theorem sound_of_parse {source : String} {j : Json} (read : parse source = .ok j) : j.Sound := by
  unfold parse parseWithin at read
  cases taken : (tokens source.toList).foldlM (step maxDepth) (.value []) with
  | error e => rw [taken] at read; cases read
  | ok state =>
    rw [taken] at read
    have sound := sound_steps (fun _ member => sound_tokens member)
      (show State.Sound (.value []) from fun _ member => nomatch member) taken
    change state.close = .ok j at read
    cases state <;> cases read
    exact sound

end ApiGraph.Json
