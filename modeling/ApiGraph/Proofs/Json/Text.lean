import ApiGraph.Json.Parser
import ApiGraph.Proofs.Json.NumberText
import ApiGraph.Proofs.Json.StringText

/-!
# Texts read back

The text of a legible value is read as the value in normal form, as long as its containers are not
nested too deep, and is refused otherwise (`parseWithin_pretty`).
-/

namespace ApiGraph.Json

mutual

/-- How many containers are nested in a value. -/
def depth : Json → Nat
  | .arr items => depthItems items + 1
  | .obj fields => depthFields fields + 1
  | _ => 0

def depthItems : List Json → Nat
  | [] => 0
  | j :: rest => max (depth j) (depthItems rest)

def depthFields : List (String × Json) → Nat
  | [] => 0
  | (_, j) :: rest => max (depth j) (depthFields rest)

end

theorem tokens_gap {c : Char} (gap : isGap c = true) (cs : List Char) :
    tokens (c :: cs) = tokens cs := by
  rw [tokens, if_pos gap]

theorem tokens_gaps {gaps : List Char} (each : ∀ c ∈ gaps, isGap c = true) (cs : List Char) :
    tokens (gaps ++ cs) = tokens cs := by
  induction gaps with
  | nil => rfl
  | cons c gaps ih =>
    rw [List.cons_append, tokens_gap (each c List.mem_cons_self)]
    exact ih fun d member => each d (List.mem_cons_of_mem _ member)

theorem tokens_of_first {c : Char} {body rest : List Char} {t : Token} (solid : isGap c = false)
    (first : firstToken c (body ++ rest) = (t, body.length)) :
    tokens (c :: (body ++ rest)) = ⟨t, c :: (body ++ rest)⟩ :: tokens rest := by
  rw [tokens, if_neg (by simp [solid]), first]
  simp only
  rw [List.drop_left]

/-- The characters are one token, whatever ends it. -/
def Lexes (cs : List Char) (t : Token) : Prop :=
  ∀ rest, Ends rest → tokens (cs ++ rest) = ⟨t, cs ++ rest⟩ :: tokens rest

theorem lexes_null : Lexes "null".toList (.scalar .null) :=
  fun rest _ => @tokens_of_first 'n' "ull".toList rest _ rfl rfl

theorem lexes_bool (b : Bool) : Lexes (if b then "true" else "false").toList (.scalar (.bool b)) := by
  cases b
  · exact fun rest _ => @tokens_of_first 'f' "alse".toList rest _ rfl rfl
  · exact fun rest _ => @tokens_of_first 't' "rue".toList rest _ rfl rfl

theorem lexes_string (s : String) : Lexes (writeString s).toList (.text s) := by
  intro rest _
  rw [toList_writeString]
  refine tokens_of_first rfl ?_
  show (scanString [] 0 _).toToken _ _ = _
  rw [List.append_assoc, List.singleton_append, scanString_write]
  rfl

theorem lexes_mark {c : Char} {t : Token} (solid : isGap c = false)
    (first : ∀ rest, firstToken c rest = (t, 0)) : Lexes [c] t :=
  fun rest _ => @tokens_of_first c [] rest t solid (first rest)

theorem start_of_scanNumber {cs : List Char} {n : Number} {used : Nat}
    (scanned : scanNumber cs = .done n used) :
    ∃ c tail, cs = c :: tail ∧ (c.isDigit || c == '-') = true := by
  unfold scanNumber at scanned
  split at scanned
  · exact ⟨_, _, rfl, by decide⟩
  · obtain ⟨c, tail, form, digit⟩ := exists_digit_of_scanUnsigned scanned
    exact ⟨c, tail, form, by rw [digit]; rfl⟩

theorem firstToken_number {c : Char} {cs : List Char} {n : Number} {used : Nat}
    (start : (c.isDigit || c == '-') = true) (scanned : scanNumber (c :: cs) = .done n used) :
    firstToken c cs = (.scalar (.num n), used - 1) := by
  unfold firstToken
  split <;> first | cases start | skip
  rw [if_pos start, scanned]
  rfl

theorem lexes_number {n : Number} (inRange : n.InRange) :
    Lexes n.write.toList (.scalar (.num n)) := by
  have none : Ends [] := fun _ member => nomatch member
  have alone := scanNumber_write inRange none
  rw [List.append_nil] at alone
  obtain ⟨c, body, form, start⟩ := start_of_scanNumber alone
  intro rest ends
  have scanned := scanNumber_write inRange ends
  rw [form] at scanned ⊢
  refine tokens_of_first ?_ (firstToken_number start scanned)
  cases gap : isGap c with
  | false => rfl
  | true =>
    simp only [isGap, Bool.or_eq_true, beq_iff_eq] at gap
    rcases gap with ((rfl | rfl) | rfl) | rfl <;> cases start

/-- A character that cannot belong to a number. -/
def Mark (c : Char) : Prop := c.isDigit = false ∧ c ≠ '.' ∧ c ≠ 'e' ∧ c ≠ 'E'

instance (c : Char) : Decidable (Mark c) :=
  inferInstanceAs (Decidable (c.isDigit = false ∧ c ≠ '.' ∧ c ≠ 'e' ∧ c ≠ 'E'))

theorem ends_cons {c : Char} (mark : Mark c) (cs : List Char) : Ends (c :: cs) := by
  intro d member
  injection member with same
  exact same ▸ mark

/-! ### Runs -/

def run (depth : Nat) (s : State) (cs : List Char) : Except SyntaxError State :=
  (tokens cs).foldlM (step depth) s

/-- A text leads from one state to another, whatever ends it, unless it is nested too deep. -/
def Leads (depth : Nat) (fits : Prop) (s t : State) (cs : List Char) : Prop :=
  ∀ rest, Ends rest → (fits → run depth s (cs ++ rest) = run depth t rest) ∧
    (¬ fits → ∃ e, e.fault = .tooDeep ∧ run depth s (cs ++ rest) = .error e)

section

variable {depth : Nat} {fits within : Prop} {s t u : State} {cs ds : List Char}

theorem Leads.trans {c : Char} (first : Leads depth fits s t cs)
    (second : fits → Leads depth within t u (c :: ds)) (mark : Mark c) :
    Leads depth (fits ∧ within) s u (cs ++ c :: ds) := by
  intro rest ends
  obtain ⟨taken, refused⟩ := first (c :: ds ++ rest) (ends_cons mark _)
  rw [List.append_assoc]
  by_cases room : fits
  · rw [taken room]
    obtain ⟨taken, refused⟩ := second room rest ends
    exact ⟨fun both => taken both.2, fun tight => refused fun inner => tight ⟨room, inner⟩⟩
  · exact ⟨fun both => absurd both.1 room, fun _ => refused room⟩

theorem Leads.congr (leads : Leads depth fits s t cs) (same : fits ↔ within) :
    Leads depth within s t cs := propext same ▸ leads

theorem Leads.gaps {gaps : List Char} (leads : Leads depth fits s t cs)
    (each : ∀ c ∈ gaps, isGap c = true) : Leads depth fits s t (gaps ++ cs) := by
  intro rest ends
  unfold run
  rw [List.append_assoc, tokens_gaps each]
  exact leads rest ends

theorem leads_token {token : Token} (lexes : Lexes cs token)
    (taken : ∀ source, (fits → step depth s ⟨token, source⟩ = .ok t) ∧
      (¬ fits → ∃ e, e.fault = .tooDeep ∧ step depth s ⟨token, source⟩ = .error e)) :
    Leads depth fits s t cs := by
  intro rest ends
  obtain ⟨taken, refused⟩ := taken (cs ++ rest)
  unfold run
  rw [lexes rest ends, List.foldlM_cons]
  constructor
  · intro room
    rw [taken room]
    rfl
  · intro tight
    obtain ⟨e, deep, failed⟩ := refused tight
    exact ⟨e, deep, by rw [failed]; rfl⟩

theorem leads_of_lexes {token : Token} (lexes : Lexes cs token)
    (taken : ∀ source, step depth s ⟨token, source⟩ = .ok t) : Leads depth True s t cs :=
  leads_token lexes fun source => ⟨fun _ => taken source, fun tight => absurd trivial tight⟩

theorem leads_mark {c : Char} {token : Token} (first : ∀ rest, firstToken c rest = (token, 0))
    (taken : ∀ source, step depth s ⟨token, source⟩ = .ok t)
    (solid : isGap c = false := by rfl) : Leads depth True s t [c] :=
  leads_of_lexes (lexes_mark solid first) taken

end

/-! ### Values -/

def Blank (indent : String) : Prop := ∀ c ∈ indent.toList, isGap c = true

theorem Blank.deeper {indent : String} (blank : Blank indent) : Blank (indent ++ "  ") := by
  intro c member
  rw [String.toList_append] at member
  rcases List.mem_append.mp member with outer | two
  · exact blank c outer
  · exact List.all_eq_true.mp (by decide : "  ".toList.all isGap = true) c two

theorem Blank.line {indent : String} (blank : Blank indent) :
    ∀ c ∈ '\n' :: indent.toList, isGap c = true :=
  List.forall_mem_cons.mpr ⟨rfl, blank⟩

theorem gap_line : ∀ c ∈ ['\n'], isGap c = true := List.forall_mem_singleton.mpr rfl

theorem gap_space : ∀ c ∈ [' '], isGap c = true := List.forall_mem_singleton.mpr rfl

/-- The next token of the state may begin a value inside the given containers. -/
def Awaits (depth : Nat) (s : State) (stack : List Frame) : Prop :=
  ∀ l : Lexeme, l.token ≠ .closeBracket → step depth s l = beginValue depth stack l

theorem awaits_value (depth : Nat) (stack : List Frame) : Awaits depth (.value stack) stack :=
  fun _ _ => rfl

theorem awaits_firstItem (depth : Nat) (stack : List Frame) :
    Awaits depth (.firstItem stack) (.array [] :: stack) :=
  fun _ open_ => if_neg open_

theorem awaits_nextItem (depth : Nat) (items : List Json) (stack : List Frame) :
    Awaits depth (.nextItem items stack) (.array items :: stack) :=
  fun _ open_ => if_neg open_

/-- The next token of the state may be the key of a field. -/
def AwaitsKey (depth : Nat) (s : State) (fields : List (String × Json)) (stack : List Frame) :
    Prop :=
  ∀ key source, step depth s ⟨.text key, source⟩ = .ok (.colon fields key stack)

/-- The text of the value leads to the value in normal form. -/
def Spelt (j : Json) : Prop :=
  ∀ {depth : Nat} {indent : String} {s : State} {stack : List Frame}, Blank indent →
    stack.length ≤ depth → Awaits depth s stack →
    Leads depth (stack.length + j.depth ≤ depth) s (complete j.normal stack)
      (prettyFrom indent j).toList

theorem spelt_of_lexes (j : Json) {token : Token}
    (lexes : ∀ indent, Lexes (prettyFrom indent j).toList token) (flat : j.depth = 0)
    (notClose : token ≠ .closeBracket)
    (taken : ∀ depth stack source,
      beginValue depth stack ⟨token, source⟩ = .ok (complete j.normal stack)) : Spelt j := by
  intro depth indent s stack _ room awaits
  refine (leads_of_lexes (lexes indent) fun source => ?_).congr ?_
  · rw [awaits _ notClose]
    exact taken depth stack source
  · rw [flat]
    exact ⟨fun _ => room, fun _ => trivial⟩

theorem leads_items {items : List Json} (each : ∀ j ∈ items, Spelt j) (nonempty : items ≠ [])
    {depth : Nat} {indent : String} {s : State} {done : List Json} {stack : List Frame}
    (blank : Blank indent) (room : stack.length < depth)
    (awaits : Awaits depth s (.array done :: stack)) :
    Leads depth (stack.length + 1 + depthItems items ≤ depth) s
      (.afterItem ((items.map normal).reverse ++ done) stack) (prettyItems indent items).toList := by
  induction items generalizing s done with
  | nil => exact absurd rfl nonempty
  | cons j rest ih =>
    obtain ⟨first, others⟩ := List.forall_mem_cons.mp each
    have value := (first blank room awaits).gaps blank
    cases rest with
    | nil =>
      rw [prettyItems, String.toList_append]
      refine value.congr ?_
      simp [depthItems]
    | cons k rest =>
      have comma : Leads depth True (complete j.normal (.array done :: stack))
          (.nextItem (j.normal :: done) stack) [','] :=
        leads_mark (fun _ => rfl) fun _ => rfl
      have later := ih others (List.cons_ne_nil _ _) (awaits_nextItem depth (j.normal :: done) stack)
      have line := later.gaps gap_line
      have both := value.trans (fun _ => comma.trans (fun _ => line)
        (by decide)) (by decide)
      rw [prettyItems.eq_3 _ _ _ (List.cons_ne_nil _ _)]
      simp only [String.toList_append, List.append_assoc, List.map_cons, List.reverse_cons] at both ⊢
      refine both.congr ?_
      simp only [depthItems, List.length_cons, true_and]
      omega

theorem leads_fields {fields : List (String × Json)} (each : ∀ f ∈ fields, Spelt f.2)
    (nonempty : fields ≠ []) {depth : Nat} {indent : String} {s : State}
    {done : List (String × Json)} {stack : List Frame} (blank : Blank indent)
    (room : stack.length < depth) (awaits : AwaitsKey depth s done stack) :
    Leads depth (stack.length + 1 + depthFields fields ≤ depth) s
      (.afterField (fields.foldl (fun done f => setField f.1 f.2.normal done) done) stack)
      (prettyFields indent fields).toList := by
  induction fields generalizing s done with
  | nil => exact absurd rfl nonempty
  | cons f rest ih =>
    obtain ⟨key, j⟩ := f
    obtain ⟨first, others⟩ := List.forall_mem_cons.mp each
    have name : Leads depth True s (.colon done key stack) (writeString key).toList :=
      leads_of_lexes (lexes_string key) (awaits key)
    have colon : Leads depth True (.colon done key stack) (.value (.object done key :: stack))
        [':'] := leads_mark (fun _ => rfl) fun _ => rfl
    have value := (first blank room (awaits_value depth (.object done key :: stack))).gaps
      gap_space
    have field := (name.trans (fun _ => colon.trans (fun _ => value) (by decide)) (by decide)).gaps blank
    cases rest with
    | nil =>
      rw [prettyFields]
      simp only [String.toList_append, List.append_assoc] at field ⊢
      refine field.congr ?_
      simp [depthFields]
    | cons g rest =>
      have comma : Leads depth True (complete j.normal (.object done key :: stack))
          (.nextKey (setField key j.normal done) stack) [','] :=
        leads_mark (fun _ => rfl) fun _ => rfl
      have awaits : AwaitsKey depth (.nextKey (setField key j.normal done) stack)
          (setField key j.normal done) stack := fun _ _ => rfl
      have later := ih others (List.cons_ne_nil _ _) awaits
      have line := later.gaps gap_line
      have both := field.trans (fun _ => comma.trans (fun _ => line)
        (by decide)) (by decide)
      rw [prettyFields.eq_3 _ _ _ _ (List.cons_ne_nil _ _)]
      simp only [String.toList_append, List.append_assoc, List.foldl_cons] at both ⊢
      refine both.congr ?_
      simp only [depthFields, List.length_cons, true_and]
      omega

theorem leads_open {depth : Nat} {s next : State} {stack : List Frame} {c : Char} {token : Token}
    (lexes : Lexes [c] token) (notClose : token ≠ .closeBracket) (awaits : Awaits depth s stack)
    (taken : ∀ source, beginValue depth stack ⟨token, source⟩ =
      if stack.length < depth then .ok next else .error ⟨.tooDeep, source, 1⟩) :
    Leads depth (stack.length < depth) s next [c] := by
  refine leads_token lexes fun source => ?_
  rw [awaits _ notClose, taken]
  exact ⟨fun room => if_pos room, fun tight => ⟨_, rfl, if_neg tight⟩⟩

theorem spelt_arr {items : List Json} (each : ∀ j ∈ items, Spelt j) : Spelt (.arr items) := by
  intro depth indent s stack blank room awaits
  have bracket : Leads depth (stack.length < depth) s (.firstItem stack) ['['] :=
    leads_open (lexes_mark rfl fun _ => rfl) nofun awaits fun _ => rfl
  rw [normal_arr]
  cases items with
  | nil =>
    have close : Leads depth True (.firstItem stack) (complete (.arr []) stack) [']'] :=
      leads_mark (fun _ => rfl) fun _ => rfl
    rw [List.map_nil, prettyFrom]
    refine (bracket.trans (fun _ => close) (by decide)).congr ?_
    simp only [Json.depth, depthItems, and_true]
    omega
  | cons i rest =>
    have inside (deeper : stack.length < depth) := (leads_items each (List.cons_ne_nil _ _)
      blank.deeper deeper (awaits_firstItem depth stack)).gaps
      gap_line
    have close : Leads depth True
        (.afterItem (((i :: rest).map normal).reverse ++ []) stack)
        (complete (.arr ((i :: rest).map normal)) stack) [']'] :=
      leads_of_lexes (lexes_mark rfl fun _ => rfl) fun _ => by
        rw [List.append_nil]
        show Except.ok (complete (.arr (List.reverse (List.reverse _))) stack) = _
        rw [List.reverse_reverse]
    have whole := bracket.trans (fun deeper => (inside deeper).trans
      (fun _ => close.gaps blank.line) (by decide)) (by decide)
    simp only [prettyFrom, String.toList_append, List.append_assoc] at whole ⊢
    refine whole.congr ?_
    simp only [Json.depth, depthItems, and_true]
    omega

theorem spelt_obj {fields : List (String × Json)} (each : ∀ f ∈ fields, Spelt f.2) :
    Spelt (.obj fields) := by
  intro depth indent s stack blank room awaits
  have brace : Leads depth (stack.length < depth) s (.firstKey stack) ['\x7b'] :=
    leads_open (lexes_mark rfl fun _ => rfl) nofun awaits fun _ => rfl
  rw [normal_obj, sortFields, List.foldl_map]
  cases fields with
  | nil =>
    have close : Leads depth True (.firstKey stack) (complete (.obj []) stack) ['\x7d'] :=
      leads_mark (fun _ => rfl) fun _ => rfl
    rw [List.foldl_nil, prettyFrom]
    refine (brace.trans (fun _ => close) (by decide)).congr ?_
    simp only [Json.depth, depthFields, and_true]
    omega
  | cons f rest =>
    have inside (deeper : stack.length < depth) := (leads_fields each (List.cons_ne_nil _ _)
      blank.deeper deeper (s := .firstKey stack) fun _ _ => rfl).gaps
      gap_line
    have close (done : List (String × Json)) : Leads depth True (.afterField done stack)
        (complete (.obj done) stack) ['\x7d'] :=
      leads_mark (fun _ => rfl) fun _ => rfl
    have whole := brace.trans (fun deeper => (inside deeper).trans
      (fun _ => (close _).gaps blank.line) (by decide)) (by decide)
    simp only [prettyFrom, String.toList_append, List.append_assoc] at whole ⊢
    refine whole.congr ?_
    simp only [Json.depth, depthFields, and_true]
    omega

theorem Legible.spelt {j : Json} (legible : j.Legible) : Spelt j := by
  induction legible with
  | null => exact spelt_of_lexes .null (fun _ => lexes_null) rfl nofun fun _ _ _ => rfl
  | bool b => exact spelt_of_lexes (.bool b) (fun _ => lexes_bool b) rfl nofun fun _ _ _ => rfl
  | @num n inRange =>
    exact spelt_of_lexes (.num n) (fun _ => lexes_number inRange) rfl nofun fun _ _ _ => rfl
  | str s => exact spelt_of_lexes (.str s) (fun _ => lexes_string s) rfl nofun fun _ _ _ => rfl
  | arr _ ih => exact spelt_arr ih
  | obj _ ih => exact spelt_obj ih

/-- The text of a legible value is read as its normal form, and is refused if it is nested too
deep. -/
theorem parseWithin_pretty {j : Json} (legible : j.Legible) (depth : Nat) :
    (j.depth ≤ depth → parseWithin depth j.pretty = .ok j.normal) ∧
      (¬ j.depth ≤ depth → ∃ e, e.fault = .tooDeep ∧ parseWithin depth j.pretty = .error e) := by
  have blank : Blank "" := fun _ member => nomatch member
  obtain ⟨taken, refused⟩ := legible.spelt blank (Nat.zero_le depth) (awaits_value depth []) []
    fun _ member => nomatch member
  rw [List.append_nil, List.length_nil, Nat.zero_add] at taken refused
  have runs : parseWithin depth j.pretty =
    run depth (.value []) (prettyFrom "" j).toList >>= State.close := rfl
  rw [runs]
  constructor
  · intro fits
    rw [taken fits, run, tokens]
    rfl
  · intro deep
    obtain ⟨e, fault, failed⟩ := refused deep
    exact ⟨e, fault, by rw [failed]; rfl⟩

end ApiGraph.Json
