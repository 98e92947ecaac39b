import Mathlib.Data.List.Chain
import ApiGraph.Backend.Server
import ApiGraph.Proofs.Backend.ImportLines
import ApiGraph.Proofs.Backend.RouteLines
import ApiGraph.Proofs.Json.StringText

/-!
# The text of the document module

The document stands in its module over many lines. Behind the end of each stands a blank or a
closing bracket, so that no line of it imports anything (`document_free`).
-/

namespace ApiGraph

namespace Backend

open Source

namespace Source

/-- A character that begins neither a comment nor an import. -/
def isOrdinary (c : Char) : Bool := c != '/' && c != 'i'

/-- Behind the end of each line stands an ordinary character. -/
def Hangs (text : String) : Prop :=
  text.toList.IsChain fun a b => endsCode a = true → isOrdinary b = true

section

variable {a b : String}

theorem hangs_of_unbroken (unbroken : Unbroken a) : Hangs a :=
  (List.pairwise_of_forall_mem_list fun _ left _ _ ends =>
    absurd ends (by rw [unbroken _ left]; exact Bool.false_ne_true)).isChain

instance (text : String) : Decidable (Hangs text) :=
  inferInstanceAs (Decidable (List.IsChain _ _))

/-- Two texts are joined before an ordinary character, or inside of a line. -/
theorem Hangs.append (left : Hangs a) (right : Hangs b)
    (joint : (∀ c ∈ b.toList.head?, isOrdinary c = true) ∨
      ∀ c ∈ a.toList.getLast?, endsCode c = false) : Hangs (a ++ b) := by
  rw [Hangs, String.toList_append]
  refine List.isChain_append.mpr ⟨left, right, fun c last d first ends => ?_⟩
  rcases joint with ordinary | inline
  · exact ordinary d first
  · exact absurd ends (by rw [inline c last]; exact Bool.false_ne_true)

theorem head_of_starts (starts : Starts isOrdinary a) : ∀ c ∈ a.toList.head?, isOrdinary c = true := by
  obtain ⟨c, cs, form, ordinary⟩ := starts_iff.mp starts
  rw [form]
  rintro d ⟨⟩
  exact ordinary

theorem Hangs.line (left : Hangs a) (right : Hangs b) (starts : Starts isOrdinary b) :
    Hangs (a ++ b) := left.append right (.inl (head_of_starts starts))

/-- Each line but the first begins with an ordinary character. -/
theorem exists_pieces {cs : List Char}
    (chain : cs.IsChain fun a b => endsCode a = true → isOrdinary b = true) :
    ∃ first rest, Text.splitOn endsCode cs = first :: rest ∧
      (∀ c ∈ first.head?, c ∈ cs.head?) ∧ ∀ w ∈ rest, ∀ c ∈ w.head?, isOrdinary c = true := by
  induction cs with
  | nil => exact ⟨[], [], rfl, by simp, List.forall_mem_nil _⟩
  | cons c cs ih =>
    obtain ⟨next, later⟩ := List.isChain_cons.mp chain
    obtain ⟨first, rest, pieces, heads, ordinary⟩ := ih later
    rw [Text.splitOn, pieces]
    split
    · rename_i ends
      refine ⟨[], first :: rest, rfl, by simp, List.forall_mem_cons.mpr
        ⟨fun d head => next d (heads d head) ends, ordinary⟩⟩
    · exact ⟨c :: first, rest, rfl, fun d head => head, ordinary⟩

/-- Lines that hang behind an ordinary character import nothing. -/
theorem importFree_of_hangs (hangs : Hangs a) (starts : Starts isOrdinary a) : ImportFree a := by
  obtain ⟨first, rest, pieces, heads, ordinary⟩ := exists_pieces hangs
  have each : ∀ w ∈ first :: rest, importsIn (commentLines (String.ofList w)) = [] := by
    have both : ∀ w ∈ first :: rest, ∀ c ∈ w.head?, isOrdinary c = true :=
      List.forall_mem_cons.mpr ⟨fun c head => head_of_starts starts c (heads c head), ordinary⟩
    intro w member
    have code : isComment (String.ofList w) = false := by
      refine isComment_of_head fun head => ?_
      rw [String.toList_ofList] at head
      exact absurd (both w member '/' head) (by decide)
    have silent : readImport? (String.ofList w) = none := by
      refine readImport?_of_head fun head => ?_
      rw [String.toList_ofList] at head
      exact absurd (both w member 'i' head) (by decide)
    rw [commentLines, if_neg (by simp [code]), importsIn, List.filterMap_cons_none silent,
      List.filterMap_nil]
  rw [ImportFree, linesOf, pieces, importsIn, List.filterMap_flatMap, List.flatMap_map,
    List.flatMap_eq_nil_iff]
  exact each

theorem importFree_of_starts (unbroken : Unbroken a) (starts : Starts isOrdinary a) : ImportFree a :=
  importFree_of_hangs (hangs_of_unbroken unbroken) starts

theorem importFree_block {body : List String} (opens : Unbroken a) (starts : Starts isOrdinary a)
    (each : ∀ line ∈ body, Unbroken line) (closes : Unbroken b) :
    ∀ line ∈ block a body b, ImportFree line := by
  have brace : Unbroken "\x7b" := by decide
  have ends : Unbroken "\x7d" := by decide
  refine List.forall_mem_cons.mpr ⟨?_, List.forall_mem_append.mpr ⟨importFree_indent each,
    List.forall_mem_singleton.mpr ?_⟩⟩
  · exact importFree_of_starts (unbroken_append.mpr ⟨opens, brace⟩) (starts.append _)
  · exact importFree_of_starts (unbroken_append.mpr ⟨ends, closes⟩) (Starts.append (by decide) _)

end

end Source

/-- Blanks before a line. -/
def Margin (indent : String) : Prop := ∀ c ∈ indent.toList, c = ' '

namespace Margin

variable {indent : String}

theorem head (margin : Margin indent) : ∀ c ∈ indent.toList.head?, isOrdinary c = true := by
  intro c first
  rw [margin c (List.mem_of_mem_head? first)]
  decide

theorem last (margin : Margin indent) : ∀ c ∈ indent.toList.getLast?, endsCode c = false := by
  intro c member
  rw [margin c (List.mem_of_mem_getLast? member)]
  decide

theorem hangs (margin : Margin indent) : Hangs indent :=
  hangs_of_unbroken fun c member => by
    rw [margin c member]
    decide

theorem deeper (margin : Margin indent) : Margin (indent ++ "  ") := by
  have two : ∀ c ∈ "  ".toList, c = ' ' := Text.forall_of_all (by decide)
  intro c member
  rw [String.toList_append, List.mem_append] at member
  exact member.elim (margin c) (two c)

theorem starts (margin : Margin indent) : Starts isOrdinary (indent ++ "  ") := by
  obtain ⟨c, cs, form⟩ := List.exists_cons_of_ne_nil (show (indent ++ "  ").toList ≠ [] by simp)
  refine starts_iff.mpr ⟨c, cs, form, margin.deeper.head c ?_⟩
  rw [form]
  rfl

end Margin

end Backend

namespace Json

open Backend Backend.Source

theorem unbroken_writeString (s : String) : Unbroken (writeString s) := by
  have controls : ∀ n < 32, (escapeChar (Char.ofNat n)).all (endsCode · = false) = true := by decide
  have inner : ∀ c, ∀ d ∈ escapeChar c, endsCode d = false := by
    intro c d member
    by_cases small : c.toNat < 32
    · exact Text.forall_of_all (controls c.toNat small) d ((Char.ofNat_toNat c).symm ▸ member)
    · have plain : endsCode c = false := by
        refine Bool.eq_false_iff.mpr fun ends => small ?_
        simp only [endsCode, Bool.or_eq_true, beq_iff_eq] at ends
        rcases ends with rfl | rfl <;> decide
      unfold escapeChar at member
      split at member
      · exact (Text.forall_of_all (by decide) : ∀ d ∈ ['\\', '"'], endsCode d = false) d member
      · exact (Text.forall_of_all (by decide) : ∀ d ∈ ['\\', '\\'], endsCode d = false) d member
      all_goals try exact absurd (by decide) small
      rw [if_neg small, List.mem_singleton] at member
      rw [member, plain]
  rw [Unbroken, toList_writeString, List.forall_mem_cons]
  refine ⟨rfl, List.forall_mem_append.mpr ⟨fun d member => ?_, List.forall_mem_singleton.mpr rfl⟩⟩
  obtain ⟨c, -, inside⟩ := List.mem_flatMap.mp member
  exact inner c d inside

/-- A character of a number that may have an exponent. -/
def Scientific (c : Char) : Prop := Numeric c ∨ c = 'e' ∨ c = '+'

theorem scientific_write (style : NumberStyle) (x : Binary64) :
    ∀ c ∈ (style.write x).toList, Scientific c := by
  have digits : ∀ n, ∀ c ∈ Digits.ofNat n, Scientific c := fun n c member =>
    .inl (.inl (Digits.allDigits_ofNat n c member))
  have lay : ∀ n lead, ∀ c ∈ NumberStyle.layScientific (Digits.ofNat n) lead, Scientific c := by
    intro n lead
    refine List.forall_mem_append.mpr ⟨?_, List.forall_mem_cons.mpr ⟨.inr (.inl rfl),
      List.forall_mem_cons.mpr ⟨?_, digits _⟩⟩⟩
    · have all := digits n
      split
      · rename_i d r rest form
        rw [form, List.forall_mem_cons] at all
        exact List.forall_mem_cons.mpr ⟨all.1, List.forall_mem_cons.mpr ⟨.inl (.inr (.inl rfl)), all.2⟩⟩
      · exact all
    · split
      · exact .inl (.inr (.inr rfl))
      · exact .inr (.inr rfl)
  have body : ∀ n exponent lead, ∀ c ∈ if style.positional lead
      then style.layPositional (Digits.ofNat n) exponent
      else NumberStyle.layScientific (Digits.ofNat n) lead, Scientific c := by
    intro n exponent lead c member
    split at member
    · exact .inl (numeric_positional style (Digits.allDigits_ofNat n) exponent c member)
    · exact lay n lead c member
  intro c member
  rw [NumberStyle.write, String.toList_ofList] at member
  split at member
  · rcases List.mem_cons.mp member with rfl | later
    · exact .inl (.inr (.inr rfl))
    · exact body _ _ _ c later
  · exact body _ _ _ c member

theorem unbroken_writeNumber (n : Number) : Unbroken n.write := by
  cases n with
  | int n =>
    rw [Number.write]
    split
    · exact unbroken_append.mpr ⟨by decide, unbroken_repr _⟩
    · exact unbroken_repr _
  | float x =>
    exact unbroken_of_forall (scientific_write numberStyle x) (by simp [Scientific, Numeric])
      (by simp [Scientific, Numeric])

section

variable {indent : String}

/-- What stands between brackets on lines of its own. -/
theorem hangs_enclosed {opening items closing : String} (margin : Margin indent)
    (opens : Hangs opening) (inner : Hangs items) (starts : Starts isOrdinary items)
    (closes : Unbroken closing) (ends : Starts isOrdinary closing) :
    Hangs (opening ++ items ++ "\n" ++ indent ++ closing) := by
  have feed : Hangs "\n" := by decide
  have line := ((opens.line inner starts).line feed (by decide)).append margin.hangs
    (.inl margin.head)
  exact line.line (hangs_of_unbroken closes) ends

theorem starts_items (margin : Margin indent) (j : Json) (items : List Json) :
    Starts isOrdinary (prettyItems (indent ++ "  ") (j :: items)) := by
  cases items with
  | nil => exact margin.starts.append _
  | cons k items => exact ((margin.starts.append _).append _).append _

theorem starts_fields (margin : Margin indent) (f : String × Json) (fields : List (String × Json)) :
    Starts isOrdinary (prettyFields (indent ++ "  ") (f :: fields)) := by
  cases fields with
  | nil => exact ((margin.starts.append _).append _).append _
  | cons g fields => exact ((((margin.starts.append _).append _).append _).append _).append _

theorem hangs_field {value : String} (margin : Margin indent) (key : String) (hangs : Hangs value) :
    Hangs (indent ++ writeString key ++ ": " ++ value) := by
  have name := margin.hangs.append (hangs_of_unbroken (unbroken_writeString key)) (.inr margin.last)
  have colon : Hangs ": " := by decide
  have last : ": ".toList.getLast? = some ' ' := by decide
  refine (name.line colon (by decide)).append hangs (.inr ?_)
  rw [String.toList_append, List.getLast?_append, last]
  rintro c ⟨⟩
  decide

end

mutual

/-- The text of a value hangs. -/
theorem hangs_from : ∀ (j : Json) {indent : String}, Margin indent → Hangs (prettyFrom indent j)
  | .null, _, _ => hangs_of_unbroken (by decide : Unbroken "null")
  | .bool b, _, _ => hangs_of_unbroken (by cases b <;> decide : Unbroken (if b then "true" else "false"))
  | .num n, _, _ => hangs_of_unbroken (unbroken_writeNumber n)
  | .str s, _, _ => hangs_of_unbroken (unbroken_writeString s)
  | .arr [], _, _ => hangs_of_unbroken (by decide : Unbroken "[]")
  | .arr (j :: items), _, margin =>
    hangs_enclosed margin (by decide) (hangs_items (j :: items) margin) (starts_items margin j items)
      (by decide) (by decide)
  | .obj [], _, _ => hangs_of_unbroken (by decide : Unbroken "\x7b\x7d")
  | .obj (f :: fields), _, margin =>
    hangs_enclosed margin (by decide) (hangs_fields (f :: fields) margin)
      (starts_fields margin f fields) (by decide) (by decide)

theorem hangs_items : ∀ (items : List Json) {indent : String}, Margin indent →
    Hangs (prettyItems (indent ++ "  ") items)
  | [], _, _ => hangs_of_unbroken (by decide : Unbroken "")
  | [j], _, margin =>
    margin.deeper.hangs.append (hangs_from j margin.deeper) (.inr margin.deeper.last)
  | j :: k :: items, _, margin =>
    have comma : Hangs ",\n" := by decide
    have first := margin.deeper.hangs.append (hangs_from j margin.deeper) (.inr margin.deeper.last)
    (first.line comma (by decide)).line (hangs_items (k :: items) margin)
      (starts_items margin k items)

theorem hangs_fields : ∀ (fields : List (String × Json)) {indent : String}, Margin indent →
    Hangs (prettyFields (indent ++ "  ") fields)
  | [], _, _ => hangs_of_unbroken (by decide : Unbroken "")
  | [(key, j)], _, margin => hangs_field margin.deeper key (hangs_from j margin.deeper)
  | (key, j) :: f :: fields, _, margin =>
    have comma : Hangs ",\n" := by decide
    have first := hangs_field margin.deeper key (hangs_from j margin.deeper)
    (first.line comma (by decide)).line (hangs_fields (f :: fields) margin)
      (starts_fields margin f fields)

end

end Json

namespace Backend

open Source

/-- The module of a document imports nothing, and exports the document. -/
theorem legible_document (document : OpenApi.Document) :
    (Server.documentModule document).Legible where
  header := generated_free
  imports := List.forall_mem_nil _
  items := by
    have name : Unbroken "openapi" := by decide
    have text : "" ++ "const" ++ " " ++ "openapi" ++ (" = " ++ document.toJson.pretty ++ ";") =
        "const openapi = " ++ document.toJson.pretty ++ ";" := by
      have opens : "const openapi = " = "" ++ "const" ++ " " ++ "openapi" ++ " = " := by decide
      simp only [opens, String.append_assoc]
    have opens : Unbroken "const openapi = " := by decide
    have closes : Hangs ";" := by decide
    have inline : ∀ c ∈ "const openapi = ".toList.getLast?, endsCode c = false := by
      have last : "const openapi = ".toList.getLast? = some ' ' := by decide
      rw [last]
      rintro c ⟨⟩
      rfl
    have value : Hangs document.toJson.pretty :=
      Json.hangs_from document.toJson (List.forall_mem_nil _)
    have whole := ((hangs_of_unbroken opens).append value (.inr inline)).line closes (by decide)
    have free : ImportFree ("" ++ "const" ++ " " ++ "openapi" ++
        (" = " ++ document.toJson.pretty ++ ";")) := by
      rw [text]
      exact importFree_of_hangs whole ((Starts.append (by decide) _).append _)
    exact List.forall_mem_cons.mpr ⟨.inr ⟨rfl, rfl, List.forall_mem_singleton.mpr free⟩,
      List.forall_mem_cons.mpr ⟨trivial, List.forall_mem_singleton.mpr name⟩⟩

end Backend

end ApiGraph
