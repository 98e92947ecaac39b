import ApiGraph.Backend.FieldSpec
import ApiGraph.Proofs.Backend.Uses
import ApiGraph.Proofs.Number.Numeral
import ApiGraph.Proofs.Text.Value

/-!
# Specifications read back

A specification is written as a record, which `toValue` gives. `read?_write` says that the record is
read from the text, children and all.
-/

namespace ApiGraph.Backend.FieldSpec

open Text

def limitMembers (c : Constraints) : List (String × Value) :=
  (c.choices.map fun l => ("enum", Value.list (l.map .text))).toList ++
    (c.minLength.map fun n => ("minLength", Value.word (toString n))).toList ++
    (c.maxLength.map fun n => ("maxLength", Value.word (toString n))).toList ++
    (c.minimum.map fun x => ("minimum", Value.word (numberStyle.write x))).toList ++
    (c.maximum.map fun x => ("maximum", Value.word (numberStyle.write x))).toList ++
    (c.pattern.map fun p => ("pattern", Value.text p)).toList

mutual

def toValue : FieldSpec → Value
  | .mk name type required limits children =>
    .record
      ([("name", .text name), ("type", .text type)] ++
        (if required then [("required", .word "true")] else []) ++ limitMembers limits ++
        (if children.isEmpty then [] else [("children", .list (toValues children))]))

def toValues : List FieldSpec → List Value
  | [] => []
  | f :: fs => toValue f :: toValues fs

end

theorem toValues_eq_map (specs : List FieldSpec) : toValues specs = specs.map toValue := by
  induction specs with
  | nil => rfl
  | cons f fs ih => rw [toValues, ih, List.map_cons]

theorem wordChar_of_digit {c : Char} (digit : c.isDigit = true) : isWordChar c = true := by
  simp [isWordChar, isIdentRest, digit]

theorem spelled_nat (n : Nat) : Spelled value? (toString n).toList (.word (toString n)) := by
  have digits : (toString n).toList = Digits.ofNat n := Nat.toList_repr
  refine spelled_word ?_ fun c member => ?_
  · intro empty
    rw [empty] at digits
    exact Digits.ofNat_ne_nil n digits.symm
  · exact wordChar_of_digit (Digits.allDigits_ofNat n c (digits ▸ member))

theorem denotes_number (x : Binary64) : Numeral.Denotes (numberStyle.write x).toList x :=
  Numeral.denotes_write (fun _ => rfl) rfl x

theorem spelled_number (x : Binary64) :
    Spelled value? (numberStyle.write x).toList (.word (numberStyle.write x)) := by
  refine spelled_word ?_ fun c member => ?_
  · intro empty
    obtain ⟨d, numeral, -⟩ := denotes_number x
    rw [empty] at numeral
    obtain ⟨c, rest, same, -⟩ := numeral.exists_head
    cases same
  · rcases numeric_write x c member with digit | rfl | rfl
    · exact wordChar_of_digit digit
    · decide
    · decide

theorem spelled_texts (l : List String) :
    Spelled value? (inBrackets (l.map quote)).toList (.list (l.map .text)) := by
  refine spelled_inBrackets ?_
  rw [List.forall₂_map_left_iff, List.forall₂_map_right_iff, List.forall₂_same]
  exact fun s _ => spelled_quote s

theorem members_limits (c : Constraints) : Members (limitParts c) (limitMembers c) := by
  have choices := members_toList c.choices fun l =>
    spelled_field "enum" "enum: " (by decide) (by decide) (spelled_texts l)
  have least := members_toList c.minLength fun n =>
    spelled_field "minLength" "minLength: " (by decide) (by decide)
      (spelled_nat n)
  have most := members_toList c.maxLength fun n =>
    spelled_field "maxLength" "maxLength: " (by decide) (by decide)
      (spelled_nat n)
  have low := members_toList c.minimum fun x =>
    spelled_field "minimum" "minimum: " (by decide) (by decide)
      (spelled_number x)
  have high := members_toList c.maximum fun x =>
    spelled_field "maximum" "maximum: " (by decide) (by decide)
      (spelled_number x)
  have pattern := members_toList c.pattern fun p =>
    spelled_field "pattern" "pattern: " (by decide) (by decide)
      (spelled_quote p)
  exact members_append (members_append (members_append (members_append (members_append choices
    least) most) low) high) pattern

mutual

theorem spelled_write : ∀ f : FieldSpec, Spelled value? f.write.toList f.toValue
  | .mk name type required limits children => by
    have named := spelled_field "name" "name: " (by decide) (by decide)
      (spelled_quote name)
    have typed := spelled_field "type" "type: " (by decide) (by decide)
      (spelled_quote type)
    have needed : Members (if required then ["required: true"] else [])
        (if required then [("required", .word "true")] else []) := by
      split
      · have word := spelled_word (w := "true") (by decide) (forall_of_all (by decide))
        have whole : "required: true" = "required: " ++ "true" := by decide
        rw [whole]
        exact .cons (spelled_field _ _ (by decide) (by decide) word) .nil
      · exact .nil
    have nested : Members
        (if children.isEmpty then [] else ["children: " ++ inBrackets (writeAll children)])
        (if children.isEmpty then [] else [("children", .list (toValues children))]) := by
      split
      · exact .nil
      · exact .cons (spelled_field _ _ (by decide) (by decide)
          (spelled_inBrackets (spelled_writeAll children))) .nil
    rw [write, toValue]
    exact spelled_inBraces (members_append (members_append (members_append
      (.cons named (.cons typed .nil)) needed) (members_limits limits)) nested)

theorem spelled_writeAll : ∀ fs : List FieldSpec,
    List.Forall₂ (fun text v => Spelled value? text.toList v) (writeAll fs) (toValues fs)
  | [] => .nil
  | f :: fs => .cons (spelled_write f) (spelled_writeAll fs)

end

theorem read?_write (f : FieldSpec) : read? f.write = some f.toValue :=
  read?_of_spelled (spelled_write f)

theorem map_read?_write (specs : List FieldSpec) :
    specs.map (fun f => read? f.write) = (toValues specs).map some := by
  rw [toValues_eq_map, List.map_map]
  exact List.map_congr_left fun f _ => read?_write f

end ApiGraph.Backend.FieldSpec
