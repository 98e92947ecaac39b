import Mathlib.Tactic.IntervalCases
import ApiGraph.Json.Printer
import ApiGraph.Json.Token

namespace ApiGraph.Json

theorem scanString_quote (read : List Char) (used : Nat) (rest : List Char) :
    scanString read used ('"' :: rest) = .done (String.ofList read.reverse) (used + 1) := by
  rw [scanString]

theorem scanString_plain {c : Char} (notQuote : c ≠ '"') (notEscape : c ≠ '\\')
    (printable : ¬ c.toNat < 0x20) (read : List Char) (used : Nat) (rest : List Char) :
    scanString read used (c :: rest) = scanString (c :: read) (used + 1) rest := by
  rw [scanString.eq_def]
  simp [notEscape, printable]

theorem scanString_escape {e c : Char} (notUnit : e ≠ 'u') (stands : unescape e = some c)
    (read : List Char) (used : Nat) (rest : List Char) :
    scanString read used ('\\' :: e :: rest) = scanString (c :: read) (used + 2) rest := by
  rw [scanString.eq_def]
  simp [stands]

theorem scanString_unit {n : Nat} {digits : List Char} (spelt : hexUnit digits = some n)
    (small : n < 0xD800) (read : List Char) (used : Nat) :
    scanString read used ('\\' :: 'u' :: digits) =
      scanString (Char.ofNat n :: read) (used + 6) (digits.drop 4) := by
  have notLow : ¬ (0xDC00 ≤ n ∧ n ≤ 0xDFFF) := by omega
  have unit : scanUnit (used + 2) digits = .ok (Char.ofNat n, 4) := by
    unfold scanUnit
    simp [spelt, notLow, small]
  rw [scanString.eq_def]
  simp [unit]

theorem hexUnit_control {n : Nat} (small : n < 0x20) (rest : List Char) :
    hexUnit (List.replicate (4 - (Text.hexDigits n).length) '0' ++ Text.hexDigits n ++ rest) =
      some n := by
  interval_cases n <;> rfl

theorem length_control {n : Nat} (small : n < 0x20) :
    (List.replicate (4 - (Text.hexDigits n).length) '0' ++ Text.hexDigits n).length = 4 := by
  interval_cases n <;> rfl

theorem scanString_escapeChar (c : Char) (read : List Char) (used : Nat) (rest : List Char) :
    scanString read used (escapeChar c ++ rest) =
      scanString (c :: read) (used + (escapeChar c).length) rest := by
  unfold escapeChar
  split
  · exact scanString_escape (by decide) rfl ..
  · exact scanString_escape (by decide) rfl ..
  · exact scanString_escape (by decide) rfl ..
  · exact scanString_escape (by decide) rfl ..
  · exact scanString_escape (by decide) rfl ..
  · exact scanString_escape (by decide) rfl ..
  · exact scanString_escape (by decide) rfl ..
  · rename_i notQuote notEscape _ _ _ _ _
    split
    · rename_i control
      have four := length_control control
      have spelt := hexUnit_control control rest
      refine (scanString_unit spelt (by omega) read used).trans ?_
      rw [List.drop_left' four, Char.ofNat_toNat, List.length_cons, List.length_cons, four]
    · rename_i printable
      exact scanString_plain notQuote notEscape printable ..

theorem scanString_flatMap (cs read : List Char) (used : Nat) (rest : List Char) :
    scanString read used (cs.flatMap escapeChar ++ '"' :: rest) =
      .done (String.ofList (read.reverse ++ cs)) (used + (cs.flatMap escapeChar).length + 1) := by
  induction cs generalizing read used with
  | nil =>
    rw [List.append_nil]
    exact scanString_quote ..
  | cons c cs ih =>
    rw [List.flatMap_cons, List.append_assoc, scanString_escapeChar, ih, List.reverse_cons,
      List.append_assoc, List.length_append, Nat.add_assoc used]
    rfl

theorem toList_writeString (s : String) :
    (writeString s).toList = '"' :: (s.toList.flatMap escapeChar ++ ['"']) :=
  String.toList_ofList

theorem scanString_write (s : String) (rest : List Char) :
    scanString [] 0 (s.toList.flatMap escapeChar ++ '"' :: rest) =
      .done s (s.toList.flatMap escapeChar ++ ['"']).length := by
  rw [scanString_flatMap, List.reverse_nil, List.nil_append, String.ofList_toList,
    List.length_append, Nat.zero_add]
  rfl

end ApiGraph.Json
