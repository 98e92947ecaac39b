import ApiGraph.Text.Quoted

/-!
# Reading single-quoted literals

`unquote?` reads a literal at the beginning of a text. `unquote_quote` shows that it stops at the
end of a written literal, whatever follows, and finds the text that was written.
-/

namespace ApiGraph.Text

/-- The text of a literal whose opening quote has been read, and what follows its closing quote. -/
def literalBody : List Char → Option (List Char × List Char)
  | [] => none
  | '\'' :: rest => some ([], rest)
  | '\\' :: 'n' :: rest => (literalBody rest).map fun p => ('\n' :: p.1, p.2)
  | '\\' :: 'r' :: rest => (literalBody rest).map fun p => ('\r' :: p.1, p.2)
  | '\\' :: c :: rest => (literalBody rest).map fun p => (c :: p.1, p.2)
  | c :: rest => (literalBody rest).map fun p => (c :: p.1, p.2)

/-- The text of the literal at the beginning of a text, and what follows it. -/
def unquote? : List Char → Option (List Char × List Char)
  | '\'' :: rest => literalBody rest
  | _ => none

theorem literalBody_quoteChar (c : Char) (rest : List Char) :
    literalBody (quoteChar c ++ rest) = (literalBody rest).map fun p => (c :: p.1, p.2) := by
  unfold quoteChar
  split
  · rfl
  · rfl
  · rfl
  · rfl
  · rename_i backslash quote _ _
    -- An ordinary character is none that the first equations of the reader match.
    rw [List.singleton_append, literalBody]
    · exact quote
    · exact fun _ same _ => backslash same
    · exact fun _ same _ => backslash same
    · exact fun _ _ same _ => backslash same

theorem unquote_quoteChars (cs rest : List Char) :
    unquote? (quoteChars cs ++ rest) = some (cs, rest) := by
  show literalBody (cs.flatMap quoteChar ++ ['\''] ++ rest) = _
  induction cs with
  | nil => rfl
  | cons c cs ih =>
    rw [List.flatMap_cons, List.append_assoc, List.append_assoc, literalBody_quoteChar,
      ← List.append_assoc, ih]
    rfl

/-- A written literal reads back as its text, whatever follows it. -/
theorem unquote_quote (s : String) (rest : List Char) :
    unquote? ((quote s).toList ++ rest) = some (s.toList, rest) := by
  rw [quote, String.toList_ofList, unquote_quoteChars]

end ApiGraph.Text
