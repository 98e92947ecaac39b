import ApiGraph.Backend.Interface
import ApiGraph.Proofs.Backend.Names
import ApiGraph.Proofs.Naming.Spelling

namespace ApiGraph

open Text

namespace Naming

theorem guarded_append (c : Char) (cs ds : List Char) :
    guarded (c :: cs) ++ ds = guarded (c :: (cs ++ ds)) := by
  rw [guarded, guarded]
  split <;> rfl

theorem isDigit_toUpper {c : Char} (alnum : isAsciiAlnum c = true) :
    c.toUpper.isDigit = c.isDigit :=
  of_ascii (P := fun c => c.toUpper.isDigit = c.isDigit) (by decide) alnum

end Naming

namespace Backend

open Naming

/-- The first letter or digit of a model's name, or else that of `unnamed`, begins its names. -/
theorem exists_names_spelling {models : List Model} {x : NamedModel}
    (member : x ∈ nameModels models) :
    ∃ c rest, (x.model.name.toList.find? isAsciiAlnum).getD 'u' = c ∧ Alnum (c :: rest) ∧
      x.names.ident.toList = guarded (c.toLower :: rest) ∧
      x.names.type.toList = c.toUpper :: rest := by
  obtain ⟨n, names⟩ := exists_numbered member
  obtain ⟨c, rest, first, alnum, ident, type⟩ := exists_spelling x.model.name.toList
  obtain ⟨letter, inner⟩ := List.forall_mem_cons.mp alnum
  let suffix : List Char := if n = 0 then [] else Digits.ofNat (n + 1)
  have digits : Alnum suffix := by
    intro d inside
    have digit : d.isDigit = true := by
      simp only [suffix] at inside
      split at inside
      · exact absurd inside List.not_mem_nil
      · exact Digits.allDigits_ofNat _ d inside
    simp [isAsciiAlnum, digit]
  have suffixed : ∀ base, (Naming.numbered base "" n).toList = base.toList ++ suffix := fun base =>
    toList_numbered base "" n
  refine ⟨c, rest ++ suffix, first, List.forall_mem_cons.mpr ⟨letter, ?_⟩, ?_, ?_⟩
  · exact fun d inside => (List.mem_append.mp inside).elim (inner d) (digits d)
  · rw [names]
    show (Naming.numbered (identifier x.model.name) "" n).toList = _
    rw [suffixed, identifier, String.toList_ofList, ident, guarded_append]
  · rw [names]
    show (Naming.numbered (pascal (identifier x.model.name)) "" n).toList = _
    rw [suffixed, pascal, identifier, String.toList_ofList, String.toList_ofList, type,
      List.cons_append]

/-- The stem of bindings and the repository of a model are identifiers. The name of the interface
consists of characters of identifiers, and it is one unless the first letter or digit of the model's
name is a digit. -/
theorem names_plain_iff (models : List Model) :
    ∀ x ∈ nameModels models,
      isPlainIdent x.names.ident.toList = true ∧ isPlainIdent x.names.repository.toList = true ∧
        x.names.type ≠ "" ∧ x.names.type.toList.all isIdentRest = true ∧
        (isPlainIdent x.names.type.toList = true ↔
          ∀ c, x.model.name.toList.find? isAsciiAlnum = some c → c.isDigit = false) := by
  intro x member
  obtain ⟨c, rest, first, alnum, -, type⟩ := exists_names_spelling member
  obtain ⟨letter, inner⟩ := List.forall_mem_cons.mp alnum
  have capital : isAsciiAlnum c.toUpper = true := alnum_upper letter
  refine ⟨ident_plain member, repository_plain member, ?_, ?_, ?_⟩
  · intro none
    rw [none] at type
    cases type
  · rw [type]
    exact all_identRest (List.forall_mem_cons.mpr ⟨capital, inner⟩)
  · have plain : isPlainIdent x.names.type.toList = true ↔ c.isDigit = false := by
      rw [type, isPlainIdent, all_identRest inner, Bool.and_true, isIdentStart_iff capital,
        isDigit_toUpper letter]
    rw [plain, ← first]
    cases x.model.name.toList.find? isAsciiAlnum with
    | none => simp
    | some d => simp

/-- An interface under a name that begins with a digit, though the stem is guarded. -/
theorem twoFactor_unguarded :
    let x : NamedModel := ⟨{ name := "2fa" }, ⟨"_2fa", "2fa", "_2fa"⟩, none⟩
    nameModels [{ name := "2fa" }] = [x] ∧ isPlainIdent x.names.ident.toList = true ∧
      isPlainIdent x.names.type.toList = false ∧
      "export interface 2fa \x7b" ∈ (Interface.toModule [.ofModel x]).lines := by
  intro x
  have named : nameModels [{ name := "2fa" }] = [x] := by decide +kernel
  obtain ⟨ident, -, -, -, plain⟩ :=
    names_plain_iff [{ name := "2fa" }] x (by rw [named]; exact List.mem_singleton_self _)
  refine ⟨named, ident, Bool.eq_false_iff.mpr fun isPlain => ?_, by decide⟩
  exact absurd (plain.mp isPlain '2' (by decide)) (by decide)

end Backend

end ApiGraph
