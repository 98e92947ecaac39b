import ApiGraph.Backend.Collection
import ApiGraph.Backend.Interface
import ApiGraph.Backend.Repository
import ApiGraph.Proofs.Backend.FieldDefault

/-!
# What artifacts list

The generated code read back: the members of interfaces, the columns of repositories and the paths
of collections. Each reader finds what was written (`Interface.listed_toModule`,
`Repository.columns?_toModule`, `Collection.paths?_toModule`).
-/

namespace ApiGraph.Backend

open Text

def Source.Module.declarations (m : Source.Module) : List Source.Declaration :=
  m.items.filterMap fun
    | .declare d => some d
    | _ => none

def linesBefore (closing : String) (lines : List String) : List String :=
  lines.takeWhile (· ≠ closing)

theorem linesBefore_append {closing : String} {lines : List String}
    (inside : ∀ l ∈ lines, l ≠ closing) (rest : List String) :
    linesBefore closing (lines ++ closing :: rest) = lines :=
  (Text.span_append (by simpa using inside) (by simp)).1

theorem append_ne {a s b : String} (other : ¬ a.toList <+: b.toList) : a ++ s ≠ b := by
  rintro rfl
  rw [String.toList_append] at other
  exact other (List.prefix_append ..)

theorem mapM_map_eq_some {α β γ : Type} {f : β → Option γ} {g : α → β} {h : α → γ} {l : List α}
    (each : ∀ a ∈ l, f (g a) = some (h a)) : (l.map g).mapM f = some (l.map h) := by
  induction l with
  | nil => rfl
  | cons a l ih =>
    obtain ⟨first, later⟩ := List.forall_mem_cons.mp each
    rw [List.map_cons, List.mapM_cons, first, ih later]
    rfl

theorem exists_written_brackets (names : List String) :
    ∃ ps, Written (inBrackets (names.map quote)) ps ∧ literals ps = names := by
  obtain ⟨ps, written, listed⟩ := exists_written_quotes names
  refine ⟨_, ((Written.plain (s := "[") (by decide)).append written).append
    (Written.plain (s := "]") (by decide)), ?_⟩
  rw [literals_append, literals_append, literals_code, literals_code, listed, List.append_nil]
  rfl

namespace Interface

/-- The name of a member and whether it is there always. -/
def member? (line : String) : Option (String × Bool) := do
  let (name, rest) ← (after? "  " line.toList).bind key?
  if (after? "?: " rest).isSome then some (String.ofList name, false)
  else if (after? ": " rest).isSome then some (String.ofList name, true)
  else none

def listed (m : Source.Module) : List (String × Option (List (String × Bool))) :=
  (m.declarations.filter (·.keyword = "interface")).map fun d =>
    (d.name, (linesBefore "\x7d" d.more).mapM member?)

theorem member_write_eq (m : Member) :
    m.write =
      propertyKey m.name ++ ((if m.isOptional then "?: " else ": ") ++ (m.type ++ ";")) := by
  have mark : "?" ++ (": " ++ (m.type ++ ";")) = "?: " ++ (m.type ++ ";") := by
    rw [← String.append_assoc]
    rfl
  unfold Member.write
  cases m.isOptional with
  | true => simp only [if_true, String.append_assoc, mark]
  | false => simp only [Bool.false_eq_true, if_false, String.append_assoc, String.empty_append]

theorem member?_write (m : Member) : member? ("  " ++ m.write) = some (m.name, !m.isOptional) := by
  have optional : after? "?: " ("?: " ++ (m.type ++ ";")).toList = some (m.type ++ ";").toList := by
    rw [String.toList_append, after?_append]
  have always : after? ": " (": " ++ (m.type ++ ";")).toList = some (m.type ++ ";").toList := by
    rw [String.toList_append, after?_append]
  have other : after? "?: " (": " ++ (m.type ++ ";")).toList = none := by
    rw [String.toList_append]
    rfl
  rw [member_write_eq, member?, String.toList_append, after?_append, String.toList_append]
  cases m.isOptional with
  | true =>
    rw [if_pos rfl, Option.bind_some, key?_propertyKey m.name (by rw [String.toList_append]; rfl)]
    simp only [Option.bind_eq_bind, Option.bind_some, optional, Option.isSome_some, if_true,
      String.ofList_toList, Bool.not_true]
  | false =>
    rw [if_neg Bool.false_ne_true, Option.bind_some,
      key?_propertyKey m.name (by rw [String.toList_append]; rfl)]
    simp only [Option.bind_eq_bind, Option.bind_some, other, always, Option.isSome_some,
      Option.isSome_none, Bool.false_eq_true, if_false, if_true, String.ofList_toList,
      Bool.not_false]

theorem listed_toModule (is : List Interface) :
    listed (toModule is) =
      is.map fun i => (i.name, some (i.members.map fun m => (m.name, !m.isOptional))) := by
  have declared : (toModule is).declarations = is.map declaration := by
    rw [Source.Module.declarations, toModule, List.filterMap_flatMap]
    induction is with
    | nil => rfl
    | cons i is ih => rw [List.flatMap_cons, ih]; rfl
  have interfaces : (is.map declaration).filter (·.keyword = "interface") = is.map declaration := by
    rw [List.filter_eq_self]
    intro d member
    obtain ⟨i, -, rfl⟩ := List.mem_map.mp member
    rfl
  rw [listed, declared, interfaces, List.map_map]
  refine List.map_congr_left fun i _ => ?_
  have inside : linesBefore "\x7d" (declaration i).more = indent (i.members.map (·.write)) := by
    refine linesBefore_append (fun l member => ?_) []
    obtain ⟨_, -, rfl⟩ := List.mem_map.mp member
    exact append_ne (by decide)
  have read : (indent (i.members.map (·.write))).mapM member? =
      some (i.members.map fun m => (m.name, !m.isOptional)) := by
    rw [indent, List.map_map]
    exact mapM_map_eq_some fun m _ => member?_write m
  show (i.name, (linesBefore "\x7d" (declaration i).more).mapM member?) = _
  rw [inside, read]

end Interface

namespace Repository

def columns? (m : Source.Module) : Option (List String) :=
  (m.declarations.find? (·.name = "COLUMNS")).map fun d => literals (pieces d.rest.toList)

theorem columns?_toModule (r : Repository) : columns? r.toModule = some r.columns := by
  obtain ⟨ps, written, listed⟩ := exists_written_brackets r.columns
  have line : Written (" = " ++ inBrackets (r.columns.map quote) ++ ";") _ :=
    ((Written.plain (by decide)).append written).append (Written.plain (by decide))
  have found : r.toModule.declarations.find? (·.name = "COLUMNS") = some
      { name := "COLUMNS", rest := " = " ++ inBrackets (r.columns.map quote) ++ ";" } := by
    rw [Source.Module.declarations, toModule]
    cases r.engine.isSql <;> rfl
  rw [columns?, found, Option.map_some, line.pieces_eq, literals_append, literals_append,
    literals_code, literals_code, listed, List.append_nil]
  rfl

end Repository

namespace Collection

/-- The name of a path and whether it is required. -/
def path? (line : String) : Option (String × Bool) := do
  let (name, rest) ← (after? "    " line.toList).bind key?
  let options ← (after? ": \x7b" rest).bind (·.dropSuffix? " \x7d,".toList)
  some (String.ofList name, code " required: true" ∈ (pieces options).splitOn (.code ','))

/-- The paths of the schema of a name. -/
def paths? (schema : String) (m : Source.Module) : Option (List (String × Bool)) := do
  let d ← m.declarations.find? (·.name = schema)
  (linesBefore "  \x7d," (d.more.drop 1)).mapM path?

def options (p : DocumentPath) : List String :=
  ["type: " ++ p.type] ++ (if p.required then ["required: true"] else []) ++
    (if p.unique then ["unique: true"] else []) ++
    (p.default?.map fun d => "default: " ++ DocumentPath.defaultText d).toList

theorem mem_options_iff {p : DocumentPath} {s : String} :
    s ∈ options p ↔ s = "type: " ++ p.type ∨ (p.required = true ∧ s = "required: true") ∨
      (p.unique = true ∧ s = "unique: true") ∨
        ∃ d, p.default? = some d ∧ s = "default: " ++ DocumentPath.defaultText d := by
  have optional : ∀ (b : Bool) (t : String), s ∈ (if b then [t] else []) ↔ b = true ∧ s = t := by
    intro b t
    cases b <;> simp
  rw [options, List.mem_append, List.mem_append, List.mem_append, List.mem_singleton, optional,
    optional, Option.mem_toList, Option.map_eq_some_iff, or_assoc, or_assoc]
  simp only [eq_comm]

def types : List String := ["String", "Number", "Boolean", "Date", "Schema.Types.Mixed"]

theorem documentType_mem (type : FieldType) : type.documentType ∈ types := by
  cases type <;> simp [FieldType.documentType, types]

theorem exists_written_option (f : ModelField) :
    ∀ s ∈ options (.ofField f), ∃ ps, Written s ps ∧ .code ',' ∉ ps := by
  have plain : ∀ t ∈ types, '\'' ∉ ("type: " ++ t).toList ∧ .code ',' ∉ code ("type: " ++ t) := by
    decide
  intro s member
  rcases mem_options_iff.mp member with rfl | ⟨-, rfl⟩ | ⟨-, rfl⟩ | ⟨d, found, rfl⟩
  · obtain ⟨closed, apart⟩ := plain _ (documentType_mem f.type)
    exact ⟨_, .plain closed, apart⟩
  · exact ⟨_, .plain (by decide), by decide⟩
  · exact ⟨_, .plain (by decide), by decide⟩
  · have time : ∀ c ∈ "Date.now".toList, FieldDefault.IsDefaultChar c := forall_of_all (by decide)
    obtain ⟨ps, written, chars⟩ := FieldDefault.exists_written_default found time
    refine ⟨_, (Written.plain (by decide)).append written, ?_⟩
    rw [List.mem_append, not_or]
    exact ⟨by decide, fun comma => absurd (chars _ comma) (by decide)⟩

theorem required_iff (p : DocumentPath) :
    code " required: true" ∈ (options p).map (fun s => code " " ++ pieces s.toList) ↔
      p.required = true := by
  have said : pieces "required: true".toList = code "required: true" :=
    (Written.plain (by decide)).pieces_eq
  constructor
  · intro member
    -- the other options begin with another letter
    obtain ⟨s, present, same⟩ := List.mem_map.mp member
    have same : pieces s.toList = code "required: true" := List.append_cancel_left same
    rcases mem_options_iff.mp present with rfl | ⟨required, -⟩ | ⟨-, rfl⟩ | ⟨d, -, rfl⟩
    · rw [String.toList_append, Written.plain (by decide)] at same
      cases same
    · exact required
    · rw [(Written.plain (by decide)).pieces_eq] at same
      cases same
    · rw [String.toList_append, Written.plain (by decide)] at same
      cases same
  · intro required
    refine List.mem_map.mpr ⟨_, mem_options_iff.mpr (.inr (.inl ⟨required, rfl⟩)), ?_⟩
    rw [said]
    rfl

theorem path?_write (f : ModelField) :
    path? ("  " ++ ("  " ++ (DocumentPath.ofField f).write)) = some (f.name, f.required) := by
  let p := DocumentPath.ofField f
  have nonempty : options p ≠ [] := List.ne_nil_of_mem (mem_options_iff.mpr (.inl rfl))
  obtain ⟨qs, written, parts⟩ := exists_written_parts nonempty (exists_written_option f)
  let inner := " " ++ ", ".intercalate (options p)
  have line : ("  " ++ ("  " ++ p.write)).toList = "    ".toList ++ ((propertyKey f.name).toList ++
      (": \x7b".toList ++ (inner.toList ++ " \x7d,".toList))) := by
    have whole : p.write = propertyKey f.name ++ ": " ++
      ("\x7b " ++ ", ".intercalate (options p) ++ " \x7d") ++ "," := rfl
    simp only [whole, inner, String.toList_append, List.append_assoc]
    rfl
  have closed : (inner.toList ++ " \x7d,".toList).dropSuffix? " \x7d,".toList = inner.toList :=
    List.dropSuffix?_eq_some_iff.mpr ⟨_, rfl, beq_self_eq_true _⟩
  rw [path?, line, after?_append, Option.bind_some, key?_propertyKey f.name rfl]
  simp only [Option.bind_eq_bind, Option.bind_some, after?_append, closed, String.ofList_toList,
    inner, written.pieces_eq, parts, required_iff]
  exact congrArg (fun b => some (f.name, b)) Bool.decide_eq_true

theorem paths?_toModule (n : NamedModel) :
    paths? (n.names.ident ++ "Schema") (ofModel n).toModule =
      some (n.model.fields.map fun f => (f.name, f.required)) := by
  let c := ofModel n
  have found : c.toModule.declarations.find? (·.name = n.names.ident ++ "Schema") =
      some c.schemaDeclaration := List.find?_cons_of_pos (decide_eq_true rfl)
  have inside : linesBefore "  \x7d," (c.schemaDeclaration.more.drop 1) =
      indent (indent (c.paths.map (·.write))) := by
    have lines : c.schemaDeclaration.more.drop 1 = indent (indent (c.paths.map (·.write))) ++
        "  \x7d," :: ["  " ++ (inBraces ["collection: " ++ quote c.names.stem,
          "versionKey: false"] ++ ","), ");"] := by
      simp only [schemaDeclaration, block, indent, List.map_cons, List.map_append, List.map_nil,
        List.cons_append, List.append_assoc, List.nil_append, List.drop_succ_cons, List.drop_zero]
      rfl
    rw [lines]
    refine linesBefore_append (fun l member => ?_) _
    obtain ⟨_, inner, rfl⟩ := List.mem_map.mp member
    obtain ⟨_, -, rfl⟩ := List.mem_map.mp inner
    rw [← String.append_assoc]
    exact append_ne (by decide)
  have read : (indent (indent (c.paths.map (·.write)))).mapM path? =
      some (n.model.fields.map fun f => (f.name, f.required)) := by
    have lines : indent (indent (c.paths.map (·.write))) = n.model.fields.map fun f =>
        "  " ++ ("  " ++ (DocumentPath.ofField f).write) := by
      simp only [indent, c, ofModel, List.map_map]
      rfl
    rw [lines]
    exact mapM_map_eq_some fun f _ => path?_write f
  rw [paths?, found]
  show (linesBefore "  \x7d," (c.schemaDeclaration.more.drop 1)).mapM path? = _
  rw [inside, read]

end Collection

end ApiGraph.Backend
