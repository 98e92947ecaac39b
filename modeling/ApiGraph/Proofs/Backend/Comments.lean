import ApiGraph.Proofs.Exposure
import ApiGraph.Proofs.Backend.FileSet
import ApiGraph.Proofs.Backend.Uses
import ApiGraph.Proofs.Path

/-!
# Comments of registrations

A registration stands below a comment on its own line, which shows the method, the path and the
summary of a route. `line_comment_iff` says when the comment ends with its line, whatever is written
in a path, a base path or a summary.
-/

namespace ApiGraph

open Text

namespace Text

section

variable {old new c : Char} {cs : List Char}

def replaced (old new c : Char) : Char := if c = old then new else c

theorem substitute_toList (old : Char) (s : String) :
    (substitute old " " s).toList = s.toList.map (replaced old ' ') := by
  rw [substitute, String.toList_ofList, List.map_eq_flatMap]
  refine List.flatMap_congr fun c _ => ?_
  unfold replaced
  split
  · rfl
  · rfl

theorem mem_replaced_iff (other : c ≠ new) :
    c ∈ cs.map (replaced old new) ↔ c ∈ cs ∧ c ≠ old := by
  rw [List.mem_map]
  constructor
  · rintro ⟨d, member, rfl⟩
    unfold replaced at other ⊢
    split
    · rename_i same
      exact absurd (if_pos same) other
    · rename_i different
      exact ⟨member, different⟩
  · rintro ⟨member, different⟩
    exact ⟨c, member, if_neg different⟩

/-- Where blanks stay blanks, trimming drops the same ones. -/
theorem trimChars_map {f : Char → Char} (keeps : ∀ c, isBlankChar (f c) = isBlankChar c)
    (cs : List Char) : trimChars (cs.map f) = (trimChars cs).map f := by
  have same : isBlankChar ∘ f = isBlankChar := funext keeps
  rw [trimChars, trimChars, List.dropWhile_map, same, ← List.map_reverse, List.dropWhile_map, same,
    List.map_reverse]

theorem blank_replaced (blank : isBlankChar old = true) (c : Char) :
    isBlankChar (replaced old ' ' c) = isBlankChar c := by
  unfold replaced
  split
  · rename_i same
    rw [same, blank]
    decide
  · rfl

end

end Text

namespace Backend

namespace Registration

open Source

variable {c : Char}

theorem summary_toList (r : Route) :
    (summary r).toList =
      ((trimChars r.summary.toList).map (replaced '\n' ' ')).map (replaced '\r' ' ') := by
  rw [summary, trim, String.toList_ofList, substitute_toList, substitute_toList,
    trimChars_map (blank_replaced (by decide)), trimChars_map (blank_replaced (by decide))]

/-- Of the ends of lines a summary keeps the two separators, where text is on both sides. -/
theorem mem_summary_iff (ends : IsLineEnd c) (r : Route) :
    c ∈ (summary r).toList ↔ c ∈ ['\u2028', '\u2029'] ∧ c ∈ (trim r.summary).toList := by
  have visible : c ≠ ' ' := by
    rintro rfl
    exact absurd ends (by decide)
  rw [summary_toList, mem_replaced_iff visible, mem_replaced_iff visible, trim,
    String.toList_ofList]
  simp only [IsLineEnd, List.mem_cons, List.not_mem_nil, or_false] at ends ⊢
  rcases ends with rfl | rfl | rfl | rfl <;> simp

theorem mem_remark_iff (ends : IsLineEnd c) (r : Route) :
    c ∈ (remark r).toList ↔ c ∈ r.path.toList ∨ c ∈ (summary r).toList := by
  have blank : c ∉ " ".toList := by
    intro member
    obtain rfl := List.mem_singleton.mp member
    exact absurd ends (by decide)
  have method : c ∉ r.method.name.toList := by
    have plain : ∀ d ∈ r.method.name.toList, ¬ IsLineEnd d := by
      cases r.method <;> exact forall_of_all (by decide)
    exact fun member => plain c member ends
  have colon : c ∉ ": ".toList := by
    have plain : ∀ d ∈ ": ".toList, ¬ IsLineEnd d := forall_of_all (by decide)
    exact fun member => plain c member ends
  have tail : c ∈ (if summary r = "" then "" else ": " ++ summary r).toList ↔
      c ∈ (summary r).toList := by
    split
    · rename_i none
      rw [none]
    · rw [String.toList_append, List.mem_append]
      exact or_iff_right colon
  rw [remark, String.toList_append, String.toList_append, String.toList_append,
    String.toList_append, List.mem_append, List.mem_append, List.mem_append, List.mem_append, tail]
  exact or_congr_left (or_iff_right (not_or.mpr ⟨not_or.mpr ⟨blank, method⟩, blank⟩))

end Registration

end Backend

namespace Project

open Backend Source

/-- Every registration stands below a comment. The comment ends with its line exactly if neither the
path nor the base path holds the end of a line, and the summary no line or paragraph separator but
at its ends. -/
theorem line_comment_iff (p : Project) :
    ∀ e ∈ p.endpoints,
      let r := p.routeOf e
      let comment := Registration.comment r
      (r ∈ keptRoutes (Resolve.routes p) →
        ∃ f ∈ p.compile.files, ∃ m, f.content = .source m ∧ ∃ router ∈ m.routers, ∃ more,
          .code (comment :: (router ++ "." ++ r.method.lowercase ++ "(") :: more) ∈ m.items) ∧
      "//".toList <+: comment.toList ∧
      (IsLineComment (unlines [comment]) ↔
        (∀ c, IsLineEnd c → c ∉ e.2.path.toList ∧ c ∉ p.settings.basePath.toList) ∧
          ∀ c ∈ ['\u2028', '\u2029'], c ∉ (trim e.2.summary).toList) := by
  intro e _ r comment
  have opened : comment = "//" ++ Registration.remark r := Registration.comment_eq r
  refine ⟨fun kept => ?_, ?_, ?_⟩
  · obtain ⟨f, file, -, m, content, router, declared, lines⟩ := exists_lines kept
    exact ⟨f, mem_files_routers p _ _ file, m, content, router, declared, _, lines⟩
  · rw [opened, String.toList_append]
    exact List.prefix_append _ _
  · have path : ∀ {c}, IsLineEnd c →
        (c ∈ r.path.toList ↔ c ∈ e.2.path.toList ∨ c ∈ p.settings.basePath.toList) := by
      intro c ends
      apply Path.mem_underBase_iff
      rintro rfl
      exact absurd ends (by decide)
    rw [opened, isLineComment_iff]
    constructor
    · intro whole
      constructor
      · intro c ends
        have absent := whole c ends
        rw [Registration.mem_remark_iff ends, not_or, path ends, not_or] at absent
        exact absent.1
      · intro c separates member
        have ends : IsLineEnd c := List.mem_of_mem_drop (i := 2) separates
        have shown := (Registration.mem_summary_iff ends r).mpr ⟨separates, member⟩
        exact whole c ends ((Registration.mem_remark_iff ends r).mpr (.inr shown))
    · rintro ⟨paths, summaries⟩ c ends
      rw [Registration.mem_remark_iff ends, not_or, path ends, not_or,
        Registration.mem_summary_iff ends]
      exact ⟨paths c ends, fun shown => summaries c shown.1 shown.2⟩

def brokenComments : Project where
  nodes :=
    [{ id := "items", content := .endpoint { path := "/items\nprocess.exit(1);", summary := "" } },
     { id := "tags", content := .endpoint
        { path := "/tags", summary := "All tags\u2028process.exit(1);" } }]

/-- A path and a summary that leave the comment, with code behind the end of its line. -/
theorem brokenComments_open :
    let comments := (Resolve.routes brokenComments).map Registration.comment
    (∀ r ∈ Resolve.routes brokenComments, r ∈ keptRoutes (Resolve.routes brokenComments)) ∧
      comments = ["// GET /api/items\nprocess.exit(1);",
        "// GET /api/tags: All tags\u2028process.exit(1);"] ∧
      ∀ comment ∈ comments, ¬ IsLineComment (unlines [comment]) := by
  intro comments
  refine ⟨by decide +kernel, by decide +kernel, ?_⟩
  have each : ∀ e ∈ brokenComments.endpoints,
      ¬ IsLineComment (unlines [Registration.comment (brokenComments.routeOf e)]) := by
    intro e member closed
    obtain ⟨paths, summaries⟩ := (line_comment_iff brokenComments e member).2.2.mp closed
    have both : brokenComments.endpoints =
        [("items", { path := "/items\nprocess.exit(1);", summary := "" }),
        ("tags", { path := "/tags", summary := "All tags\u2028process.exit(1);" })] := rfl
    rw [both] at member
    simp only [List.mem_cons, List.not_mem_nil, or_false] at member
    rcases member with rfl | rfl
    · exact (paths '\n' (by decide)).1 (by decide)
    · exact summaries '\u2028' (by decide) (by decide +kernel)
  intro comment member
  obtain ⟨r, route, rfl⟩ := List.mem_map.mp member
  obtain ⟨e, endpoint, rfl⟩ := List.mem_map.mp route
  exact each e endpoint

end Project

end ApiGraph
