import ApiGraph.Graph
import ApiGraph.Proofs.FirstUse

/-!
# Adjacency

`Graph.Joins` says what an edge between two ids is, `mem_connected_iff` that the connected nodes of
an id are those with an id joined to it, and `head_connected_iff` which of them comes first.
-/

namespace ApiGraph.Graph

/-- Some edge leads from one id to the other, either way. -/
def Joins (edges : List Edge) (a b : String) : Prop :=
  ∃ e ∈ edges, e.source = a ∧ e.target = b ∨ e.target = a ∧ e.source = b

instance (edges : List Edge) (a b : String) : Decidable (Joins edges a b) :=
  inferInstanceAs (Decidable (∃ e ∈ edges, _))

theorem mem_across_iff {e : Edge} {a b : String} :
    b ∈ across a e ↔ e.source = a ∧ e.target = b ∨ e.target = a ∧ e.source = b := by
  unfold across
  by_cases source : e.source = a <;> by_cases target : e.target = a <;>
    simp [source, target, eq_comm]

theorem mem_joined_iff {edges : List Edge} {a b : String} :
    b ∈ joined edges a ↔ Joins edges a b := by
  simp only [joined, List.mem_flatMap, mem_across_iff, Joins]

section

variable {α : Type} {edges : List Edge} {nodes : List Node} {id : String} {kind? : Node → Option α}

/-- What the first of the connected nodes of a kind has, in node order. -/
theorem head_connected_iff {a : α} :
    ((connected edges nodes id).filterMap kind?).head? = some a ↔
      ∃ before n after, nodes = before ++ n :: after ∧ kind? n = some a ∧ Joins edges id n.id ∧
        ∀ m ∈ before, (kind? m).isSome → ¬ Joins edges id m.id := by
  rw [connected, List.filterMap_filter, List.head?_filterMap, List.findSome?_eq_some_iff]
  simp only [decide_eq_true_eq, Option.ite_none_right_eq_some, ite_eq_right_iff, mem_joined_iff]
  constructor
  · rintro ⟨before, n, after, split, ⟨joined, found⟩, first⟩
    refine ⟨before, n, after, split, found, joined, fun m earlier some joined => ?_⟩
    rw [first m earlier joined] at some
    cases some
  · rintro ⟨before, n, after, split, found, joined, first⟩
    refine ⟨before, n, after, split, ⟨joined, found⟩, fun m earlier joined => ?_⟩
    exact Option.not_isSome_iff_eq_none.mp fun some => first m earlier some joined

end

end ApiGraph.Graph
