import DiceLang.Outcome.Basic

/-!
# The nodes of an outcome

An outcome is a tree. A path names one of its nodes by the index of a child at every step down, so
what holds of the nodes at all paths holds everywhere in the tree.
-/

namespace DiceLang.Outcome

/-- The node that a path of child indices leads to. -/
def node? : List Nat → Outcome → Option Outcome
  | [], outcome => some outcome
  | index :: path, outcome => outcome.children[index]?.bind (node? path)

variable {outcome : Outcome}

/-- What holds at every node holds at the root and at every node below each child. -/
theorem forall_node_iff {holds : Outcome → Prop} :
    (∀ path node, outcome.node? path = some node → holds node) ↔
      holds outcome ∧
        ∀ child ∈ outcome.children, ∀ path node, child.node? path = some node → holds node := by
  constructor
  · intro everywhere
    refine ⟨everywhere [] outcome rfl, ?_⟩
    intro child isChild path node found
    obtain ⟨index, atIndex⟩ := List.mem_iff_getElem?.mp isChild
    exact everywhere (index :: path) node (by rw [node?, atIndex]; exact found)
  · rintro ⟨here, below⟩ path node found
    cases path with
    | nil =>
      cases found
      exact here
    | cons index path =>
      obtain ⟨child, atIndex, foundBelow⟩ := Option.bind_eq_some_iff.mp found
      exact below child (List.mem_of_getElem? atIndex) path node foundBelow

end DiceLang.Outcome
