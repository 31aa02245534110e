import NativeApi.Decl.Basic

/-!
# Trees of declarations

A declaration with everything inside it, in pre-order: a parent comes before its children and
the children come in their order.

* `Decl.subtree`: the declarations.  `Decl.size` is their number.
* `Decl.visits`: the same with the chain of enclosing declarations (`Decl.map_decl_visits`).
* `Visit.qualifiedName`: the name of a declaration in its place, such as `ns::Outer::Inner`.
-/

namespace NativeApi

/-- A declaration in its place. -/
structure Visit where
  /-- The enclosing declarations, the innermost first. -/
  above : List Decl
  decl : Decl

namespace Visit

def ancestors (v : Visit) : List Decl := v.above.reverse

def parent? (v : Visit) : Option Decl := v.above.head?

def root (v : Visit) : Decl := v.above.getLast?.getD v.decl

/-- The namespace of the root and the names on the way down, where anonymous declarations are
left out. -/
def qualifiedName (v : Visit) : String :=
  let names := (v.ancestors ++ [v.decl]).map Decl.name
  "::".intercalate (v.root.scope.toList ++ names.filter (· ≠ ""))

def diagnostics (v : Visit) : List AttachedDiagnostic :=
  v.decl.diagnostics.map fun diagnostic => ⟨v.decl.id, v.qualifiedName, diagnostic⟩

end Visit

namespace Decl

def subtree (d : Decl) : List Decl :=
  d :: d.children.attach.flatMap fun ⟨c, _⟩ => c.subtree
termination_by sizeOf d
decreasing_by exact sizeOf_lt_of_mem_children ‹_›

theorem subtree_eq (d : Decl) : d.subtree = d :: d.children.flatMap subtree := by
  rw [subtree]
  simp

/-- The visits of a declaration and of everything inside it, below the given enclosing
declarations. -/
def visits (above : List Decl) (d : Decl) : List Visit :=
  ⟨above, d⟩ :: d.children.attach.flatMap fun ⟨c, _⟩ => c.visits (d :: above)
termination_by sizeOf d
decreasing_by exact sizeOf_lt_of_mem_children ‹_›

theorem visits_eq (above : List Decl) (d : Decl) :
    d.visits above = ⟨above, d⟩ :: d.children.flatMap (visits (d :: above)) := by
  rw [visits]
  simp

def size (d : Decl) : Nat := d.subtree.length

theorem map_decl_visits (above : List Decl) (d : Decl) :
    (d.visits above).map Visit.decl = d.subtree := by
  induction d using induction generalizing above with
  | step d ih =>
    rw [visits_eq, subtree_eq, List.map_cons, List.map_flatMap]
    refine congrArg (d :: ·) ?_
    rw [List.flatMap_def, List.flatMap_def]
    exact congrArg List.flatten (List.map_congr_left fun c hc => ih c hc _)

end Decl

end NativeApi
