import NativeApi.Proofs.Verify.Outline

/-!
# Dangling references are marked

The second walk of verification is the same for every place and has no state, so it is a function
of the declaration alone: `Library.mark` attaches to each declaration an error for every reference
that leads nowhere (`applyAll_danglingReferences`).  It keeps ids, names and forms, and so the ids
of whole subtrees (`map_id_subtree_mark`).
-/

namespace NativeApi

/-! ## Settled children -/

theorem Decl.outline_withSettled (d : Decl) (children : List Decl) :
    (d.withSettled children).outline = d.outline := by
  rw [outline, (d.continues_withSettled children).form]
  rfl

theorem Kind.declRefs_withSettled (d : Decl) (children : List Decl) :
    (d.withSettled children).kind.declRefs = d.kind.declRefs := by
  unfold declRefs Decl.withSettled
  rw [type?_withChildren, type?_mapHandles]

/-! ## Marks -/

namespace Library

def danglingIssues (L : Library) (d : Decl) : List Issue :=
  (L.danglingNames d).map .unresolvedReference

/-- A declaration with an error for every reference that leads nowhere, and the same for everything
inside it. -/
def mark (L : Library) (d : Decl) : Decl :=
  { d.withSettled (d.children.attach.map fun ⟨c, _⟩ => L.mark c) with
    diagnostics := Issue.attachAll d.diagnostics (L.danglingIssues d) }
termination_by sizeOf d
decreasing_by exact Decl.sizeOf_lt_of_mem_children ‹_›

theorem mark_eq (L : Library) (d : Decl) :
    L.mark d = { d.withSettled (d.children.map L.mark) with
      diagnostics := Issue.attachAll d.diagnostics (L.danglingIssues d) } := by
  rw [mark]
  simp

theorem danglingIssues_withSettled (L : Library) (d : Decl) (children : List Decl) :
    L.danglingIssues (d.withSettled children) = L.danglingIssues d := by
  unfold danglingIssues danglingNames
  rw [Kind.declRefs_withSettled]

theorem continues_mark (L : Library) (d : Decl) : d.Continues (L.mark d) := by
  rw [mark_eq]
  exact ⟨rfl, (d.continues_withSettled _).form, Issue.isPrefix_attachAll _ _⟩

theorem outline_mark (L : Library) (d : Decl) : (L.mark d).outline = d.outline := by
  rw [mark_eq]
  exact d.outline_withSettled _

theorem children_mark (L : Library) (d : Decl) :
    (L.mark d).children = d.children.map L.mark := by
  rw [mark_eq]
  exact Decl.children_withSettled fun h => by rw [h]; rfl

theorem map_id_subtree_mark (L : Library) (d : Decl) :
    (L.mark d).subtree.map Decl.id = d.subtree.map Decl.id := by
  induction d using Decl.induction with
  | step d ih =>
    rw [Decl.subtree_eq, Decl.subtree_eq d, List.map_cons, List.map_cons, (L.continues_mark d).id,
      children_mark, List.map_flatMap, List.map_flatMap, List.flatMap_map]
    exact congrArg (d.id :: ·) (List.flatMap_congr fun c hc => ih c hc)

end Library

/-! ## The second walk -/

theorem danglingReferences_decl (ctx : Context) (d : Decl) (s : Progress Unit) :
    danglingReferences.decl ctx d s =
      (.replace { d with
        diagnostics := Issue.attachAll d.diagnostics (ctx.library.danglingIssues d) }, s) := rfl

theorem applyAll_danglingReferences (ctx : Context) (ds : List Decl) (s : Progress Unit) :
    danglingReferences.applyAll ctx ds s = (ds.map fun d => (d, [ctx.library.mark d]), s) := by
  have key := Pass.run_induction (p := danglingReferences)
    (P := fun ctx d s news s' => news = [ctx.library.mark d] ∧ s' = s)
    (Q := fun ctx ds s replacements s' =>
      replacements = ds.map (fun d => (d, [ctx.library.mark d])) ∧ s' = s)
    (fun _ _ => ⟨rfl, rfl⟩) ?cons ?decl
  case cons =>
    rintro ctx d rest s news s' replacements s'' ⟨rfl, rfl⟩ ⟨rfl, rfl⟩
    exact ⟨rfl, rfl⟩
  case decl =>
    rintro ctx d s kind s₁ replacements s₂ answer s₃ htype _ ⟨rfl, rfl⟩ hanswer
    rw [Pass.applyOwnType_of_silent (fun _ _ _ => rfl), Prod.mk.injEq] at htype
    obtain ⟨rfl, rfl⟩ := htype
    have hrebuild : d.kind.rebuild (d.children.map fun c => (c, [(ctx.enter d).library.mark c]))
        = (d.withSettled (d.children.map ctx.library.mark)).kind :=
      Kind.rebuild_map fun _ c _ => ctx.library.continues_mark c
    rw [hrebuild] at hanswer ⊢
    rw [danglingReferences_decl, Prod.mk.injEq] at hanswer
    obtain ⟨rfl, rfl⟩ := hanswer
    refine ⟨?_, rfl⟩
    rw [Library.mark_eq, Answer.decls, ← Library.danglingIssues_withSettled ctx.library d]
    rfl
  exact Prod.ext (key.2 ctx ds s).1 (key.2 ctx ds s).2

/-- The second walk of verification marks every root. -/
theorem run_danglingReferences (L : Library) :
    (danglingReferences.run L ()).1 =
      (L.withRoots (L.roots.map L.mark)).withNextId (max L.nextId 1) := by
  rw [Pass.run_eq, applyAll_danglingReferences]
  dsimp only
  rw [List.flatMap_map]
  change (L.withRoots (L.roots.flatMap fun d => [L.mark d])).withNextId (max L.nextId 1) = _
  rw [← List.map_eq_flatMap]

end NativeApi
