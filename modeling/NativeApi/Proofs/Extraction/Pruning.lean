import NativeApi.Proofs.Conservation.Passes
import NativeApi.Proofs.Pass.Rebuilding
import NativeApi.Proofs.Pass.Traversal

/-!
# Extraction as a function of the trees

The pass that extracts broken declarations decides by the errors of a declaration, by the errors
around it before the run, and by what the run made of its members.  None of this depends on how far
the run is, so the outcome is a function of the trees.

* `Decl.processed`: a declaration after the run has processed its children.
  `Pass.rebuild_extraction`: this is the declaration that the hook is given.
* `Decl.remnant`: what stays in the place of a processed declaration.
* `Visit.isBroken`: whether a declaration leaves the tree as the outermost broken one.
* `run_extraction`: the trees and the broken declarations after a run.
-/

namespace NativeApi

/-! ## Definitions -/

namespace Decl

/-- What stays in the place of a processed declaration: nothing if it is broken, and the declaration
if it is covered, that is if something around it had an error before the run. -/
def remnant (isCovered : Bool) (d : Decl) : List Decl :=
  if d.checkPairing.hasErrors && !isCovered then [] else [d.checkPairing]

def processed (isCovered : Bool) (d : Decl) : Decl :=
  { d with
    kind := d.kind.rebuild (d.children.attach.map fun ⟨c, _⟩ =>
      (c, (c.processed (d.hasErrors || isCovered)).remnant (d.hasErrors || isCovered))) }
termination_by sizeOf d
decreasing_by exact sizeOf_lt_of_mem_children ‹_›

def remnants (isCovered : Bool) (ds : List Decl) : List Decl :=
  ds.flatMap fun d => (d.processed isCovered).remnant isCovered

def prunings (isCovered : Bool) (ds : List Decl) : List Replacement :=
  ds.map fun d => (d, (d.processed isCovered).remnant isCovered)

end Decl

namespace Visit

/-- Whether something around the visited declaration has an error. -/
def isCovered (v : Visit) : Bool := v.above.any Decl.hasErrors

/-- The visited declaration after the run has processed its children. -/
def processed (v : Visit) : Decl := v.decl.processed v.isCovered

/-- The form in which the run leaves the visited declaration, wherever it puts it. -/
def rewritten (v : Visit) : Decl := v.processed.checkPairing

/-- Whether the visited declaration leaves the tree as the outermost broken one. -/
def isBroken (v : Visit) : Bool := !v.isCovered && (v.decl.hasErrors || v.processed.isUnpaired)

end Visit

/-- The declarations that a run extracts from a subtree, the inner ones first. -/
def Decl.extracted (above : List Decl) (d : Decl) : List Decl :=
  ((d.postVisits above).filter Visit.isBroken).map Visit.rewritten

def Library.extracted (L : Library) : List Decl := L.roots.flatMap (Decl.extracted [])

/-! ## Equations -/

namespace Decl

theorem prunings_fst (isCovered : Bool) (ds : List Decl) :
    (prunings isCovered ds).map Prod.fst = ds := by
  rw [prunings, List.map_map]
  exact List.map_id ds

theorem prunings_snd (isCovered : Bool) (ds : List Decl) :
    (prunings isCovered ds).flatMap Prod.snd = remnants isCovered ds := by
  rw [prunings, List.flatMap_map, remnants]

theorem processed_eq (isCovered : Bool) (d : Decl) :
    d.processed isCovered =
      { d with kind := d.kind.rebuild (prunings (d.hasErrors || isCovered) d.children) } := by
  rw [processed, prunings]
  simp

theorem children_processed (isCovered : Bool) (d : Decl) :
    (d.processed isCovered).children = remnants (d.hasErrors || isCovered) d.children := by
  rw [processed_eq, ← prunings_snd]
  exact Kind.children_rebuild (prunings_fst _ _)

theorem diagnostics_processed (isCovered : Bool) (d : Decl) :
    (d.processed isCovered).diagnostics = d.diagnostics := by
  rw [processed_eq]

theorem hasErrors_processed (isCovered : Bool) (d : Decl) :
    (d.processed isCovered).hasErrors = d.hasErrors := by
  rw [hasErrors, diagnostics_processed, hasErrors]

theorem continues_processed (isCovered : Bool) (d : Decl) :
    d.Continues (d.processed isCovered) := by
  rw [processed_eq]
  exact .of_kind (d.kind.form_rebuild _)

/-! ### Checked pairing -/

theorem isUnpaired_iff {d : Decl} : d.isUnpaired = true ↔
    ∃ r, d.kind = .record r ∧ r.vtable.isSome ≠ r.vtableField.isSome := by
  unfold isUnpaired record?
  cases d.kind with
  | record r => simp [Record.isPaired]
  | _ => simp

theorem isUnpaired_eq_false_iff {d : Decl} : d.isUnpaired = false ↔
    ∀ r, d.kind = .record r → r.vtable.isSome = r.vtableField.isSome := by
  rw [← Bool.not_eq_true, isUnpaired_iff]
  simp only [ne_eq, not_exists, not_and, not_not]

theorem checkPairing_of_paired {d : Decl} (h : d.isUnpaired = false) : d.checkPairing = d := by
  rw [checkPairing, h]
  rfl

theorem hasErrors_checkPairing (d : Decl) :
    d.checkPairing.hasErrors = (d.hasErrors || d.isUnpaired) := by
  by_cases h : d.isUnpaired = true
  · rw [h, Bool.or_true, checkPairing, if_pos h]
    exact Diagnostics.hasErrors_iff.mpr
      ⟨Issue.unpairedVTable.diagnostic, Diagnostics.mem_ensure _ _, rfl⟩
  · rw [Bool.not_eq_true] at h
    rw [checkPairing_of_paired h, h, Bool.or_false]

theorem remnant_eq (isCovered : Bool) (d : Decl) :
    d.remnant isCovered =
      if !isCovered && (d.hasErrors || d.isUnpaired) then [] else [d.checkPairing] := by
  rw [remnant, hasErrors_checkPairing, Bool.and_comm]

theorem remnant_covered (d : Decl) : d.remnant true = [d.checkPairing] := by
  rw [remnant_eq]
  rfl

/-- What stays uncovered is a declaration that needed no error. -/
theorem mem_remnant_uncovered {d e : Decl} (h : e ∈ d.remnant false) :
    e = d ∧ d.hasErrors = false ∧ d.isUnpaired = false := by
  rw [remnant_eq] at h
  split at h
  · exact absurd h List.not_mem_nil
  · next hsound =>
    rw [Bool.not_false, Bool.true_and, Bool.or_eq_true, not_or, Bool.not_eq_true,
      Bool.not_eq_true] at hsound
    rw [checkPairing_of_paired hsound.2] at h
    exact ⟨List.mem_singleton.mp h, hsound⟩

theorem staysOrGoes_of_mem_prunings {isCovered : Bool} {ds : List Decl} {r : Replacement}
    (hr : r ∈ prunings isCovered ds) : r.StaysOrGoes := by
  obtain ⟨d, _, rfl⟩ := List.mem_map.mp hr
  show (d.processed isCovered).remnant isCovered = [] ∨ _
  rw [remnant]
  split
  · exact .inl rfl
  · exact .inr ⟨_, rfl, (d.continues_processed isCovered).trans (continues_checkPairing _)⟩

theorem handlesSettled_processed (isCovered : Bool) (d : Decl) :
    (d.processed isCovered).kind.HandlesSettled := by
  rw [processed_eq]
  exact Kind.handlesSettled_rebuild fun _ hr => staysOrGoes_of_mem_prunings hr

end Decl

namespace Visit

theorem continues_rewritten (v : Visit) : v.decl.Continues v.rewritten :=
  (v.decl.continues_processed v.isCovered).trans (Decl.continues_checkPairing _)

theorem children_rewritten (v : Visit) : v.rewritten.children
    = Decl.remnants (v.decl.hasErrors || v.isCovered) v.decl.children := by
  rw [rewritten, Decl.children_checkPairing, processed, Decl.children_processed]

theorem hasErrors_rewritten (v : Visit) :
    v.rewritten.hasErrors = (v.decl.hasErrors || v.processed.isUnpaired) := by
  rw [rewritten, Decl.hasErrors_checkPairing, processed, Decl.hasErrors_processed]

theorem isBroken_eq (v : Visit) : v.isBroken = (v.rewritten.hasErrors && !v.isCovered) := by
  rw [isBroken, hasErrors_rewritten, Bool.and_comm]

theorem remnant_processed (v : Visit) :
    v.processed.remnant v.isCovered = if v.isBroken then [] else [v.rewritten] := by
  rw [isBroken_eq]
  rfl

end Visit

/-! ### Extracted declarations -/

theorem Decl.extracted_eq (above : List Decl) (d : Decl) :
    d.extracted above = d.children.flatMap (extracted (d :: above))
      ++ if (Visit.mk above d).isBroken then [(Visit.mk above d).rewritten] else [] := by
  rw [extracted, postVisits_eq, List.filter_append, List.map_append, List.filter_flatMap,
    List.map_flatMap]
  split
  · next h =>
    rw [List.filter_cons_of_pos h]
    rfl
  · next h =>
    rw [List.filter_cons_of_neg h]
    rfl

theorem Library.extracted_eq (L : Library) :
    L.extracted = (L.postVisits.filter Visit.isBroken).map Visit.rewritten := by
  rw [postVisits, List.filter_flatMap, List.map_flatMap]
  rfl

/-! ## Runs -/

/-- **What a run makes of siblings.**  The broken ones join the state in post-order. -/
theorem applyAll_extraction (ctx : Context) (ds : List Decl) (s : Progress (List Decl)) :
    extraction.applyAll ctx ds s =
      (Decl.prunings (ctx.above.any Decl.hasErrors) ds,
        ⟨s.ids, s.state ++ ds.flatMap (Decl.extracted ctx.above)⟩) := by
  have key := Pass.run_induction (p := extraction)
    (P := fun ctx d s news s' =>
      news = (Visit.mk ctx.above d).processed.remnant (ctx.above.any Decl.hasErrors) ∧
      s' = ⟨s.ids, s.state ++ d.extracted ctx.above⟩)
    (Q := fun ctx ds s replacements s' =>
      replacements = Decl.prunings (ctx.above.any Decl.hasErrors) ds ∧
      s' = ⟨s.ids, s.state ++ ds.flatMap (Decl.extracted ctx.above)⟩)
    ?nil ?cons ?decl
  case nil =>
    intro ctx s
    exact ⟨rfl, by rw [List.flatMap_nil, List.append_nil]⟩
  case cons =>
    rintro ctx d rest s news s' replacements s'' ⟨rfl, rfl⟩ ⟨rfl, rfl⟩
    exact ⟨rfl, by rw [List.flatMap_cons, List.append_assoc]⟩
  case decl =>
    rintro ctx d s kind s₁ replacements s₂ answer s₃ htype _ ⟨rfl, rfl⟩ hanswer
    rw [Pass.applyOwnType_of_silent (fun _ _ _ => rfl), Prod.mk.injEq] at htype
    obtain ⟨rfl, rfl⟩ := htype
    have hgiven :
        { d with
          kind := d.kind.rebuild
            (Decl.prunings ((ctx.enter d).above.any Decl.hasErrors) d.children) }
          = (Visit.mk ctx.above d).processed := (Decl.processed_eq _ _).symm
    have hbroken : ((Visit.mk ctx.above d).processed.checkPairing.hasErrors
        && !ctx.above.any Decl.hasErrors) = (Visit.mk ctx.above d).isBroken :=
      (Visit.isBroken_eq _).symm
    rw [hgiven, extraction_decl, hbroken] at hanswer
    rw [hgiven, Decl.extracted_eq, ← List.append_assoc, Decl.remnant, hbroken]
    split at hanswer
    · next h =>
      rw [Prod.mk.injEq] at hanswer
      obtain ⟨rfl, rfl⟩ := hanswer
      rw [if_pos h, if_pos h]
      exact ⟨rfl, rfl⟩
    · next h =>
      rw [Prod.mk.injEq] at hanswer
      obtain ⟨rfl, rfl⟩ := hanswer
      rw [if_neg h, if_neg h]
      exact ⟨rfl, by rw [List.append_nil]; rfl⟩
  exact Prod.ext (key.2 ctx ds s).1 (key.2 ctx ds s).2

/-- The hook is given the processed declaration, however far the run is. -/
theorem Pass.rebuild_extraction (L : Library) (v : Visit) (s : Progress (List Decl)) :
    (extraction.rebuild ⟨L, v.above⟩ v.decl s).1.1 = v.processed := by
  rw [Pass.rebuild, bind_apply, applyOwnType_of_silent fun _ _ _ => rfl, bind_apply,
    applyAll_extraction, Visit.processed, Decl.processed_eq]
  rfl

/-- **The outcome of a run.** -/
theorem run_extraction (L : Library) (state : List Decl) :
    extraction.run L state =
      (((L.withRoots (Decl.remnants false L.roots)).withNextId (max L.nextId 1)).withBroken
        (L.broken ++ L.extracted), []) := by
  rw [Pass.run_eq, applyAll_extraction]
  dsimp only
  rw [Decl.prunings_snd]
  rfl

end NativeApi
