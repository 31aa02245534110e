import NativeApi.Proofs.Extraction.Pruning

/-!
# Extraction leaves sound trees

A declaration is sound if it has no error, is no record with only one of vtable and vtable pointer
field, and designates no member that may not fill the slot.  What stays in the trees after a run is
sound throughout (`Decl.isSound_of_mem_remnants`), and a run finds nothing to do in trees that are
(`run_extraction_of_isSound`).  So extraction is complete after one run
(`extraction_leaves_sound_trees`).
-/

namespace NativeApi

/-- A declaration that a run of extraction leaves where it is, as it is. -/
structure Decl.IsSound (d : Decl) : Prop where
  clean : d.hasErrors = false
  paired : d.isUnpaired = false
  handles : d.kind.HandlesSettled

namespace Decl

/-! ## What stays -/

/-- What stays in a place that nothing covers is sound, with everything inside it. -/
theorem isSound_of_mem_remnant {d e f : Decl} (he : e ∈ (d.processed false).remnant false)
    (hf : f ∈ e.subtree) : f.IsSound := by
  induction d using induction generalizing e with
  | step d ih =>
    obtain ⟨rfl, hclean, hpaired⟩ := mem_remnant_uncovered he
    rcases mem_subtree.mp hf with rfl | ⟨c, hc, hf⟩
    · exact ⟨hclean, hpaired, d.handlesSettled_processed false⟩
    · -- without an error of its own, the declaration covers nothing
      rw [hasErrors_processed] at hclean
      rw [children_processed, hclean, Bool.or_false] at hc
      obtain ⟨c₀, hc₀, hc⟩ := List.mem_flatMap.mp hc
      exact ih c₀ hc₀ hc hf

theorem isSound_of_mem_remnants {ds : List Decl} {f : Decl}
    (hf : f ∈ (remnants false ds).flatMap subtree) : f.IsSound := by
  obtain ⟨e, he, hf⟩ := List.mem_flatMap.mp hf
  obtain ⟨d, _, he⟩ := List.mem_flatMap.mp he
  exact isSound_of_mem_remnant he hf

/-! ## Nothing to do -/

theorem subtree_subset {d e : Decl} (he : e ∈ d.subtree) : e.subtree ⊆ d.subtree := by
  induction d using induction with
  | step d ih =>
    rcases mem_subtree.mp he with rfl | ⟨c, hc, he⟩
    · exact List.Subset.refl _
    · exact fun f hf => mem_subtree.mpr (.inr ⟨c, hc, ih c hc he hf⟩)

theorem IsSound.remnant_eq {d : Decl} (h : d.IsSound) : d.remnant false = [d] := by
  rw [Decl.remnant_eq, h.clean, h.paired, checkPairing_of_paired h.paired]
  rfl

theorem processed_eq_self {d : Decl} (h : ∀ e ∈ d.subtree, e.IsSound) : d.processed false = d := by
  induction d using induction with
  | step d ih =>
    have hself := h d (mem_subtree.mpr (.inl rfl))
    have hchildren : prunings false d.children = d.children.map fun c => (c, [c]) := by
      refine List.map_congr_left fun c hc => ?_
      have hinside : ∀ e ∈ c.subtree, e.IsSound := fun e he =>
        h e (mem_subtree.mpr (.inr ⟨c, hc, he⟩))
      rw [ih c hc hinside, (hinside c (mem_subtree.mpr (.inl rfl))).remnant_eq]
    rw [processed_eq, hself.clean, Bool.or_false, hchildren]
    show Decl.mk _ _ _ _ _ _ _ (d.kind.rebuild (d.kind.children.map fun c => (c, [c]))) = d
    rw [Kind.rebuild_self hself.handles, Decl.eta]

theorem remnants_eq_self {ds : List Decl} (h : ∀ e ∈ ds.flatMap subtree, e.IsSound) :
    remnants false ds = ds := by
  have hone : ∀ d ∈ ds, (d.processed false).remnant false = [d] := by
    intro d hd
    have hinside : ∀ e ∈ d.subtree, e.IsSound := fun e he => h e (List.mem_flatMap.mpr ⟨d, hd, he⟩)
    rw [processed_eq_self hinside, (hinside d (mem_subtree.mpr (.inl rfl))).remnant_eq]
  rw [remnants, List.flatMap_congr hone, List.flatMap_singleton']

end Decl

namespace Library

variable {L : Library}

theorem subtree_subset_decls {v : Visit} (hv : v ∈ L.visits) : v.decl.subtree ⊆ L.decls := by
  obtain ⟨d, hd, hmem⟩ := List.mem_flatMap.mp (mem_decls_iff.mpr ⟨v, hv, rfl⟩)
  exact fun e he => List.mem_flatMap.mpr ⟨d, hd, Decl.subtree_subset hmem he⟩

theorem processed_of_isSound (h : ∀ d ∈ L.decls, d.IsSound) {v : Visit} (hv : v ∈ L.visits) :
    v.processed = v.decl := by
  have huncovered : v.isCovered = false := by
    refine List.any_eq_false.mpr fun a ha => ?_
    rw [(h a (mem_decls_of_mem_above hv a ha)).clean]
    exact Bool.false_ne_true
  rw [Visit.processed, huncovered]
  exact Decl.processed_eq_self fun e he => h e (subtree_subset_decls hv he)

theorem extracted_of_isSound (h : ∀ d ∈ L.decls, d.IsSound) : L.extracted = [] := by
  have hnone : L.postVisits.filter Visit.isBroken = [] := by
    refine List.filter_eq_nil_iff.mpr fun v hv => ?_
    have hv' : v ∈ L.visits := L.postVisits_perm.mem_iff.mp hv
    have hsound := h v.decl (mem_decls_iff.mpr ⟨v, hv', rfl⟩)
    rw [Visit.isBroken, processed_of_isSound h hv', hsound.clean, hsound.paired, Bool.or_false,
      Bool.and_false]
    exact Bool.false_ne_true
  rw [extracted_eq, hnone, List.map_nil]

end Library

/-- **A run finds nothing to do in sound trees.** -/
theorem run_extraction_of_isSound {L : Library} (hnext : 1 ≤ L.nextId)
    (h : ∀ d ∈ L.decls, d.IsSound) (state : List Decl) : extraction.run L state = (L, []) := by
  rw [run_extraction, Decl.remnants_eq_self h, Library.extracted_of_isSound h, List.append_nil,
    Nat.max_eq_left hnext]
  simp [Library.withRoots, Library.withNextId, Library.withBroken]

/-! ## Extraction -/

theorem isSound_extraction (L : Library) (state : List Decl) :
    ∀ d ∈ (extraction.run L state).1.decls, d.IsSound := by
  intro d hd
  rw [run_extraction] at hd
  exact Decl.isSound_of_mem_remnants hd

/-- **Extraction leaves sound trees and stops there.**  No declaration that stays has an error, and
no record that stays has only one of vtable and vtable pointer field.  The broken list grows by the
declarations that are broken with nothing around them that had an error: those that had an error
themselves, and the records that have only one of the two once their members are processed.  They
come in post-order, in the form in which the run leaves them, and each has an error.  What they look
like before the check is what the hook is given.  A second run changes nothing, whatever state the
pass is in. -/
theorem extraction_leaves_sound_trees (L : Library) (state : List Decl) :
    let M := (extraction.run L state).1
    (∀ d ∈ M.decls, d.hasErrors = false ∧
      ∀ r, d.kind = .record r → r.vtable.isSome = r.vtableField.isSome) ∧
    M.broken = L.broken ++ (L.postVisits.filter Visit.isBroken).map Visit.rewritten ∧
    (∀ v ∈ L.postVisits, v.isBroken = true ↔ (∀ a ∈ v.above, a.hasErrors = false) ∧
      (v.decl.hasErrors = true ∨
        ∃ r, v.processed.kind = .record r ∧ r.vtable.isSome ≠ r.vtableField.isSome)) ∧
    (∀ v ∈ L.postVisits, ∀ s, (extraction.rebuild ⟨L, v.above⟩ v.decl s).1.1 = v.processed) ∧
    (∀ v ∈ L.postVisits, v.isBroken = true → v.rewritten.hasErrors = true) ∧
    ∀ state', (extraction.run M state').1 = M := by
  intro M
  have hsound := isSound_extraction L state
  refine ⟨fun d hd => ?_, ?_, fun v _ => ?_, fun v _ => ?_, fun v _ hbroken => ?_, fun state' => ?_⟩
  · exact ⟨(hsound d hd).clean, Decl.isUnpaired_eq_false_iff.mp (hsound d hd).paired⟩
  · show (extraction.run L state).1.broken = _
    rw [run_extraction, L.extracted_eq]
    rfl
  · rw [Visit.isBroken, Bool.and_eq_true, Bool.or_eq_true, Decl.isUnpaired_iff, Bool.not_eq_true',
      Visit.isCovered, List.any_eq_false]
    simp only [Bool.not_eq_true]
  · exact Pass.rebuild_extraction L v
  · rw [Visit.isBroken_eq, Bool.and_eq_true] at hbroken
    exact hbroken.1
  · have hnext : 1 ≤ M.nextId := by
      show 1 ≤ (extraction.run L state).1.nextId
      rw [run_extraction]
      exact Nat.le_trans (Nat.le_max_right _ _) (Nat.le_max_left _ _)
    rw [run_extraction_of_isSound hnext hsound]

end NativeApi
