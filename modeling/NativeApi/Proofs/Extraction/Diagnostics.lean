import NativeApi.Proofs.Extraction.Errors

/-!
# Diagnostics through extraction

Extraction keeps every diagnostic attached to the declaration that it was attached to, but a
diagnostic is listed under the qualified name of the declaration, and that is read off the place.
A declaration that is moved out of another one has a shorter name afterwards.

* `Visit.retained`: a declaration below what stays around it.
* `Visit.qualifiedName_relocated`: the name under which a declaration is found afterwards.
* `Visit.retained_eq_self`: the name stays where at most whole trees are moved.
* `extraction_keeps_diagnostics`: the diagnostics of a library before and after.
-/

namespace NativeApi

namespace Visit

/-! ## Names of places -/

theorem qualifiedName_eq (v : Visit) : v.qualifiedName =
    let labels := (v.decl :: v.above).map fun d => (d.name, d.scope)
    "::".intercalate ((labels.getLast?.bind Prod.snd).toList
      ++ (labels.reverse.map Prod.fst).filter (· ≠ "")) := by
  have hroot : (((v.decl :: v.above).map fun d => (d.name, d.scope)).getLast?.bind Prod.snd)
      = v.root.scope := by
    rw [List.getLast?_map, List.getLast?_cons]
    rfl
  have hnames : ((v.decl :: v.above).map fun d => (d.name, d.scope)).reverse.map Prod.fst
      = (v.ancestors ++ [v.decl]).map Decl.name := by
    rw [← List.map_reverse, List.map_map, List.reverse_cons]
    rfl
  dsimp only
  rw [hroot, hnames]
  rfl

theorem qualifiedName_congr {v w : Visit}
    (h : (v.decl :: v.above).map (fun d => (d.name, d.scope))
      = (w.decl :: w.above).map fun d => (d.name, d.scope)) :
    v.qualifiedName = w.qualifiedName := by
  rw [qualifiedName_eq, qualifiedName_eq, h]

/-! ## New names -/

/-- A declaration as it was, below those of its enclosing declarations that stay around it. -/
def retained (v : Visit) : Visit := ⟨v.company.map Visit.decl, v.decl⟩

theorem labels_rewritten (v : Visit) :
    (v.rewritten.name, v.rewritten.scope) = (v.decl.name, v.decl.scope) := by
  rw [rewritten, Decl.checkPairing, processed, Decl.processed_eq]
  split <;> rfl

/-- A run renames nothing, so the new name is made up from the old names. -/
theorem qualifiedName_relocated (v : Visit) :
    v.relocated.qualifiedName = v.retained.qualifiedName := by
  refine qualifiedName_congr ?_
  show (v.rewritten :: v.company.map rewritten).map _ = (v.decl :: v.company.map Visit.decl).map _
  rw [List.map_cons, List.map_cons, labels_rewritten, List.map_map, List.map_map]
  exact congrArg _ (List.map_congr_left fun w _ => w.labels_rewritten)

theorem diagnostics_relocated (v : Visit) : v.relocated.diagnostics =
    v.rewritten.diagnostics.map fun diagnostic =>
      ⟨v.decl.id, v.retained.qualifiedName, diagnostic⟩ := by
  have hid : v.relocated.decl.id = v.decl.id := v.continues_rewritten.id
  rw [Visit.diagnostics, qualifiedName_relocated, hid]
  rfl

theorem map_decl_untilBroken {above : List Decl}
    (h : ∀ w ∈ chain above, w.isBroken = true → w.above = []) :
    (untilBroken (chain above)).map Visit.decl = above := by
  induction above with
  | nil => rfl
  | cons d above ih =>
    obtain ⟨hself, habove⟩ := List.forall_mem_cons.mp h
    rw [chain, untilBroken, List.map_cons]
    split
    · next hbroken =>
      rw [show above = [] from hself hbroken]
      rfl
    · rw [ih habove]

/-- A declaration stays below what it was below if nothing but roots is moved. -/
theorem retained_eq_self {v : Visit} (h : ∀ w ∈ v.around, w.isBroken = true → w.above = []) :
    v.retained = v := by
  obtain ⟨hself, habove⟩ := List.forall_mem_cons.mp h
  rw [retained, company]
  split
  · next hbroken =>
    have hnil : v.above = [] := hself hbroken
    rw [List.map_nil, ← hnil]
  · rw [map_decl_untilBroken habove]

theorem retained_broken {v : Visit} (h : v.isBroken = true) : v.retained = ⟨[], v.decl⟩ := by
  rw [retained, company, if_pos h, List.map_nil]

end Visit

/-! ## Diagnostics -/

theorem Library.perm_diagnostics_extraction (L : Library) (state : List Decl) :
    (extraction.run L state).1.diagnostics.Perm
      ((L.visits.flatMap fun v => v.rewritten.diagnostics.map fun diagnostic =>
          ⟨v.decl.id, v.retained.qualifiedName, diagnostic⟩)
        ++ L.brokenVisits.flatMap Visit.diagnostics) := by
  have hplaces : (L.visits.map Visit.relocated ++ L.brokenVisits).flatMap Visit.diagnostics
      = (L.visits.flatMap fun v => v.rewritten.diagnostics.map fun diagnostic =>
          ⟨v.decl.id, v.retained.qualifiedName, diagnostic⟩)
        ++ L.brokenVisits.flatMap Visit.diagnostics := by
    rw [List.flatMap_append, List.flatMap_map, funext Visit.diagnostics_relocated]
  rw [← hplaces]
  exact (L.perm_visits_extraction state).flatMap_right Visit.diagnostics

/-- **Extraction keeps diagnostics attached**, if not under the same names.  What is listed after a
run is, up to order, what was listed before, with one more error for each record that is flagged.
Each diagnostic has the id, the severity and the message that it had.  Its qualified name is made up
from the declarations that stay around, so a declaration that is moved by itself is listed under its
own name alone.  The very entries of before are there for the declarations that were among the
broken ones already, and for those that are inside nothing broken other than roots. -/
theorem extraction_keeps_diagnostics (L : Library) (state : List Decl) :
    let X := (extraction.run L state).1
    X.diagnostics.Perm
      ((L.visits.flatMap fun v => v.rewritten.diagnostics.map fun diagnostic =>
          ⟨v.decl.id, v.retained.qualifiedName, diagnostic⟩)
        ++ L.brokenVisits.flatMap Visit.diagnostics) ∧
    (∀ v ∈ L.visits, v.rewritten.diagnostics = v.decl.diagnostics
      ++ if v.isFlagged then [Issue.unpairedVTable.diagnostic] else []) ∧
    (∀ v ∈ L.visits, v.isBroken = true → v.retained = ⟨[], v.decl⟩) ∧
    (∀ v ∈ L.visits, (∀ w ∈ v.around, w.isBroken = true → w.above = []) →
      ∀ a ∈ v.diagnostics, a ∈ X.diagnostics) ∧
    ∀ v ∈ L.brokenVisits, ∀ a ∈ v.diagnostics, a ∈ X.diagnostics := by
  intro X
  have hperm : X.diagnostics.Perm _ := L.perm_diagnostics_extraction state
  refine ⟨hperm, fun v _ => v.diagnostics_rewritten, fun v _ => Visit.retained_broken,
    fun v hv hroots a ha => ?_, fun v hv a ha => ?_⟩
  · refine hperm.mem_iff.mpr (List.mem_append_left _ (List.mem_flatMap.mpr ⟨v, hv, ?_⟩))
    obtain ⟨diagnostic, hmem, rfl⟩ := List.mem_map.mp ha
    rw [Visit.retained_eq_self hroots]
    exact List.mem_map_of_mem (v.continues_rewritten.diagnostics.subset hmem)
  · exact hperm.mem_iff.mpr (List.mem_append_right _ (List.mem_flatMap.mpr ⟨v, hv, ha⟩))

namespace Sample

/-- A record in a namespace with a field that has an error. -/
def mixed : Library :=
  let bad := (Decl.ofKind 1 "bad" 0 (.field 0 (.normal (.scalar .i32)))).append
    ⟨.error, "broken field"⟩
  .ofRoots [] [{ Decl.ofKind 2 "Mixed" 0 (.record (.ofMembers [bad])) with scope := some "ui" }] 3

end Sample

/-- The field of the sample is listed in its record, and by itself once it is extracted. -/
theorem extraction_shortens_names : ¬ ∀ a ∈ Sample.mixed.diagnostics,
    a ∈ (extraction.run Sample.mixed []).1.diagnostics := by
  have hbefore : Sample.mixed.diagnostics = [⟨1, "ui::Mixed::bad", ⟨.error, "broken field"⟩⟩] := by
    decide +kernel
  have hafter : (extraction.run Sample.mixed []).1.diagnostics
      = [⟨1, "bad", ⟨.error, "broken field"⟩⟩] := by
    decide +kernel
  rw [hbefore, hafter]
  decide +kernel

end NativeApi
