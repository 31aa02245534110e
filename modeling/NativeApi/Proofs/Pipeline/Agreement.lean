import NativeApi.Pipeline
import NativeApi.Proofs.Conservation.Passes
import NativeApi.Proofs.Typedefs.Stripping
import NativeApi.Proofs.Verify.Agreement

/-!
# Two runs of a pipeline

Two runs side by side of one pipeline, for two default calling conventions.  Of the diagnostics no
pass goes by anything but the errors, so libraries that have the same errors still have the same
errors after any pass (`PassInstance.run_agreesUpTo`), and after any sequence of passes
(`PassInstance.runAll_agreesUpTo`).

* `Pipeline.withConvention`: a pipeline with another default convention.
-/

namespace NativeApi

variable {Q : Tolerance}

/-! ## Loose declarations -/

theorem Decl.AgreesUpTo.isLoose {d d' : Decl} (h : d.AgreesUpTo Q d') : d'.isLoose = d.isLoose := by
  unfold Decl.isLoose
  rw [h.kind]
  cases d.kind <;> rfl

theorem Decl.AgreesUpTo.looseKey {d d' : Decl} (h : d.AgreesUpTo Q d') :
    d'.looseKey = d.looseKey := by
  rw [Decl.looseKey, Decl.looseKey, h.rest]

/-- Two groups have one key, and members that agree. -/
structure LooseGroupsAgree (Q : Tolerance) (g g' : LooseKey × List Decl) : Prop where
  key : g'.1 = g.1
  members : List.Forall₂ (Decl.Throughout (Decl.AgreesUpTo Q)) g.2 g'.2

theorem forall₂_looseGroups {ds ds' : List Decl}
    (h : List.Forall₂ (Decl.Throughout (Decl.AgreesUpTo Q)) ds ds') :
    List.Forall₂ (LooseGroupsAgree Q) (looseGroups ds) (looseGroups ds') := by
  have hloose : List.Forall₂ (Decl.Throughout (Decl.AgreesUpTo Q)) (ds.filter Decl.isLoose)
      (ds'.filter Decl.isLoose) :=
    forall₂_filter (fun _ _ hd => hd.rel.isLoose) h
  have hkeys : looseKeys ds' = looseKeys ds :=
    congrArg List.eraseDups (map_eq_of_forall₂ (hloose.imp fun _ _ hd => hd.rel.looseKey))
  rw [looseGroups_eq, looseGroups_eq, hkeys, List.forall₂_map_left_iff,
    List.forall₂_map_right_iff, List.forall₂_same]
  exact fun key _ => ⟨rfl, forall₂_filter (fun d d' hd => by rw [hd.rel.looseKey]) hloose⟩

namespace Library.AgreesUpTo

variable {L L' : Library} (h : L.AgreesUpTo Q L') (hQ : ∀ a? ds, Q a? ds ds)

include h hQ

theorem looseContainers (first : DeclId) {groups groups' : List (LooseKey × List Decl)}
    (hgroups : List.Forall₂ (LooseGroupsAgree Q) groups groups') :
    List.Forall₂ (Decl.Throughout (Decl.AgreesUpTo Q)) (L.looseContainers first groups)
      (L'.looseContainers first groups') := by
  induction hgroups generalizing first with
  | nil => exact .nil
  | @cons g g' groups groups' hgroup _ ih =>
    obtain ⟨key, members⟩ := g
    obtain ⟨key', members'⟩ := g'
    obtain ⟨rfl, hmembers⟩ := hgroup
    rw [looseContainers_cons, looseContainers_cons]
    refine .cons (.node ⟨?_, hQ _ _⟩ hmembers) (ih (first + 1))
    rw [looseContainer, looseContainer, containerName, containerName, filePath?, filePath?, h.files]
    rfl

theorem wrapLoose : L.wrapLoose.AgreesUpTo Q L'.wrapLoose := by
  have hgroups := forall₂_looseGroups h.roots
  have hfirst : (IdSource.startingAt L'.nextId).next = (IdSource.startingAt L.nextId).next := by
    rw [h.nextId]
  rw [Library.wrapLoose, Library.wrapLoose]
  generalize looseGroups L.roots = groups at hgroups ⊢
  generalize looseGroups L'.roots = groups' at hgroups ⊢
  cases hgroups with
  | nil => exact h
  | cons hgroup hrest =>
    refine ⟨h.files, List.rel_append ?_ ?_, h.broken, ?_⟩
    · exact forall₂_filter (fun d d' hd => by rw [hd.rel.isLoose]) h.roots
    · rw [hfirst]
      exact h.looseContainers hQ _ (.cons hgroup hrest)
    · show max _ L'.nextId = max _ L.nextId
      rw [h.nextId, List.length_cons, List.length_cons, hrest.length_eq]

end Library.AgreesUpTo

theorem tolerates_looseWrapping : looseWrapping.Tolerates looseWrapping Q Q fun _ _ => True where
  ownType _ := Pass.mapType_of_silent (fun _ _ _ => rfl) (fun _ _ _ => rfl)
  decl _ hd hchildren hs := by
    rw [looseWrapping_decl, looseWrapping_decl]
    exact ⟨.cons (.node hd hchildren) .nil, hs⟩

/-! ## Typedefs -/

theorem tolerates_typedefStripping :
    typedefStripping.Tolerates typedefStripping Q Q fun _ _ => True where
  ownType {ctx ctx'} hctx := by
    have hexpand : ctx'.library.withoutTypedefs = ctx.library.withoutTypedefs := by
      funext type
      rw [Library.withoutTypedefs, Library.withoutTypedefs, hctx.library.typedefIds,
        Library.expandTypedefs_congr hctx.library.reduceTypedefs fun _ => Iff.rfl]
    refine ⟨ctx.library.withoutTypedefs, fun k s => ⟨applyOwnType_typedefStripping ctx k s, ?_⟩⟩
    rw [applyOwnType_typedefStripping, hexpand]
  decl {ctx ctx' d d' s s'} _ hd hchildren hs := by
    rw [typedefStripping_decl, typedefStripping_decl, hd.isSome_typedef?]
    refine ⟨?_, hs⟩
    dsimp only
    split
    · exact .nil
    · exact .cons (.node hd hchildren) .nil

/-! ## Broken declarations -/

namespace Decl.AgreesUpTo

variable {d d' : Decl} (h : d.AgreesUpTo .errors d')

include h

theorem hasErrors : d'.hasErrors = d.hasErrors := Diagnostics.hasErrors_congr h.diagnostics

theorem isUnpaired : d'.isUnpaired = d.isUnpaired := by
  unfold Decl.isUnpaired record?
  rw [h.kind]
  cases d.kind <;> rfl

theorem checkPairing : d.checkPairing.AgreesUpTo .errors d'.checkPairing := by
  unfold Decl.checkPairing
  rw [h.isUnpaired]
  split
  · exact h.withDiagnostics (Tolerance.errors_attachAll h.diagnostics [.unpairedVTable])
  · exact h

end Decl.AgreesUpTo

theorem any_hasErrors_congr {ds ds' : List Decl}
    (h : List.Forall₂ (Decl.AgreesUpTo .errors) ds ds') :
    ds'.any Decl.hasErrors = ds.any Decl.hasErrors := by
  induction h with
  | nil => rfl
  | cons hd _ ih => rw [List.any_cons, List.any_cons, hd.hasErrors, ih]

theorem tolerates_extraction : extraction.Tolerates extraction .errors .errors
    (List.Forall₂ (Decl.Throughout (Decl.AgreesUpTo .errors))) where
  ownType _ := Pass.mapType_of_silent (fun _ _ _ => rfl) (fun _ _ _ => rfl)
  decl {ctx ctx' d d' s s'} hctx hd hchildren hs := by
    have hchecked : d.checkPairing.Throughout (Decl.AgreesUpTo .errors) d'.checkPairing := by
      refine .node hd.checkPairing ?_
      rwa [d.children_checkPairing, d'.children_checkPairing]
    have habove := any_hasErrors_congr (hctx.above.imp fun _ _ hp => hp.rel)
    rw [extraction_decl, extraction_decl, hchecked.rel.hasErrors, habove]
    split
    · exact ⟨.nil, hs.ids, List.rel_append hs.state (.cons hchecked .nil)⟩
    · exact ⟨.cons hchecked .nil, hs⟩

/-! ## Passes with another default convention -/

namespace PassInstance

def withConvention (default : CallingConvention) : PassInstance → PassInstance
  | verify config reported => verify { config with defaultConvention := default } reported
  | p => p

/-- **Libraries with the same errors** still have the same errors after any pass. -/
theorem run_agreesUpTo (default default' : CallingConvention) (p : PassInstance) {L L' : Library}
    (h : L.AgreesUpTo .errors L') :
    ((p.withConvention default).run L).1.AgreesUpTo .errors
      ((p.withConvention default').run L').1 := by
  cases p with
  | verify config reported => exact h.verification default default' reported reported
  | wrapLoose wrapped =>
    obtain ⟨M, M', _, _, hrun, hrun', hM, -⟩ :=
      tolerates_looseWrapping.run h wrapped wrapped trivial id
    show (looseWrapping.run L wrapped).1.AgreesUpTo .errors (looseWrapping.run L' wrapped).1
    rw [hrun, hrun']
    exact hM.wrapLoose Tolerance.errors_refl
  | extractBroken extracted =>
    obtain ⟨M, M', found, found', hrun, hrun', hM, hfound⟩ :=
      tolerates_extraction.run h extracted extracted .nil id
    show (extraction.run L extracted).1.AgreesUpTo .errors (extraction.run L' extracted).1
    rw [hrun, hrun']
    exact ⟨hM.files, hM.roots, List.rel_append hM.broken hfound, hM.nextId⟩
  | stripTypedefs =>
    obtain ⟨M, M', _, _, hrun, hrun', hM, -⟩ := tolerates_typedefStripping.run h () () trivial id
    show (typedefStripping.run L ()).1.AgreesUpTo .errors (typedefStripping.run L' ()).1
    rw [hrun, hrun']
    exact hM

theorem runAll_agreesUpTo (default default' : CallingConvention) (passes : List PassInstance)
    {L L' : Library} (h : L.AgreesUpTo .errors L') :
    (runAll L (passes.map (withConvention default))).1.AgreesUpTo .errors
      (runAll L' (passes.map (withConvention default'))).1 := by
  induction passes generalizing L L' with
  | nil => exact h
  | cons p passes ih => exact ih (p.run_agreesUpTo default default' h)

end PassInstance

def Pipeline.withConvention (default : CallingConvention) (p : Pipeline) : Pipeline :=
  { p with passes := p.passes.map (PassInstance.withConvention default) }

end NativeApi
