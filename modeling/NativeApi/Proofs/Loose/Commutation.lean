import NativeApi.Proofs.Extraction.References
import NativeApi.Proofs.Loose.Wrapping
import NativeApi.Proofs.Typedefs.Stripping

/-!
# Stripping and wrapping commute

One pass drops the typedefs and rewrites types by what ids lead to, the other one moves loose roots
into containers.  Each sees the outcome of the other, with other roots, paths and parents.  But what
types see of a library are the referents of ids, which do not depend on places, and the new
containers have ids that nothing refers to; and stripping neither adds nor drops a loose root.

* `Library.referent?_wrapLoose`: an id has the same referent in the wrapped library.
* `Library.stripped_resettled`: whether the handles were settled before makes no difference to
  stripping.
* `Library.strippedAll_looseContainers`: a container is stripped by stripping its members.
* `looseWrapping_typedefStripping_comm`: **both orders give the same library**.  Nothing is asked of
  the typedefs, because `expandTypedefs` follows each of them at most once on the way down.  Where a
  typedef mentions itself below a pointer, following it without that bound never ends in either
  order, and the theorem does not speak of that.
-/

namespace NativeApi

/-! ## Referents -/

namespace Library

variable {L : Library}

theorem referent?_eq_some_iff (h : L.ids.Nodup) {id : DeclId} {x : Referent} :
    L.referent? id = some x ↔ ∃ d ∈ L.decls, d.id = id ∧ d.kind.referent? = some x := by
  rw [referent?, Option.bind_eq_some_iff]
  simp only [find?_eq_some_iff h, and_assoc]

theorem referent?_kind_resettled (d : Decl) : d.resettled.kind.referent? = d.kind.referent? := by
  rw [Decl.resettled_eq, Decl.withSettled, Kind.referent?_withChildren, Kind.referent?_mapHandles]

/-- **An id has the same referent in the wrapped library**: the declarations are still there, and
types see nothing of the containers. -/
theorem referent?_wrapLoose (h : L.ids.Nodup) (hwrapped : L.resettled.wrapLoose.ids.Nodup) :
    L.resettled.wrapLoose.referent? = L.referent? := by
  funext id
  refine Option.ext fun x => ?_
  rw [referent?_eq_some_iff hwrapped, referent?_eq_some_iff h]
  constructor
  · rintro ⟨e, he, hid, hx⟩
    rcases (mem_decls_wrapLoose L.one_le_nextId_resettled).mp he with hold | hc
    · rw [decls_resettled] at hold
      obtain ⟨d, hd, rfl⟩ := List.mem_map.mp hold
      rw [referent?_kind_resettled] at hx
      exact ⟨d, hd, d.continues_resettled.id.symm.trans hid, hx⟩
    · obtain ⟨_, group, _, rfl⟩ := mem_looseContainers hc
      exact absurd hx nofun
  · rintro ⟨d, hd, hid, hx⟩
    refine ⟨d.resettled, ?_, d.continues_resettled.id.trans hid, ?_⟩
    · refine (mem_decls_wrapLoose L.one_le_nextId_resettled).mpr (.inl ?_)
      rw [decls_resettled]
      exact List.mem_map_of_mem hd
    · rwa [referent?_kind_resettled]

theorem withoutTypedefs_wrapLoose (h : L.ids.Nodup) (hwrapped : L.resettled.wrapLoose.ids.Nodup) :
    L.resettled.wrapLoose.withoutTypedefs = L.withoutTypedefs := by
  have hreferents := referent?_wrapLoose h hwrapped
  exact withoutTypedefs_congr (mem_typedefIds_congr hreferents hwrapped h) hreferents

end Library

/-! ## Stripping after settling -/

theorem Decl.Continues.isNone_typedef? {d d' : Decl} (h : d.Continues d') :
    d'.typedef?.isNone = d.typedef?.isNone := by
  rw [← Option.not_isSome, ← Option.not_isSome, Bool.not_inj_iff, Bool.eq_iff_iff,
    Decl.isSome_typedef?_iff, Decl.isSome_typedef?_iff, h.form]

theorem Decl.isNone_typedef?_of_isLoose {d : Decl} (h : d.isLoose = true) :
    d.typedef?.isNone = true := by
  rw [← Option.not_isSome, Bool.not_eq_true', ← Bool.not_eq_true, Decl.isSome_typedef?_iff]
  intro hform
  rcases Decl.isLoose_iff.mp h with hloose | hloose <;> exact absurd (hform.symm.trans hloose) nofun

/-- Handles that were settled before are not changed when they are settled again. -/
theorem Kind.mapHandles_of_settled {f : TypeRef → TypeRef}
    {settle settle' : Option DeclId → Slot → Option DeclId}
    (h : ∀ handle slot, settle' (settle handle slot) slot = settle handle slot) (k : Kind Decl)
    (inner children : List Decl) :
    ((((k.mapHandles settle).withChildren inner).mapType f).mapHandles settle').withChildren
        children
      = ((k.mapType f).mapHandles settle).withChildren children := by
  cases k with
  | record r =>
    show Kind.record _ = Kind.record _
    simp only [Record.mapHandles, h]
  | field offset content => cases content <;> rfl
  | _ => rfl

namespace Library

variable {L M : Library}

theorem strippedAll_map_resettled {ds : List Decl}
    (h : ∀ d ∈ ds, M.stripped d.resettled = L.stripped d) :
    M.strippedAll (ds.map Decl.resettled) = L.strippedAll ds := by
  have hfilter : (ds.map Decl.resettled).filter (fun d => d.typedef?.isNone)
      = (ds.filter fun d => d.typedef?.isNone).map Decl.resettled := by
    rw [List.filter_map]
    exact congrArg (List.map Decl.resettled)
      (List.filter_congr fun d _ => d.continues_resettled.isNone_typedef?)
  rw [strippedAll, hfilter, List.map_map, strippedAll]
  exact List.map_congr_left fun d hd => h d (List.mem_filter.mp hd).1

/-- **Whether handles were settled before makes no difference to stripping.** -/
theorem stripped_resettled (hexpand : M.withoutTypedefs = L.withoutTypedefs) (d : Decl) :
    M.stripped d.resettled = L.stripped d := by
  induction d using Decl.induction with
  | step d ih =>
    have hcontinues : List.Forall₂ Decl.Continues d.children (d.children.map Decl.resettled) := by
      rw [List.forall₂_map_right_iff, List.forall₂_same]
      exact fun c _ => c.continues_resettled
    have hsettled (handle : Option DeclId) (slot : Slot) :
        settledHandle (d.children.map Decl.resettled) (settledHandle d.children handle slot) slot
          = settledHandle d.children handle slot := by
      rw [settledHandle_congr hcontinues, settledHandle_settledHandle]
    rw [stripped_eq, d.children_resettled, strippedAll_map_resettled ih, hexpand, Decl.resettled_eq,
      L.stripped_eq]
    exact congrArg (fun k => { d with kind := k })
      (Kind.mapHandles_of_settled hsettled d.kind _ _)

/-! ## Stripped containers -/

theorem stripped_looseContainer (M L : Library) (id : DeclId) (key : LooseKey)
    (members : List Decl) : M.stripped (L.looseContainer id key members)
      = L.looseContainer id key (M.strippedAll members) := by
  rw [stripped_eq]
  rfl

theorem strippedAll_looseContainers (M L : Library) (first : DeclId)
    (groups : List (LooseKey × List Decl)) : M.strippedAll (L.looseContainers first groups)
      = L.looseContainers first (groups.map fun group => (group.1, M.strippedAll group.2)) := by
  have hfilter : (L.looseContainers first groups).filter (fun d => d.typedef?.isNone)
      = L.looseContainers first groups := by
    refine List.filter_eq_self.mpr fun c hc => ?_
    obtain ⟨_, _, _, rfl⟩ := mem_looseContainers hc
    rfl
  rw [strippedAll, hfilter]
  clear hfilter
  induction groups generalizing first with
  | nil => rfl
  | cons group groups ih =>
    obtain ⟨key, members⟩ := group
    rw [List.map_cons, looseContainers_cons, looseContainers_cons, List.map_cons,
      stripped_looseContainer, ih]

/-! ## Loose roots of a stripped library -/

theorem strippedAll_of_isLoose {ds : List Decl} (h : ∀ d ∈ ds, d.isLoose = true) :
    L.strippedAll ds = ds.map L.stripped := by
  have hfilter : (ds.filter fun d => d.typedef?.isNone) = ds :=
    List.filter_eq_self.mpr fun d hd => Decl.isNone_typedef?_of_isLoose (h d hd)
  rw [strippedAll, hfilter]

theorem strippedAll_append (L : Library) (ds ds' : List Decl) :
    L.strippedAll (ds ++ ds') = L.strippedAll ds ++ L.strippedAll ds' := by
  rw [strippedAll, List.filter_append, List.map_append]
  rfl

/-- The groups of the stripped roots are the groups of the roots, stripped. -/
theorem looseGroups_strippedAll (L : Library) (ds : List Decl) :
    looseGroups (L.strippedAll ds)
      = (looseGroups ds).map fun group => (group.1, group.2.map L.stripped) := by
  rw [strippedAll, looseGroups_map (fun d => (L.continues_stripped d).isLoose)
    (fun d => by rw [stripped_eq]; rfl),
    looseGroups_filter fun d _ hloose => Decl.isNone_typedef?_of_isLoose hloose]

theorem filter_isLoose_strippedAll (L : Library) (ds : List Decl) :
    (L.strippedAll ds).filter (fun d => !d.isLoose)
      = L.strippedAll (ds.filter fun d => !d.isLoose) := by
  rw [strippedAll, List.filter_map, strippedAll, List.filter_filter, List.filter_filter]
  refine congrArg (List.map L.stripped) (List.filter_congr fun d _ => ?_)
  rw [Function.comp_apply, (L.continues_stripped d).isLoose, Bool.and_comm]

/-! ## Both orders -/

def strippedAndWrapped (L : Library) : Library :=
  { L with
    roots := (L.strippedAll L.roots).filter (fun d => !d.isLoose)
      ++ L.looseContainers L.resettled.nextId (looseGroups (L.strippedAll L.roots))
    nextId := L.resettled.nextId + (looseGroups (L.strippedAll L.roots)).length }

theorem one_le_nextId_typedefStripping (L : Library) :
    1 ≤ (typedefStripping.run L ()).1.nextId := by
  rw [run_typedefStripping]
  exact L.one_le_nextId_resettled

/-- The library without typedefs has settled handles already. -/
theorem resettled_typedefStripping (L : Library) :
    (typedefStripping.run L ()).1.resettled = (typedefStripping.run L ()).1 := by
  refine resettled_eq_self L.one_le_nextId_typedefStripping fun d hd => ?_
  obtain ⟨e, _, _, rfl⟩ := mem_decls_typedefStripping.mp hd
  exact L.handlesSettled_stripped e

theorem looseWrapping_typedefStripping (L : Library) (state : Nat) :
    (looseWrapping.run (typedefStripping.run L ()).1 state).1 = L.strippedAndWrapped := by
  rw [run_looseWrapping, resettled_typedefStripping,
    wrapLoose_eq L.one_le_nextId_typedefStripping, run_typedefStripping]
  rfl

/-- The roots of a wrapped library are stripped as if stripped first and wrapped then. -/
theorem strippedAll_roots_wrapLoose (hexpand : M.withoutTypedefs = L.withoutTypedefs) :
    M.strippedAll L.resettled.wrapLoose.roots = L.strippedAndWrapped.roots := by
  have hkept : (L.roots.map Decl.resettled).filter (fun d => !d.isLoose)
      = (L.roots.filter fun d => !d.isLoose).map Decl.resettled := by
    rw [List.filter_map]
    refine congrArg (List.map Decl.resettled) (List.filter_congr fun d _ => ?_)
    rw [Function.comp_apply, d.continues_resettled.isLoose]
  have hgroups : (looseGroups (L.roots.map Decl.resettled)).map
        (fun group => (group.1, M.strippedAll group.2))
      = looseGroups (L.strippedAll L.roots) := by
    rw [looseGroups_map (fun d => d.continues_resettled.isLoose) Decl.looseKey_resettled,
      looseGroups_strippedAll, List.map_map]
    refine List.map_congr_left fun group hgroup => Prod.ext rfl ?_
    show M.strippedAll (group.2.map Decl.resettled) = group.2.map L.stripped
    rw [strippedAll_map_resettled fun d _ => stripped_resettled hexpand d,
      strippedAll_of_isLoose (isLoose_of_mem_looseGroups hgroup)]
  rw [wrapLoose_eq L.one_le_nextId_resettled]
  show M.strippedAll ((L.roots.map Decl.resettled).filter (fun d => !d.isLoose)
    ++ L.resettled.looseContainers L.resettled.nextId
      (looseGroups (L.roots.map Decl.resettled))) = _
  rw [strippedAll_append, hkept, strippedAll_map_resettled fun d _ => stripped_resettled hexpand d,
    strippedAll_looseContainers, hgroups, ← filter_isLoose_strippedAll]
  rfl

/-- Wrapping takes as many ids as there are groups, stripped or not. -/
theorem nextId_wrapLoose_resettled (L : Library) :
    L.resettled.wrapLoose.nextId = L.strippedAndWrapped.nextId := by
  rw [wrapLoose_eq L.one_le_nextId_resettled]
  show L.resettled.nextId + (looseGroups (L.roots.map Decl.resettled)).length
    = L.resettled.nextId + (looseGroups (L.strippedAll L.roots)).length
  rw [looseGroups_map (fun d => d.continues_resettled.isLoose) Decl.looseKey_resettled,
    looseGroups_strippedAll, List.length_map, List.length_map]

theorem typedefStripping_looseWrapping (h : L.TreeIdsSound) (state : Nat) :
    (typedefStripping.run (looseWrapping.run L state).1 ()).1 = L.strippedAndWrapped := by
  have hsound := h.looseWrapping state
  rw [run_looseWrapping] at hsound ⊢
  have hroots := strippedAll_roots_wrapLoose (withoutTypedefs_wrapLoose h.distinct hsound.distinct)
  have hnext := L.nextId_wrapLoose_resettled
  have hone : 1 ≤ L.strippedAndWrapped.nextId :=
    Nat.le_trans L.one_le_nextId_resettled (Nat.le_add_right _ _)
  rw [run_typedefStripping]
  show { L.resettled.wrapLoose with
    roots := L.resettled.wrapLoose.strippedAll L.resettled.wrapLoose.roots
    nextId := max (max L.resettled.wrapLoose.nextId 1) L.resettled.wrapLoose.nextId } = _
  rw [hroots, hnext, Nat.max_eq_left hone, Nat.max_self, wrapLoose_eq L.one_le_nextId_resettled]
  rfl

theorem countP_isLoose_typedefStripping (L : Library) :
    (typedefStripping.run L ()).1.roots.countP Decl.isLoose = L.roots.countP Decl.isLoose := by
  rw [run_typedefStripping]
  show ((L.roots.filter fun d => d.typedef?.isNone).map L.stripped).countP Decl.isLoose = _
  rw [List.countP_map, List.countP_filter]
  refine List.countP_congr fun d _ => ?_
  rw [Function.comp_apply, (L.continues_stripped d).isLoose, Bool.and_eq_true]
  exact and_iff_left_of_imp Decl.isNone_typedef?_of_isLoose

end Library

/-- **Stripping typedefs and wrapping loose declarations commute.**  Where the ids in the trees are
distinct and were handed out, both orders give the same library, with the same ids of containers,
the same order of roots and the same unused ids; and both count the same loose declarations. -/
theorem looseWrapping_typedefStripping_comm {L : Library} (h : L.TreeIdsSound) (state : Nat) :
    looseWrapping.run (typedefStripping.run L ()).1 state
      = ((typedefStripping.run (looseWrapping.run L state).1 ()).1,
          (looseWrapping.run L state).2) := by
  refine Prod.ext ?_ ?_
  · rw [L.looseWrapping_typedefStripping, Library.typedefStripping_looseWrapping h]
  · rw [run_looseWrapping, run_looseWrapping]
    exact L.countP_isLoose_typedefStripping

/-- A function and a static field of two files, whose types go through a typedef that is
between them, and a record with another typedef. -/
def Sample.looseAliases : Library :=
  .ofRoots ["include/node.h", "include/list.h"] [
    .ofKind 1 "Length" 1 (.staticField "Length" (.decl ⟨3, "Size"⟩)),
    .ofKind 3 "Size" 0 (.typedef (.scalar .u32)),
    .ofKind 2 "Grow" 0 (.newFunction "Grow" [
      .ofKind 4 "size" 0 (.parameter (.pointer (.decl ⟨6, "Mask"⟩)) none)]),
    .ofKind 5 "Node" 0 (.record (.ofMembers [
      .ofKind 6 "Mask" 0 (.typedef (.decl ⟨3, "Size"⟩))]))] 7

theorem Sample.strippedAll_looseAliases :
    looseAliases.strippedAll looseAliases.roots = [
      .ofKind 1 "Length" 1 (.staticField "Length" (.scalar .u32)),
      .ofKind 2 "Grow" 0 (.newFunction "Grow" [
        .ofKind 4 "size" 0 (.parameter (.pointer (.scalar .u32)) none)]),
      .ofKind 5 "Node" 0 (.record (.ofMembers []))] := by
  rw [← Library.flatMap_remainder]
  cbv

/-- Both orders end with the record and two containers. -/
theorem looseWrapping_typedefStripping_comm_looseAliases :
    let S := (typedefStripping.run Sample.looseAliases ()).1
    let W := (looseWrapping.run Sample.looseAliases 0).1
    Sample.looseAliases.TreeIdsSound ∧
    (looseWrapping.run S 0).1 = (typedefStripping.run W ()).1 ∧
    (looseWrapping.run S 0).1.decls.map (fun d => (d.id, d.kind.type?))
      = [(5, none), (7, none), (1, some (.scalar .u32)), (8, none), (2, some .void),
          (4, some (.pointer (.scalar .u32)))] := by
  have hsound : Sample.looseAliases.TreeIdsSound := ⟨by decide +kernel, by decide +kernel⟩
  refine ⟨hsound, congrArg Prod.fst (looseWrapping_typedefStripping_comm hsound 0), ?_⟩
  show (looseWrapping.run (typedefStripping.run Sample.looseAliases ()).1 0).1.decls.map _ = _
  rw [run_typedefStripping, Sample.strippedAll_looseAliases]
  decide +kernel

end NativeApi
