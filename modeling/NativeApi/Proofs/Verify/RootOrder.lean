import Mathlib.Data.List.FinRange
import NativeApi.Proofs.Decl.Throughout
import NativeApi.Proofs.Verify.Containers
import NativeApi.Proofs.Verify.Views

/-!
# The order of the roots

Verification goes over the roots one by one, with ids handed out on the way, and looks up types and
references in libraries as a whole.  None of this depends on the order of the roots, except which
id a container gets.

* `Decl.AgreesButContainerId`: two declarations agree, except for the ids of new containers.
* `Settles.agrees`: a declaration settles in one way only, except for the ids of containers, in all
  libraries that judge types alike.
* `Library.reordered`: a library with its roots in another order.
* `verify_reordered`: what verification makes of the reordered library.
-/

namespace NativeApi

variable {default : CallingConvention} {L L' N N' : Library}

/-! ## Agreement -/

/-- Two declarations agree in everything but the children, which have positions of their own, and
the id, which may differ if they are containers of enums with ids from `first` on. -/
structure Decl.AgreesButContainerId (first : DeclId) (d d' : Decl) : Prop where
  rest : d' = { d with id := d'.id, kind := d.kind.withChildren d'.children }
  id : d'.id = d.id ∨ first ≤ d.id ∧ first ≤ d'.id ∧
    ∃ e, d = enumContainer d.id e ∧ e.kind.form = .enumeration

theorem Decl.AgreesButContainerId.name {first : DeclId} {d d' : Decl}
    (h : d.AgreesButContainerId first d') : d'.name = d.name := by
  rw [h.rest]

theorem Decl.AgreesButContainerId.form {first : DeclId} {d d' : Decl}
    (h : d.AgreesButContainerId first d') : d'.kind.form = d.kind.form := by
  rw [h.rest]
  exact Kind.form_withChildren _ _

theorem SameTypes.seesAlike (h : SameTypes L L') (above : List Decl) :
    (Context.mk L above).SeesAlike ⟨L', above⟩ where
  types := h
  parent := by
    show Option.Rel _ above.head? above.head?
    cases above.head? with
    | none => exact .none
    | some p => exact .some (.refl p)

/-! ## Settling in two libraries -/

/-- What a declaration settles into depends on its children only where a rule sees them. -/
theorem settle_readsAlike (default : CallingConvention) {ctx ctx' : Context} {d d' : Decl}
    (hctx : ctx.SeesAlike ctx') (hd : d.ReadsAlike d') (hsame : d'.diagnostics = d.diagnostics)
    (hcontains : N'.contains = N.contains) : ctx'.settle default N' d' =
      { ctx.settle default N d with
        kind := (ctx.settle default N d).kind.withChildren d'.children } := by
  rw [Context.settle, hctx.check hd default, hd.danglingIssues hcontains, hsame]
  rfl

theorem SettledPart.throughout_result {first : DeclId} {p p' : SettledPart}
    (hsettled : p.settled.Throughout (Decl.AgreesButContainerId first) p'.settled)
    (hwraps : p'.container?.isSome = p.container?.isSome)
    (hform : p.container?.isSome = true → p.settled.kind.form = .enumeration)
    (hfresh : ∀ id, p.container? = some id → first ≤ id)
    (hfresh' : ∀ id, p'.container? = some id → first ≤ id) :
    p.result.Throughout (Decl.AgreesButContainerId first) p'.result := by
  cases hcontainer : p.container? with
  | none =>
    rw [hcontainer, Option.isSome_none, Option.isSome_eq_false_iff, Option.isNone_iff_eq_none]
      at hwraps
    rwa [result_of_none hcontainer, result_of_none hwraps]
  | some id =>
    obtain ⟨id', hcontainer'⟩ :=
      Option.isSome_iff_exists.mp (hwraps.trans (by rw [hcontainer]; rfl))
    rw [result_of_some hcontainer, result_of_some hcontainer']
    have henum : p.settled.kind.form = .enumeration := hform (by rw [hcontainer]; rfl)
    refine .node ⟨?_, .inr ?_⟩ ?_
    · rw [enumContainer, enumContainer, hsettled.rel.rest]
      rfl
    · exact ⟨hfresh id hcontainer, hfresh' id' hcontainer', p.settled, rfl, henum⟩
    · exact .cons hsettled .nil

theorem SettledAll.throughout_part (htypes : SameTypes L L') (hnext : L'.nextId = L.nextId)
    {above ds ds' : List Decl} {parts parts' : List SettledPart}
    (h : SettledAll default L N above ds parts) (h' : SettledAll default L' N' above ds' parts')
    {p p' : SettledPart} (hp : p ∈ parts) (hp' : p' ∈ parts') (horig : p'.original = p.original)
    (hsettled : p.settled.Throughout (Decl.AgreesButContainerId L.nextId) p'.settled) :
    p.result.Throughout (Decl.AgreesButContainerId L.nextId) p'.result := by
  have hneeds := (htypes.seesAlike above).needsContainer p.original
  refine SettledPart.throughout_result hsettled ?_ ?_ (h.fresh p hp) (hnext ▸ h'.fresh p' hp')
  · rw [h'.wraps p' hp', h.wraps p hp, horig, hneeds]
  · intro hsome
    rw [(h.settles p hp).continues.form]
    exact Context.form_of_needsContainer ((h.wraps p hp).symm.trans hsome)

/-- Children that agree read the same, if those of a record have the ids that they had. -/
theorem readsAlike_withSettled {first : DeclId} {d : Decl} {cs cs' : List Decl}
    (hcs : (d.withSettled cs).children = cs) (hcs' : (d.withSettled cs').children = cs')
    (hagree : List.Forall₂ (Decl.AgreesButContainerId first) cs cs')
    (hids : d.kind.form = .record → cs'.map Decl.id = cs.map Decl.id) :
    (d.withSettled cs).ReadsAlike (d.withSettled cs') := by
  have hkind : (d.withSettled cs').kind
      = (d.withSettled cs).kind.withChildren (d.withSettled cs').children := by
    rw [hcs', Decl.withSettled, Decl.withSettled, Kind.withChildren_withChildren]
  have hnames : cs'.map Decl.name = cs.map Decl.name :=
    map_eq_of_forall₂ (hagree.imp fun _ _ hc => hc.name)
  refine ⟨?_, Kind.view_withChildren ?_ fun hrecord => ?_⟩
  · rw [← hkind]
    rfl
  · rw [hcs', ← Decl.children, hcs, hnames]
  · rw [hcs', ← Decl.children, hcs]
    rw [(d.continues_withSettled cs).form] at hrecord
    have hsame : List.Forall₂ (fun c c' : Decl => c'.id = c.id) cs cs' :=
      forall₂_of_map_eq (hids hrecord) fun _ _ _ _ hid => hid
    refine map_eq_of_forall₂ (List.Forall₂.mp (fun c c' hid hc => ?_) hsame hagree)
    rw [Decl.outline, Decl.outline, hid, hc.name, hc.form]

/-- **A declaration settles in one way only**, except for the ids of containers. -/
theorem Settles.agrees (htypes : SameTypes L L') (hnext : L'.nextId = L.nextId)
    (hcontains : N'.contains = N.contains) {above : List Decl} {d x x' : Decl}
    (h : Settles default L N above d x) (h' : Settles default L' N' above d x') :
    x.Throughout (Decl.AgreesButContainerId L.nextId) x' := by
  induction h generalizing x' with
  | @node above d parts horig hsettle hwrap hfresh ih =>
    have hall : SettledAll default L N (d :: above) d.children parts :=
      ⟨horig, hsettle, hwrap, hfresh⟩
    obtain ⟨parts', hall', rfl⟩ := h'.exists_parts
    have hresults : List.Forall₂ (Decl.Throughout (Decl.AgreesButContainerId L.nextId))
        (parts.map SettledPart.result) (parts'.map SettledPart.result) := by
      rw [List.forall₂_map_left_iff, List.forall₂_map_right_iff]
      refine forall₂_of_map_eq (hall'.originals.trans horig.symm) fun p hp p' hp' hsame => ?_
      exact hall.throughout_part htypes hnext hall' hp hp' hsame
        (ih p hp (hsame ▸ hall'.settles p' hp'))
    have hreads : (d.withSettled (parts.map SettledPart.result)).ReadsAlike
        (d.withSettled (parts'.map SettledPart.result)) := by
      refine readsAlike_withSettled hall.children_withSettled hall'.children_withSettled
        (hresults.imp fun _ _ hr => hr.rel) fun hrecord => ?_
      rw [Decl.map_id_of_continues (hall.forall₂_continues hrecord),
        Decl.map_id_of_continues (hall'.forall₂_continues hrecord)]
    have hsettle := settle_readsAlike default (htypes.seesAlike above) hreads rfl hcontains
    rw [hall'.children_withSettled] at hsettle
    refine .node ⟨?_, .inl (by rw [hsettle])⟩ ?_
    · rw [hall'.children_settle, hsettle]
    · rw [hall.children_settle, hall'.children_settle]
      exact hresults

/-! ## Libraries in another order -/

namespace Library

def reordered (L : Library) (e : Equiv.Perm (Fin L.roots.length)) : Library :=
  L.withRoots (List.ofFn fun i => L.roots.get (e i))

variable {e : Equiv.Perm (Fin L.roots.length)}

theorem perm_roots_reordered (L : Library) (e : Equiv.Perm (Fin L.roots.length)) :
    (L.reordered e).roots.Perm L.roots := by
  have hperm := Equiv.Perm.ofFn_comp_perm e L.roots.get
  rwa [List.ofFn_get] at hperm

theorem perm_decls_reordered (L : Library) (e : Equiv.Perm (Fin L.roots.length)) :
    (L.reordered e).decls.Perm L.decls := (L.perm_roots_reordered e).flatMap_right _

theorem find?_reordered (h : L.ids.Nodup) : (L.reordered e).find? = L.find? := by
  have hperm := L.perm_decls_reordered e
  have hdistinct : (L.reordered e).ids.Nodup := (hperm.map Decl.id).nodup_iff.mpr h
  funext id
  refine Option.ext fun d => ?_
  rw [find?_eq_some_iff hdistinct, find?_eq_some_iff h, hperm.mem_iff]

theorem sameTypes_reordered (h : L.ids.Nodup) : SameTypes L (L.reordered e) := by
  refine .of_referents (fun id => ?_) ?_
  · exact (((L.perm_decls_reordered e).filter _).map Decl.id).mem_iff
  · funext id
    rw [referent?, referent?, find?_reordered h]

theorem containerCount_reordered (h : L.ids.Nodup) :
    (L.reordered e).containerCount = L.containerCount := by
  have hsame : Visit.needsContainer (L.reordered e) = Visit.needsContainer L := by
    funext v
    exact ((sameTypes_reordered h).seesAlike v.above).needsContainer v.decl
  rw [containerCount, containerCount, hsame]
  exact ((L.perm_roots_reordered e).flatMap_right _).countP_eq _

end Library

theorem nextId_verify_reordered (h : L.ids.Nodup) {e : Equiv.Perm (Fin L.roots.length)} :
    (verify default (L.reordered e)).nextId = (verify default L).nextId := by
  rw [nextId_verify, nextId_verify, Library.containerCount_reordered h]
  rfl

theorem contains_verify_reordered (h : L.ids.Nodup) {e : Equiv.Perm (Fin L.roots.length)} :
    (verify default (L.reordered e)).contains = (verify default L).contains := by
  refine Library.contains_congr fun id => ?_
  rw [mem_ids_verify, mem_ids_verify, nextId_verify_reordered h]
  exact or_congr_left ((L.perm_decls_reordered e).map Decl.id).mem_iff

/-! ## The verified roots -/

/-- What stands for a root after verification: the root, continued, or a container with an unused
id around it. -/
def Decl.StandsFor (first : DeclId) (d d' : Decl) : Prop :=
  d.Continues d' ∨ ∃ id e, first ≤ id ∧ d' = enumContainer id e ∧ d.Continues e

theorem SettledAll.forall₂_standsFor {above ds : List Decl} {parts : List SettledPart}
    (h : SettledAll default L N above ds parts) :
    List.Forall₂ (Decl.StandsFor L.nextId) ds (parts.map SettledPart.result) := by
  rw [← h.originals, List.forall₂_map_left_iff, List.forall₂_map_right_iff, List.forall₂_same]
  intro p hp
  have hcontinues := (h.settles p hp).continues
  cases hcontainer : p.container? with
  | none => exact .inl (by rwa [SettledPart.result_of_none hcontainer])
  | some id =>
    exact .inr ⟨id, p.settled, h.fresh p hp id hcontainer, SettledPart.result_of_some hcontainer,
      hcontinues⟩

/-- **Verification does not depend on the order of the roots.**  For each root there is one root
afterwards.  In another order the same roots come out, in that order, and they agree with the
others at every position and in every part, except for the ids of the containers that were put
around enums.  The next id, the files and the broken declarations are the same. -/
theorem verify_reordered (default : CallingConvention) (L : Library) (h : L.TreeIdsSound)
    (e : Equiv.Perm (Fin L.roots.length)) :
    let M := verify default L
    let M' := verify default (L.reordered e)
    List.Forall₂ (Decl.StandsFor L.nextId) L.roots M.roots ∧
    M'.roots.length = M.roots.length ∧
    (∀ i : Fin L.roots.length,
      Option.Rel (Decl.Throughout (Decl.AgreesButContainerId L.nextId))
        M.roots[(e i : Nat)]? M'.roots[(i : Nat)]?) ∧
    M'.nextId = M.nextId ∧ M'.files = M.files ∧ M'.broken = M.broken := by
  intro M M'
  obtain ⟨parts, hparts, hroots⟩ := verify_settles default L
  obtain ⟨parts', hparts', hroots'⟩ := verify_settles default (L.reordered e)
  refine ⟨?_, ?_, ?_, ?_, ?_, ?_⟩
  · rw [hroots]
    exact hparts.forall₂_standsFor
  · have hlength : ∀ {K N : Library} {ps : List SettledPart}, SettledAll default K N [] K.roots ps →
        (ps.map SettledPart.result).length = K.roots.length := by
      intro K N ps hps
      rw [List.length_map, ← hps.originals, List.length_map]
    rw [hroots, hroots', hlength hparts, hlength hparts']
    exact (L.perm_roots_reordered e).length_eq
  · intro i
    obtain ⟨p, hp, hat⟩ := hparts.exists_part (List.getElem?_eq_getElem (e i).isLt)
    obtain ⟨p', hp', hat'⟩ := hparts'.exists_part
      (List.getElem?_ofFn.trans (dif_pos i.isLt))
    have hmem := List.mem_of_getElem? hp
    have hmem' := List.mem_of_getElem? hp'
    have horig : p'.original = p.original := hat'.trans hat.symm
    have htypes : SameTypes L (L.reordered e) := Library.sameTypes_reordered h.distinct
    rw [hroots, hroots', List.getElem?_map, List.getElem?_map, hp, hp']
    refine .some (hparts.throughout_part htypes rfl hparts' hmem hmem' horig ?_)
    exact Settles.agrees htypes rfl (contains_verify_reordered h.distinct) (hparts.settles p hmem)
      (horig ▸ hparts'.settles p' hmem')
  · exact nextId_verify_reordered h.distinct
  · rw [files_verify, files_verify]
    rfl
  · rw [broken_verify, broken_verify]
    rfl

/-- Two enums that need containers, and a record between them that refers to the second. -/
def Sample.masks : Library :=
  .ofRoots ["include/masks.h"] [
    .ofKind 1 "Low" 0
      (.enumeration ⟨.scalar .nuint, false, [.ofKind 2 "A" 0 (.enumConstant 1 true)]⟩),
    .ofKind 3 "Pair" 0 (.record (.ofMembers [
      .ofKind 4 "high" 0 (.field 0 (.bits 0 3 (.decl ⟨5, "High"⟩)))])),
    .ofKind 5 "High" 0 (.enumeration ⟨.scalar .nint, false, []⟩)] 6

/-- The containers swap their ids, and nothing else happens. -/
theorem verify_reordered_masks :
    let L := Sample.masks
    let M := verify .c L
    let M' := verify .c (L.reordered Fin.revPerm)
    L.TreeIdsSound ∧ M.ids = [6, 1, 2, 3, 4, 7, 5] ∧ M'.ids = [6, 5, 3, 4, 7, 1, 2] ∧
    M'.nextId = M.nextId ∧
    Option.Rel (Decl.Throughout (Decl.AgreesButContainerId 6)) M.roots[2]? M'.roots[0]? := by
  intro L M M'
  have h : L.TreeIdsSound := ⟨by decide +kernel, by decide +kernel⟩
  obtain ⟨_, _, hroots, hnextId, _⟩ := verify_reordered .c L h Fin.revPerm
  exact ⟨h, by decide +kernel, by decide +kernel, hnextId, hroots ⟨0, by decide⟩⟩

end NativeApi
