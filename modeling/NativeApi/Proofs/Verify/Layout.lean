import Mathlib.Data.List.Perm.Subperm
import NativeApi.Proofs.Verify.Places
import NativeApi.Sample

/-!
# The layout of verified records

In the verified library a record without errors designates its members rightly, and a vtable or a
base field without errors is designated by the record around it (`verify_closes_layout`).  The rule
for a record sees its handles after they settled, and the rules for its members see the handles of
the original record; as the ids of siblings are distinct, the two views agree
(`settledHandle_eq_self`).
-/

namespace NativeApi

variable {default : CallingConvention} {L N : Library}

/-! ## Records -/

/-- A record whose handles are right: its vtable comes with the field that points to it, and what
a handle names is a member that may fill the slot. -/
structure Record.LayoutClosed (r : Record Decl) : Prop where
  paired : r.isPaired = true
  names : ∀ slot id, r.handle slot = some id → ∃ m ∈ r.members, m.id = id ∧ m.fills slot = true

namespace Context

variable {r : Record Decl}

theorem unpairedVTable_mem_recordIssues (h : r.vtable.isSome ≠ r.vtableField.isSome) :
    .unpairedVTable ∈ recordIssues r := by
  have hunpaired : ¬ r.isPaired = true := fun hpaired => h (beq_iff_eq.mp hpaired)
  refine List.mem_append_left _ (List.mem_append_right _ ?_)
  rw [if_neg hunpaired]
  exact List.mem_singleton_self _

theorem missingDesignated_mem_recordIssues {slot : Slot} {id : DeclId}
    (hhandle : r.handle slot = some id) (h : ¬∃ m ∈ r.members, m.id = id ∧ m.fills slot = true) :
    .missingDesignated slot ∈ recordIssues r := by
  refine List.mem_append_right _ (List.mem_filterMap.mpr ⟨slot, by cases slot <;> decide, ?_⟩)
  rw [hhandle]
  dsimp only
  rw [if_neg]
  rw [List.any_eq_true]
  rintro ⟨m, hm, hboth⟩
  rw [Bool.and_eq_true, decide_eq_true_iff] at hboth
  exact h ⟨m, hm, hboth⟩

/-- The handles of a record are reported just if they are not right. -/
theorem recordIssues_of_layoutClosed (h : r.LayoutClosed) : recordIssues r =
    if r.unsupported.isEmpty then [] else [.unrepresentedMembers r.unsupported.length] := by
  rw [recordIssues, if_pos h.paired, List.append_nil]
  refine (congrArg (List.append _) ?_).trans (List.append_nil _)
  refine List.filterMap_eq_nil_iff.mpr fun slot _ => ?_
  cases hhandle : r.handle slot with
  | none => rfl
  | some id =>
    obtain ⟨m, hm, hid, hfills⟩ := h.names slot id hhandle
    refine if_pos (List.any_eq_true.mpr ⟨m, hm, ?_⟩)
    rw [hfills, Bool.and_true, decide_eq_true_iff]
    exact hid

theorem layoutClosed_of_recordIssues (h : ∀ issue ∈ recordIssues r, issue.severity ≠ .error) :
    r.LayoutClosed := by
  constructor
  · by_contra hunpaired
    refine h _ (unpairedVTable_mem_recordIssues fun hsame => ?_) rfl
    exact hunpaired (beq_iff_eq.mpr hsame)
  · intro slot id hhandle
    by_contra hmissing
    exact h _ (missingDesignated_mem_recordIssues hhandle hmissing) rfl

end Context

theorem Settles.layoutClosed {above : List Decl} {d d' : Decl}
    (h : Settles default L N above d d') (hclean : d'.hasErrors = false) {r : Record Decl}
    (hkind : d'.kind = .record r) : r.LayoutClosed := by
  obtain ⟨parts, _, rfl⟩ := h.exists_parts
  have hissues := Context.severity_ne_of_settle hclean
  refine Context.layoutClosed_of_recordIssues fun issue hissue => hissues issue ?_
  refine List.mem_append_left _ (List.mem_append_right _ ?_)
  have hbefore : (d.withSettled (parts.map SettledPart.result)).kind = .record r :=
    Context.kind_of_repairedKind nofun nofun hkind
  rw [Context.kindIssues, hbefore]
  exact hissue

/-! ## Designated members -/

/-- The slots whose members must be designated. -/
def Slot.isRequired : Slot → Bool
  | .vtable | .baseField => true
  | .vtableField => false

/-- A member without errors that must be designated was designated before. -/
theorem Context.designates_of_settle {ctx : Context} {d : Decl} {slot : Slot}
    (hrequired : slot.isRequired = true) (hfills : d.fills slot = true)
    (hclean : (ctx.settle default N d).hasErrors = false) :
    ctx.designates slot d.id = true := by
  have hissues := severity_ne_of_settle hclean
  by_contra hnot
  cases slot with
  | vtable =>
    obtain ⟨entries, hkind⟩ := Kind.form_eq_vtable_iff.mp (Decl.fills_iff.mp hfills)
    refine hissues .undesignatedVTable (List.mem_append_left _ (List.mem_append_right _ ?_)) rfl
    rw [kindIssues, hkind]
    dsimp only
    rw [if_neg hnot]
    exact List.mem_singleton_self _
  | baseField =>
    obtain ⟨offset, type, hkind⟩ := Kind.form_eq_field_base_iff.mp (Decl.fills_iff.mp hfills)
    refine hissues .undesignatedBaseField (List.mem_append_left _ (List.mem_append_right _ ?_)) rfl
    rw [kindIssues, hkind]
    refine List.mem_append_right _ ?_
    rw [contentIssues, if_neg hnot]
    exact List.mem_singleton_self _
  | vtableField => exact absurd hrequired Bool.false_ne_true

theorem Counterpart.designated {v v' : Visit} (hcounter : Counterpart default L N v v')
    (hdistinct : L.SiblingIdsDistinct) (hv : v ∈ L.visits) {slot : Slot}
    (hrequired : slot.isRequired = true) (hfills : v'.decl.fills slot = true)
    (hclean : v'.decl.hasErrors = false) :
    ∃ p r, v'.parent? = some p ∧ p.kind = .record r ∧ r.handle slot = some v'.decl.id := by
  have hcontinues := hcounter.continues
  have hbefore : (Context.mk L v.above).designates slot v.decl.id = true := by
    obtain ⟨parts, _, hsettled⟩ := hcounter.settles.exists_parts
    rw [hsettled] at hclean
    have hrebuilt := v.decl.continues_withSettled (parts.map SettledPart.result)
    refine Context.designates_of_settle (d := v.decl.withSettled _) hrequired ?_ hclean
    rw [hrebuilt.fills, ← hcontinues.fills]
    exact hfills
  have hafter : (Context.mk N v'.above).designates slot v.decl.id = true := by
    refine (hcounter.precedes hdistinct hv).designates slot ?_ hbefore
    rw [← hcontinues.fills]
    exact hfills
  obtain ⟨p, hp, hhandle⟩ := Context.designates_iff.mp hafter
  obtain ⟨r, hr, hhandle⟩ := Option.bind_eq_some_iff.mp hhandle
  refine ⟨p, r, hp, ?_, by rw [hhandle, hcontinues.id]⟩
  unfold Decl.record? at hr
  split at hr
  · next hkind => rw [hkind, Option.some.inj hr]
  · exact absurd hr nofun

/-! ## The verified library -/

/-- What one handle names occurs at most once. -/
theorem countP_le_one_of_handle {ds : List Decl} (hdistinct : (ds.map Decl.id).Nodup)
    {p : Decl → Bool} (handle : Option DeclId) (h : ∀ d ∈ ds, p d = true → handle = some d.id) :
    ds.countP p ≤ 1 := by
  have hnamed : (ds.filter p).map Decl.id ⊆ handle.toList := by
    intro id hid
    obtain ⟨d, hd, rfl⟩ := List.mem_map.mp hid
    obtain ⟨hmem, hp⟩ := List.mem_filter.mp hd
    exact Option.mem_toList.mpr (h d hmem hp)
  have hnodup : ((ds.filter p).map Decl.id).Nodup :=
    hdistinct.sublist (List.filter_sublist.map _)
  have hlength := (List.subperm_of_subset hnodup hnamed).length_le
  rw [List.length_map] at hlength
  rw [List.countP_eq_length_filter]
  exact Nat.le_trans hlength Option.length_toList_le

theorem Settles.map_id_children {above : List Decl} {d d' : Decl}
    (h : Settles default L N above d d') (hform : d.kind.form = .record) :
    d'.children.map Decl.id = d.children.map Decl.id :=
  Decl.map_id_of_continues (h.forall₂_continues hform)

theorem layoutClosed_verify (default : CallingConvention) (L : Library) {d' : Decl}
    (hd' : d' ∈ (verify default L).decls) (hclean : d'.hasErrors = false) {r : Record Decl}
    (hkind : d'.kind = .record r) : r.LayoutClosed := by
  obtain ⟨v', hv', rfl⟩ := Library.mem_decls_iff.mp hd'
  obtain ⟨v, _, hcounter | henclosure⟩ := mem_visits_verify default L v' hv'
  · exact hcounter.settles.layoutClosed hclean hkind
  · have hform := henclosure.form
    rw [hkind] at hform
    cases hform

/-- A member without errors is designated by the record directly around it. -/
theorem designated_verify (default : CallingConvention) {L : Library}
    (hdistinct : L.SiblingIdsDistinct) {v' : Visit} (hv' : v' ∈ (verify default L).visits)
    (hclean : v'.decl.hasErrors = false) {slot : Slot} (hrequired : slot.isRequired = true)
    (hfills : v'.decl.fills slot = true) :
    ∃ p r, v'.parent? = some p ∧ p.kind = .record r ∧ v'.decl ∈ r.members ∧
      r.handle slot = some v'.decl.id := by
  obtain ⟨v, hv, hcounter | henclosure⟩ := mem_visits_verify default L v' hv'
  · obtain ⟨p, r, hp, hkind, hhandle⟩ :=
      hcounter.designated hdistinct hv hrequired hfills hclean
    refine ⟨p, r, hp, hkind, ?_, hhandle⟩
    have hchild := Library.mem_children_of_parent? hv' hp
    rwa [Decl.children, hkind] at hchild
  · -- a container fills no slot
    cases henclosure
    cases slot <;> exact absurd hfills Bool.false_ne_true

/-- No record has two members without errors for one slot: both would have the id that its handle
names. -/
theorem countP_fills_verify (default : CallingConvention) {L : Library}
    (hdistinct : L.SiblingIdsDistinct) {d' : Decl} (hd' : d' ∈ (verify default L).decls)
    {r : Record Decl} (hkind : d'.kind = .record r) {slot : Slot}
    (hrequired : slot.isRequired = true) :
    r.members.countP (fun m => m.fills slot && !m.hasErrors) ≤ 1 := by
  obtain ⟨v', hv', rfl⟩ := Library.mem_decls_iff.mp hd'
  have hchildren : v'.decl.children = r.members := by
    rw [Decl.children, hkind]
    rfl
  have hids : (r.members.map Decl.id).Nodup := by
    obtain ⟨v, hv, hcounter | henclosure⟩ := mem_visits_verify default L v' hv'
    · have hform : v.decl.kind.form = .record := by
        rw [← hcounter.continues.form, hkind]
        rfl
      rw [← hchildren, hcounter.settles.map_id_children hform]
      exact hdistinct v.decl (Library.mem_decls_iff.mpr ⟨v, hv, rfl⟩)
    · have hform := henclosure.form
      rw [hkind] at hform
      cases hform
  refine countP_le_one_of_handle hids (r.handle slot) fun m hm hboth => ?_
  rw [Bool.and_eq_true, Bool.not_eq_true'] at hboth
  obtain ⟨p, s, hp, hrecord, _, hhandle⟩ := designated_verify default hdistinct
    (Library.mem_visits_child hv' (hchildren ▸ hm)) hboth.2 hrequired hboth.1
  obtain rfl : v'.decl = p := Option.some.inj hp
  obtain rfl : r = s := Kind.record.inj (hkind.symm.trans hrecord)
  exact hhandle

/-- **Verified records are closed.**  A record without errors has its handles right; a vtable or a
base field without errors, wherever it is, is the member that the record directly around it
designates; so no record has two of either. -/
theorem verify_closes_layout (default : CallingConvention) (L : Library)
    (hdistinct : L.SiblingIdsDistinct) :
    (∀ d ∈ (verify default L).decls, d.hasErrors = false → ∀ r, d.kind = .record r →
      r.LayoutClosed) ∧
    (∀ v ∈ (verify default L).visits, v.decl.hasErrors = false → ∀ slot, slot.isRequired = true →
      v.decl.fills slot = true → ∃ p r, v.parent? = some p ∧ p.kind = .record r ∧
        v.decl ∈ r.members ∧ r.handle slot = some v.decl.id) ∧
    ∀ d ∈ (verify default L).decls, ∀ r, d.kind = .record r → ∀ slot, slot.isRequired = true →
      r.members.countP (fun m => m.fills slot && !m.hasErrors) ≤ 1 := by
  refine ⟨?_, ?_, ?_⟩
  · intro d hd hclean r hkind
    exact layoutClosed_verify default L hd hclean hkind
  · intro v hv hclean slot hrequired hfills
    exact designated_verify default hdistinct hv hclean hrequired hfills
  · intro d hd r hkind slot hrequired
    exact countP_fills_verify default hdistinct hd hkind hrequired

theorem verify_closes_layout_sample :
    Sample.library.SiblingIdsDistinct ∧ ∀ d ∈ (verify .c Sample.library).decls,
      d.hasErrors = false → ∀ r, d.kind = .record r → r.LayoutClosed :=
  have hdistinct : Sample.library.SiblingIdsDistinct := by
    unfold Library.SiblingIdsDistinct
    decide +kernel
  ⟨hdistinct, (verify_closes_layout .c Sample.library hdistinct).1⟩

end NativeApi
