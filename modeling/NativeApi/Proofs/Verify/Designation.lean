import NativeApi.Proofs.Verify.Layout
import NativeApi.Proofs.Verify.Lookups

/-!
# Handles that designate nothing

A handle of a record is wrong if it names no member, or a member that may not fill the slot.  When
verification comes to the record, its handles have followed the members.  A handle that names no
member is where it was, and is reported; one that names a member of the wrong kind was cleared on
the way, so the rule for the record does not see it.

* `Record.Designates`, `Record.Dangles`: a handle that is right, and one that names no member.
* `Record.layoutClosed_settled_iff`: which records have their handles right once they settled.
* `verify_reports_handles`: for which handles a verified record has an error.
-/

namespace NativeApi

variable {default : CallingConvention} {L N : Library}

namespace Record

/-- The handle of a slot names a member that may fill the slot. -/
def Designates (r : Record Decl) (slot : Slot) : Prop :=
  ∃ m ∈ r.members, r.handle slot = some m.id ∧ m.fills slot = true

/-- The handle of a slot names no member. -/
def Dangles (r : Record Decl) (slot : Slot) : Prop :=
  ∃ id ∈ r.handle slot, ∀ m ∈ r.members, m.id ≠ id

instance (r : Record Decl) (slot : Slot) : Decidable (r.Designates slot) :=
  inferInstanceAs (Decidable (∃ m ∈ r.members, r.handle slot = some m.id ∧ m.fills slot = true))

/-- The record in which every member is continued by another one. -/
def settled (r : Record Decl) (members : List Decl) : Record Decl :=
  { r.mapHandles (settledHandle r.members) with members }

theorem handle_settled (r : Record Decl) (members : List Decl) (slot : Slot) :
    (r.settled members).handle slot = settledHandle r.members (r.handle slot) slot := by
  cases slot <;> rfl

variable {r : Record Decl} {slot : Slot}

/-! ## Settled handles -/

/-- A handle that is still there names no member, or one that may fill the slot. -/
theorem dangles_or_designates {id : DeclId}
    (h : settledHandle r.members (r.handle slot) slot = some id) :
    r.handle slot = some id ∧ ((∀ m ∈ r.members, m.id ≠ id) ∨ r.Designates slot) := by
  obtain ⟨hhandle, hfirst⟩ := settledHandle_eq_some_iff.mp h
  refine ⟨hhandle, ?_⟩
  cases hfind : r.members.find? (·.id = id) with
  | none => exact .inl fun m hm => by simpa using List.find?_eq_none.mp hfind m hm
  | some m =>
    have hid : m.id = id := by simpa using List.find?_some hfind
    exact .inr ⟨m, List.mem_of_find?_eq_some hfind, hid ▸ hhandle, hfirst m hfind⟩

theorem settledHandle_of_dangles {id : DeclId} (hhandle : r.handle slot = some id)
    (h : ∀ m ∈ r.members, m.id ≠ id) : settledHandle r.members (r.handle slot) slot = some id := by
  have hnone : r.members.find? (·.id = id) = none :=
    List.find?_eq_none.mpr fun m hm => by simpa using h m hm
  refine settledHandle_eq_some_iff.mpr ⟨hhandle, fun m hm => ?_⟩
  rw [hnone] at hm
  exact absurd hm nofun

variable (hdistinct : (r.members.map Decl.id).Nodup)
include hdistinct

theorem settledHandle_of_not_fills {m : Decl} (hm : m ∈ r.members)
    (hhandle : r.handle slot = some m.id) (h : m.fills slot = false) :
    settledHandle r.members (r.handle slot) slot = none := by
  refine Option.eq_none_iff_forall_ne_some.mpr fun id hid => ?_
  obtain ⟨hsame, hnone | ⟨m', hm', hhandle', hfills⟩⟩ := dangles_or_designates hid
  · exact hnone m hm (Option.some.inj (hhandle.symm.trans hsame))
  · have hids : m'.id = m.id := Option.some.inj (hhandle'.symm.trans hhandle)
    rw [List.inj_on_of_nodup_map hdistinct hm' hm hids, h] at hfills
    exact absurd hfills Bool.false_ne_true

/-- Where no handle dangles, those that are left are right. -/
theorem isSome_settledHandle_iff (h : ¬ r.Dangles slot) :
    (settledHandle r.members (r.handle slot) slot).isSome = true ↔ r.Designates slot := by
  constructor
  · intro hsome
    obtain ⟨id, hid⟩ := Option.isSome_iff_exists.mp hsome
    obtain ⟨hhandle, hnone | hdesignates⟩ := dangles_or_designates hid
    · exact absurd ⟨id, hhandle, hnone⟩ h
    · exact hdesignates
  · rintro ⟨m, hm, hhandle, hfills⟩
    rw [settledHandle_eq_self hdistinct hm hfills hhandle]
    rfl

/-- **Which records have their handles right** once their members were continued: those without a
dangling handle that designate a vtable just if they designate a field that points to it. -/
theorem layoutClosed_settled_iff {members : List Decl}
    (hcontinues : List.Forall₂ Decl.Continues r.members members) :
    (r.settled members).LayoutClosed ↔
      (∀ slot, ¬ r.Dangles slot) ∧ (r.Designates .vtable ↔ r.Designates .vtableField) := by
  have hpaired (hnone : ∀ slot, ¬ r.Dangles slot) : (r.settled members).isPaired = true ↔
      (r.Designates .vtable ↔ r.Designates .vtableField) := by
    rw [← isSome_settledHandle_iff hdistinct (hnone .vtable),
      ← isSome_settledHandle_iff hdistinct (hnone .vtableField), ← Bool.eq_iff_iff]
    exact beq_iff_eq
  constructor
  · intro hclosed
    have hnone : ∀ slot, ¬ r.Dangles slot := by
      rintro slot ⟨id, hhandle, hnone⟩
      obtain ⟨m', hm', hid, _⟩ := hclosed.names slot id
        ((r.handle_settled members slot).trans (settledHandle_of_dangles hhandle hnone))
      have hids : id ∈ r.members.map Decl.id := by
        rw [← Decl.map_id_of_continues hcontinues]
        exact List.mem_map.mpr ⟨m', hm', hid⟩
      obtain ⟨m, hm, hid⟩ := List.mem_map.mp hids
      exact hnone m hm hid
    exact ⟨hnone, (hpaired hnone).mp hclosed.paired⟩
  · rintro ⟨hnone, hboth⟩
    refine ⟨(hpaired hnone).mpr hboth, fun slot id hhandle => ?_⟩
    rw [handle_settled] at hhandle
    obtain ⟨hold, hmissing | ⟨m, hm, hhandle', hfills⟩⟩ := dangles_or_designates hhandle
    · exact absurd ⟨id, hold, hmissing⟩ (hnone slot)
    · obtain ⟨m', hm', hcont⟩ := Decl.exists_continues_of_mem hcontinues hm
      refine ⟨m', hm', hcont.id.trans (Option.some.inj (hhandle'.symm.trans hold)), ?_⟩
      rw [hcont.fills, hfills]

end Record

/-! ## Errors of records -/

namespace Context

theorem severity_of_mem_accessibilityIssues {ctx : Context} {d : Decl} {issue : Issue}
    (h : issue ∈ ctx.accessibilityIssues d) : issue.severity = .warning := by
  unfold accessibilityIssues at h
  split at h
  · rw [List.mem_singleton.mp h]
    rfl
  · split at h
    · rw [List.mem_singleton.mp h]
      rfl
    · exact absurd h List.not_mem_nil

theorem exists_error_recordIssues_iff {r : Record Decl} :
    (∃ issue ∈ recordIssues r, issue.severity = .error) ↔ ¬ r.LayoutClosed := by
  constructor
  · rintro ⟨issue, hissue, herror⟩ hclosed
    rw [recordIssues_of_layoutClosed hclosed] at hissue
    split at hissue
    · exact absurd hissue List.not_mem_nil
    · rw [List.mem_singleton.mp hissue] at herror
      exact absurd (show Severity.warning = .error from herror) (by decide)
  · intro hopen
    by_contra hnone
    exact hopen (layoutClosed_of_recordIssues fun issue hissue herror =>
      hnone ⟨issue, hissue, herror⟩)

/-- A record has an error after verification if it had one, or if its handles are not right. -/
theorem hasErrors_settle_record (ctx : Context) {d : Decl} {r : Record Decl}
    (hkind : d.kind = .record r) :
    (ctx.settle default N d).hasErrors = true ↔ d.hasErrors = true ∨ ¬ r.LayoutClosed := by
  have hreferences : N.danglingIssues d = [] := by
    rw [Library.danglingIssues, Library.danglingNames, Kind.declRefs, hkind]
    rfl
  have hissues : ctx.kindIssues default d = recordIssues r := by rw [kindIssues, hkind]
  rw [Decl.hasErrors, diagnostics_settle, Diagnostics.hasErrors_attachAll_iff, hreferences,
    List.append_nil, issues, hissues, ← exists_error_recordIssues_iff]
  refine or_congr Iff.rfl ⟨?_, ?_⟩
  · rintro ⟨issue, hissue, herror⟩
    rcases List.mem_append.mp hissue with hlevel | hlayout
    · rw [severity_of_mem_accessibilityIssues hlevel] at herror
      exact absurd herror (by decide)
    · exact ⟨issue, hlayout, herror⟩
  · rintro ⟨issue, hissue, herror⟩
    exact ⟨issue, List.mem_append_right _ hissue, herror⟩

end Context

/-- What a record settles into. -/
theorem Settles.exists_record {above : List Decl} {d d' : Decl}
    (h : Settles default L N above d d') {r : Record Decl} (hkind : d.kind = .record r) :
    ∃ members, List.Forall₂ Decl.Continues r.members members ∧
      d'.kind = .record (r.settled members) ∧
      (d'.hasErrors = true ↔ d.hasErrors = true ∨ ¬ (r.settled members).LayoutClosed) := by
  obtain ⟨parts, hparts, rfl⟩ := h.exists_parts
  have hchildren : d.children = r.members := by rw [Decl.children, hkind]; rfl
  have hsettled : (d.withSettled (parts.map SettledPart.result)).kind
      = .record (r.settled (parts.map SettledPart.result)) := by
    rw [Decl.withSettled, hchildren, hkind]
    rfl
  refine ⟨parts.map SettledPart.result, ?_, ?_, Context.hasErrors_settle_record _ hsettled⟩
  · rw [← hchildren]
    exact SettledPart.forall₂_continues ⟨L, above⟩ hparts.originals hparts.wraps
      (fun p hp => (hparts.settles p hp).continues) (by rw [hkind]; rfl)
  · show (Context.mk L above).repairedKind _ = _
    rw [hsettled]
    rfl

/-- **Which handles are reported.**  A verified record has an error just if it had one before, a
handle names no member, or only one of vtable and vtable pointer field is designated.  A handle that
names a member of the wrong kind is cleared, and by itself it is not reported. -/
theorem verify_reports_handles (default : CallingConvention) {L : Library} (h : L.TreeIdsSound)
    {v : Visit} (hv : v ∈ L.visits) {r : Record Decl} (hkind : v.decl.kind = .record r) :
    ∃ d' r', (verify default L).find? v.decl.id = some d' ∧ d'.kind = .record r' ∧
      (d'.hasErrors = true ↔ v.decl.hasErrors = true ∨ (∃ slot, r.Dangles slot) ∨
        ¬(r.Designates .vtable ↔ r.Designates .vtableField)) ∧
      ∀ slot, ∀ m ∈ r.members, r.handle slot = some m.id → m.fills slot = false →
        r'.handle slot = none := by
  obtain ⟨v', hv', hcounter⟩ := exists_counterpart default L v hv
  obtain ⟨members, hcontinues, hkind', herrors⟩ := hcounter.settles.exists_record hkind
  have hdistinct : (r.members.map Decl.id).Nodup := by
    have := Library.siblingIdsDistinct_of_nodup h.distinct v.decl
      (Library.mem_decls_iff.mpr ⟨v, hv, rfl⟩)
    rwa [Decl.children, hkind] at this
  refine ⟨v'.decl, r.settled members, ?_, hkind', ?_, fun slot m hm hhandle hfills => ?_⟩
  · exact (Library.find?_eq_some_iff (h.verify default).distinct).mpr
      ⟨Library.mem_decls_iff.mpr ⟨v', hv', rfl⟩, hcounter.continues.id⟩
  · rw [herrors, Record.layoutClosed_settled_iff hdistinct hcontinues, not_and_or,
      ← not_exists, not_not]
  · rw [Record.handle_settled]
    exact Record.settledHandle_of_not_fills hdistinct hm hhandle hfills

namespace Sample

/-- A record with another one inside, and the id that it names as that of its base field. -/
def pointing (id : DeclId) : Record Decl :=
  { Record.ofMembers [.ofKind 1 "Inner" 0 (.record (.ofMembers []))] with baseField := some id }

def pointingLibrary (id : DeclId) : Library :=
  .ofRoots ["include/api.h"] [.ofKind 2 "Outer" 0 (.record (pointing id))] 3

theorem mem_visits_pointingLibrary (id : DeclId) :
    ⟨[], .ofKind 2 "Outer" 0 (.record (pointing id))⟩ ∈ (pointingLibrary id).visits :=
  List.mem_flatMap.mpr ⟨_, List.mem_singleton_self _, Decl.mem_visits.mpr (.inl rfl)⟩

end Sample

/-- An id that names nothing is reported. -/
theorem verify_reports_handles_pointing :
    let L := Sample.pointingLibrary 9
    L.TreeIdsSound ∧ ∃ v ∈ L.visits, v.decl.kind = .record (Sample.pointing 9) ∧
      (Sample.pointing 9).Dangles .baseField ∧
      ∃ d', (verify .c L).find? v.decl.id = some d' ∧ d'.hasErrors = true := by
  intro L
  have hL : L.TreeIdsSound := ⟨by decide +kernel, by decide +kernel⟩
  have hv := Sample.mem_visits_pointingLibrary 9
  have hdangles : (Sample.pointing 9).Dangles .baseField := ⟨9, rfl, by decide⟩
  obtain ⟨d', _, hfind, _, herrors, _⟩ := verify_reports_handles .c hL hv rfl
  exact ⟨hL, _, hv, rfl, hdangles, d', hfind, herrors.mpr (.inr (.inl ⟨_, hdangles⟩))⟩

/-- An id that names the inner record is not reported: by the time of the check the handle is
gone. -/
theorem verify_clears_handle :
    let L := Sample.pointingLibrary 1
    L.TreeIdsSound ∧ ∃ v ∈ L.visits, ∃ r, v.decl.kind = .record r ∧
      r.handle .baseField = some 1 ∧ ¬ r.Designates .baseField ∧
      ∃ d', (verify .c L).find? v.decl.id = some d' ∧ d'.hasErrors = false := by
  intro L
  have hL : L.TreeIdsSound := ⟨by decide +kernel, by decide +kernel⟩
  have hclean : ((verify .c L).find? 2).any (fun d => !d.hasErrors) = true := by decide +kernel
  obtain ⟨d', hfind, herrors⟩ := (Option.any_eq_true _ _).mp hclean
  refine ⟨hL, _, Sample.mem_visits_pointingLibrary 1, Sample.pointing 1, rfl, rfl, by decide, d',
    hfind, ?_⟩
  rwa [Bool.not_eq_true'] at herrors

end NativeApi
