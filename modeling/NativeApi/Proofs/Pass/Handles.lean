import Mathlib.Data.List.Forall2
import Mathlib.Data.List.Nodup
import NativeApi.Proofs.Decl.Form

/-!
# Handles of rebuilt records

`Kind.rebuild` puts new children in the place of the old ones and lets the handles follow.  Where
every child gives way to one that continues it, or goes without having been of use to a handle,
nothing is left to follow: a handle stays, unless the first member with its id is of the wrong form
(`retarget_eq_settledHandle`).  Settling the handles a second time changes nothing
(`settledHandle_settledHandle`), so a second pass of this sort finds every handle where it was
(`Kind.rebuild_self`).

* `settledHandle`: a handle after every member was continued.
* `Decl.withSettled`: a declaration with other children, its handles settled.
-/

namespace NativeApi

/-! ## Children of rebuilt kinds -/

theorem Kind.children_rebuild {k : Kind Decl} {replacements : List Replacement}
    (h : replacements.map Prod.fst = k.children) :
    (k.rebuild replacements).children = replacements.flatMap Prod.snd := by
  cases k with
  | record r => rfl
  | enumeration e => rfl
  | function f => rfl
  | container role members => rfl
  | _ =>
    -- a kind that contains nothing has no replacements either
    rw [List.map_eq_nil_iff.mp h]
    rfl

/-! ## Settled handles -/

/-- The handle of a slot after every member was continued: it is cleared if the first member with
its id may not fill the slot. -/
def settledHandle (members : List Decl) (handle : Option DeclId) (slot : Slot) :
    Option DeclId :=
  handle.filter fun id => (members.find? (·.id = id)).all (·.fills slot)

theorem settledHandle_eq_some_iff {members : List Decl} {handle : Option DeclId} {slot : Slot}
    {id : DeclId} : settledHandle members handle slot = some id ↔
      handle = some id ∧ ∀ m, members.find? (·.id = id) = some m → m.fills slot = true := by
  rw [settledHandle, Option.filter_eq_some_iff, Option.all_eq_true]

theorem settledHandle_eq_self {members : List Decl} (hdistinct : (members.map Decl.id).Nodup)
    {m : Decl} (hm : m ∈ members) {slot : Slot} (hfills : m.fills slot = true)
    {handle : Option DeclId} (h : handle = some m.id) :
    settledHandle members handle slot = some m.id := by
  refine settledHandle_eq_some_iff.mpr ⟨h, fun m' hm' => ?_⟩
  have hid : m'.id = m.id := by simpa using List.find?_some hm'
  rwa [List.inj_on_of_nodup_map hdistinct (List.mem_of_find?_eq_some hm') hm hid]

theorem settledHandle_settledHandle (members : List Decl) (handle : Option DeclId)
    (slot : Slot) : settledHandle members (settledHandle members handle slot) slot
      = settledHandle members handle slot := by
  rw [settledHandle, settledHandle, Option.filter_filter]
  simp

theorem Decl.map_id_of_continues {ds ds' : List Decl} (h : List.Forall₂ Decl.Continues ds ds') :
    ds'.map Decl.id = ds.map Decl.id := by
  induction h with
  | nil => rfl
  | cons hd _ ih => rw [List.map_cons, List.map_cons, hd.id, ih]

theorem Decl.exists_continues_of_mem {ds ds' : List Decl} (h : List.Forall₂ Continues ds ds')
    {d : Decl} (hd : d ∈ ds) : ∃ d' ∈ ds', d.Continues d' := by
  induction h with
  | nil => exact absurd hd List.not_mem_nil
  | @cons first first' rest rest' hfirst _ ih =>
    rcases List.mem_cons.mp hd with rfl | hd
    · exact ⟨first', List.mem_cons_self .., hfirst⟩
    · obtain ⟨d', hd', hcontinues⟩ := ih hd
      exact ⟨d', List.mem_cons_of_mem first' hd', hcontinues⟩

theorem settledHandle_congr {members members' : List Decl}
    (h : List.Forall₂ Decl.Continues members members') (handle : Option DeclId) (slot : Slot) :
    settledHandle members' handle slot = settledHandle members handle slot := by
  cases handle with
  | none => rfl
  | some id =>
    have hfind : (members'.find? (·.id = id)).all (·.fills slot)
        = (members.find? (·.id = id)).all (·.fills slot) := by
      induction h with
      | nil => rfl
      | @cons m m' ms ms' hm _ ih =>
        rw [List.find?_cons, List.find?_cons, hm.id]
        by_cases hid : m.id = id
        · simp [hid, hm.fills]
        · simpa [hid] using ih
    rw [settledHandle, settledHandle, Option.filter_some, Option.filter_some, hfind]

/-! ### Members that stay or go -/

/-- What took the place of a declaration is nothing, or one declaration that continues it. -/
def Replacement.StaysOrGoes (r : Replacement) : Prop :=
  r.2 = [] ∨ ∃ d', r.2 = [d'] ∧ r.1.Continues d'

/-- **Handles settle.**  Where every member is continued by what takes its place, or goes and could
fill no slot, a handle follows its member to the same id, and all that can happen is that it is
cleared. -/
theorem retarget_eq_settledHandle {replacements : List Replacement}
    (h : ∀ r ∈ replacements, r.StaysOrGoes)
    (hgoes : ∀ r ∈ replacements, r.2 = [] → ∀ slot, r.1.fills slot = false)
    (handle : Option DeclId) (slot : Slot) :
    retarget replacements handle slot
      = settledHandle (replacements.map Prod.fst) handle slot := by
  cases handle with
  | none => rw [retarget_none, settledHandle, Option.filter_none]
  | some id =>
    have hmap : (replacements.map Prod.fst).find? (·.id = id)
        = (replacements.find? (·.1.id = id)).map Prod.fst := List.find?_map ..
    rw [retarget_some, settledHandle, Option.filter_some, hmap]
    cases hfind : replacements.find? (·.1.id = id) with
    | none => rfl
    | some r =>
      have hr := List.mem_of_find?_eq_some hfind
      have hid : r.1.id = id := by simpa using List.find?_some hfind
      rcases h r hr with hnil | ⟨m', hm', hcontinues⟩
      · simp [hnil, hgoes r hr hnil slot]
      · by_cases hfills : r.1.fills slot = true
        · simpa [hm', hfills, hcontinues.fills slot, hcontinues.id] using hid
        · simp [hm', hfills, hcontinues.fills slot]

/-! ## Rebuilding -/

/-- A kind whose children are continued keeps everything but what its settled handles lose. -/
theorem Kind.rebuild_eq_of_continues {k : Kind Decl} {replacements : List Replacement}
    (hfst : replacements.map Prod.fst = k.children)
    (h : ∀ r ∈ replacements, ∃ m', r.2 = [m'] ∧ (k.form = .record → r.1.Continues m')) :
    k.rebuild replacements
      = (k.mapHandles (settledHandle k.children)).withChildren (replacements.flatMap Prod.snd) := by
  cases k with
  | record r =>
    have hall : ∀ r ∈ replacements, ∃ m', r.2 = [m'] ∧ r.1.Continues m' := fun r hr => by
      obtain ⟨m', hm', hcont⟩ := h r hr
      exact ⟨m', hm', hcont rfl⟩
    have hhandles : retarget replacements = settledHandle (record r).children := by
      funext handle slot
      rw [retarget_eq_settledHandle (fun r hr => .inr (hall r hr)) ?_, hfst]
      intro r hr hnil
      obtain ⟨m', hm', _⟩ := hall r hr
      exact absurd (hm'.symm.trans hnil) (List.cons_ne_nil _ _)
    rw [rebuild, hhandles]
  | _ => rfl

theorem Kind.rebuild_map {k : Kind Decl} {g : Decl → Decl}
    (h : k.form = .record → ∀ c ∈ k.children, c.Continues (g c)) :
    k.rebuild (k.children.map fun c => (c, [g c]))
      = (k.mapHandles (settledHandle k.children)).withChildren (k.children.map g) := by
  have hfst : (k.children.map fun c => (c, [g c])).map Prod.fst = k.children := by
    rw [List.map_map]
    exact List.map_id _
  rw [rebuild_eq_of_continues hfst, List.flatMap_map, List.map_eq_flatMap]
  intro r hr
  obtain ⟨c, hc, rfl⟩ := List.mem_map.mp hr
  exact ⟨g c, rfl, fun hrecord => h hrecord c hc⟩

/-- The handles of a kind are where a rebuilding would leave them. -/
def Kind.HandlesSettled (k : Kind Decl) : Prop :=
  k.mapHandles (settledHandle k.children) = k

theorem Kind.handlesSettled_of_ne_record {k : Kind Decl} (h : k.form ≠ .record) :
    k.HandlesSettled := by
  cases k <;> first | rfl | exact absurd rfl h

theorem Kind.handlesSettled_record_iff {r : Record Decl} :
    (Kind.record r).HandlesSettled ↔
      ∀ slot, settledHandle r.members (r.handle slot) slot = r.handle slot := by
  obtain ⟨size, alignment, members, vtable, vtableField, baseField, unsupported⟩ := r
  simp only [Kind.HandlesSettled, Kind.mapHandles, Kind.children, Record.mapHandles, Record.handle,
    Kind.record.injEq, Record.mk.injEq, true_and, and_true]
  constructor
  · rintro ⟨h1, h2, h3⟩ slot
    cases slot <;> assumption
  · intro h
    exact ⟨h .vtable, h .vtableField, h .baseField⟩

/-- Rebuilding a kind from its own children changes nothing if its handles are settled. -/
theorem Kind.rebuild_self {k : Kind Decl} (h : k.HandlesSettled) :
    k.rebuild (k.children.map fun c => (c, [c])) = k := by
  have hrebuild : k.rebuild (k.children.map fun c => (c, [id c])) = _ :=
    rebuild_map fun _ c _ => .refl c
  rwa [h, List.map_id, withChildren_children] at hrebuild

/-! ## Settled declarations -/

/-- A declaration with other children, its handles settled on the children it had. -/
def Decl.withSettled (d : Decl) (children : List Decl) : Decl :=
  { d with kind := (d.kind.mapHandles (settledHandle d.children)).withChildren children }

theorem Decl.children_withSettled {d : Decl} {children : List Decl}
    (h : d.children = [] → children = []) : (d.withSettled children).children = children := by
  rw [Decl.children, withSettled]
  refine Kind.children_withChildren ?_
  rw [Kind.children_mapHandles]
  exact h

theorem Decl.continues_withSettled (d : Decl) (children : List Decl) :
    d.Continues (d.withSettled children) :=
  .of_kind (by rw [Kind.form_withChildren, Kind.form_mapHandles])

/-- Children that continue the old ones leave the handles where they settled. -/
theorem Decl.handlesSettled_withSettled {d : Decl} {children : List Decl}
    (h : d.kind.form = .record → List.Forall₂ Decl.Continues d.children children) :
    (d.withSettled children).kind.HandlesSettled := by
  by_cases hform : d.kind.form = .record
  · obtain ⟨r, hr⟩ := Kind.form_eq_record_iff.mp hform
    have hall := h hform
    have hkind : (d.withSettled children).kind
        = .record { r.mapHandles (settledHandle d.children) with members := children } := by
      rw [withSettled, hr]
      rfl
    rw [hkind, Kind.handlesSettled_record_iff]
    intro slot
    have hhandle : ({ r.mapHandles (settledHandle d.children) with members := children }
        : Record Decl).handle slot = settledHandle d.children (r.handle slot) slot := by
      cases slot <;> rfl
    rw [hhandle, settledHandle_congr hall, settledHandle_settledHandle]
  · exact Kind.handlesSettled_of_ne_record (by
      rw [(d.continues_withSettled children).form]
      exact hform)

end NativeApi
