import NativeApi.Pass.Script
import NativeApi.Proofs.Library.Lookup
import NativeApi.Proofs.Pass.Run
import NativeApi.Sample

/-!
# Rebuilding

What the engine itself does to a declaration, before the hook is called: the type and the children
are rewritten, and the handles of a record follow the members that they name.

* `Kind.handlesSettled_rebuild`: where members only stay or go, a second rebuilding changes no
  handle.
* `Pass.rebuild`: the declaration that the hook is given, with what took the place of each child.
  `Pass.applyDecl_eq_rebuild`: the engine rebuilds a declaration and then calls the hook.
* `HandleFollows`: how a handle follows the member that it names.
  `Pass.handles_follow_rebuild`: whatever the hooks answer, the handles of a rebuilt record follow.
* `Record.HandlesFit`: no handle names a member of the wrong kind.
  `Pass.run_without_hooks`: where all handles fit, a pass without hooks changes nothing.
-/

namespace NativeApi

/-! ## Handles that follow -/

/-- How a handle follows the members of a record when these give way to others.  A handle that names
no member stays; one that names a member becomes the id of the first declaration in its place that
may fill the slot, if there is one. -/
structure HandleFollows (replacements : List Replacement) (slot : Slot)
    (handle handle' : Option DeclId) : Prop where
  cleared : handle = none → handle' = none
  kept : ∀ id, handle = some id → (∀ r ∈ replacements, r.1.id ≠ id) → handle' = some id
  followed : ∀ r ∈ replacements, handle = some r.1.id →
    handle' = (r.2.find? (·.fills slot)).map Decl.id

section Retarget

variable {replacements : List Replacement} {slot : Slot} {id : DeclId}

theorem retarget_of_not_named (h : ∀ r ∈ replacements, r.1.id ≠ id) :
    retarget replacements (some id) slot = some id := by
  have hnone : replacements.find? (·.1.id = id) = none :=
    List.find?_eq_none.mpr fun r hr => by simpa using h r hr
  rw [retarget_some, hnone]

theorem retarget_of_mem (hdistinct : (replacements.map (·.1.id)).Nodup) {r : Replacement}
    (hr : r ∈ replacements) :
    retarget replacements (some r.1.id) slot = (r.2.find? (·.fills slot)).map Decl.id := by
  obtain ⟨r', hfind⟩ := Option.isSome_iff_exists.mp
    (List.find?_isSome (p := (·.1.id = r.1.id)).mpr ⟨r, hr, by simp⟩)
  have hid : r'.1.id = r.1.id := by simpa using List.find?_some hfind
  -- the members have distinct ids, so the first one with the id is the one named
  obtain rfl : r' = r :=
    List.inj_on_of_nodup_map hdistinct (List.mem_of_find?_eq_some hfind) hr hid
  rw [retarget_some, hfind]

theorem handleFollows_retarget (hdistinct : (replacements.map (·.1.id)).Nodup)
    (handle : Option DeclId) (slot : Slot) :
    HandleFollows replacements slot handle (retarget replacements handle slot) where
  cleared h := by rw [h, retarget_none]
  kept id h hnot := by rw [h, retarget_of_not_named hnot]
  followed r hr h := by rw [h, retarget_of_mem hdistinct hr]

/-- A handle that named a member is cleared or names one of the new members, one that may fill the
slot. -/
theorem HandleFollows.names {handle handle' : Option DeclId}
    (h : HandleFollows replacements slot handle handle') {r : Replacement} (hr : r ∈ replacements)
    (hnamed : handle = some r.1.id) :
    handle' = none ∨ ∃ m ∈ replacements.flatMap Prod.snd, handle' = some m.id ∧ m.fills slot := by
  rw [h.followed r hr hnamed]
  cases hfind : r.2.find? (·.fills slot) with
  | none => exact .inl rfl
  | some m =>
    right
    have hmem : m ∈ r.2 := List.mem_of_find?_eq_some hfind
    have hfills : m.fills slot = true := by simpa using List.find?_some hfind
    exact ⟨m, List.mem_flatMap.mpr ⟨r, hr, hmem⟩, rfl, hfills⟩

end Retarget

namespace Record

def rebuild (r : Record Decl) (replacements : List Replacement) : Record Decl :=
  { r.mapHandles (retarget replacements) with members := replacements.flatMap Prod.snd }

theorem handle_rebuild (r : Record Decl) (replacements : List Replacement) (slot : Slot) :
    (r.rebuild replacements).handle slot = retarget replacements (r.handle slot) slot := by
  cases slot <;> rfl

theorem handleFollows_rebuild (r : Record Decl) {replacements : List Replacement}
    (hdistinct : (replacements.map (·.1.id)).Nodup) (slot : Slot) :
    HandleFollows replacements slot (r.handle slot) ((r.rebuild replacements).handle slot) := by
  rw [handle_rebuild]
  exact handleFollows_retarget hdistinct (r.handle slot) slot

end Record

/-! ## Members that stay or go -/

section StaysOrGoes

variable {r : Replacement} {rest replacements : List Replacement} {slot : Slot} {id id' : DeclId}

theorem retarget_eq_some (h : ∀ r ∈ replacements, r.StaysOrGoes)
    (hhandle : retarget replacements (some id) slot = some id') : id' = id ∧
      ∀ m, (replacements.flatMap Prod.snd).find? (·.id = id) = some m → m.fills slot = true := by
  induction replacements with
  | nil => exact ⟨(Option.some.inj hhandle).symm, nofun⟩
  | cons r rest ih =>
    obtain ⟨hr, hrest⟩ := List.forall_mem_cons.mp h
    rw [List.flatMap_cons]
    by_cases hid : r.1.id = id
    · -- the first member with the id decides
      rw [retarget_cons_of_eq hid] at hhandle
      obtain ⟨m', hm', hid'⟩ := Option.map_eq_some_iff.mp hhandle
      rcases hr with hnil | ⟨d', hd', hcontinues⟩
      · rw [hnil] at hm'
        exact absurd hm' nofun
      · have hfills : m'.fills slot = true := by simpa using List.find?_some hm'
        obtain rfl : m' = d' := List.mem_singleton.mp (hd' ▸ List.mem_of_find?_eq_some hm')
        have hsame : m'.id = id := hcontinues.id.trans hid
        refine ⟨hid'.symm.trans hsame, fun m hm => ?_⟩
        rw [hd', List.singleton_append, List.find?_cons_of_pos (by simpa using hsame)] at hm
        rwa [← Option.some.inj hm]
    · rw [retarget_cons_of_ne hid] at hhandle
      obtain ⟨hsame, hfirst⟩ := ih hrest hhandle
      refine ⟨hsame, fun m hm => hfirst m ?_⟩
      have hnone : r.2.find? (·.id = id) = none := by
        refine List.find?_eq_none.mpr fun d hd => ?_
        rcases hr with hnil | ⟨d', hd', hcontinues⟩
        · rw [hnil] at hd
          exact absurd hd List.not_mem_nil
        · rw [hd', List.mem_singleton] at hd
          rw [hd, hcontinues.id]
          simpa using hid
      rwa [List.find?_append, hnone, Option.none_or] at hm

/-- **Handles are settled after members went**: a second rebuilding finds them where they are. -/
theorem Kind.handlesSettled_rebuild {k : Kind Decl} (h : ∀ r ∈ replacements, r.StaysOrGoes) :
    (k.rebuild replacements).HandlesSettled := by
  by_cases hform : k.form = .record
  · obtain ⟨r, rfl⟩ := Kind.form_eq_record_iff.mp hform
    show (Kind.record (r.rebuild replacements)).HandlesSettled
    refine Kind.handlesSettled_record_iff.mpr fun slot => ?_
    rw [Record.handle_rebuild]
    cases hhandle : retarget replacements (r.handle slot) slot with
    | none => rfl
    | some id =>
      cases hold : r.handle slot with
      | none =>
        rw [hold, retarget_none] at hhandle
        exact absurd hhandle nofun
      | some old =>
        rw [hold] at hhandle
        obtain ⟨rfl, hfirst⟩ := retarget_eq_some h hhandle
        exact settledHandle_eq_some_iff.mpr ⟨rfl, hfirst⟩
  · exact Kind.handlesSettled_of_ne_record (by rwa [Kind.form_rebuild])

end StaysOrGoes

/-! ## Rebuilt declarations -/

namespace Pass

variable {σ : Type}

/-- The declaration that the hook for declarations is given, with what took the place of each
child. -/
def rebuild (p : Pass σ) (ctx : Context) (d : Decl) : PassM σ (Decl × List Replacement) := do
  let kind ← p.applyOwnType ctx d.kind
  let replacements ← p.applyAll (ctx.enter d) d.children
  return ({ d with kind := kind.rebuild replacements }, replacements)

theorem applyDecl_eq_rebuild (p : Pass σ) (ctx : Context) (d : Decl) (s : Progress σ) :
    p.applyDecl ctx d s =
      let rebuilt := (p.rebuild ctx d s).1.1
      let answered := p.decl ctx rebuilt (p.rebuild ctx d s).2
      (answered.1.decls rebuilt, answered.2) := by
  rw [applyDecl_eq]
  rfl

theorem exists_applyDecl_of_mem (p : Pass σ) {ctx : Context} {ds : List Decl} {s : Progress σ}
    {r : Replacement} (hr : r ∈ (p.applyAll ctx ds s).1) :
    ∃ s', r.2 = (p.applyDecl ctx r.1 s').1 := by
  induction ds generalizing s with
  | nil =>
    rw [applyAll_nil] at hr
    exact absurd hr List.not_mem_nil
  | cons d rest ih =>
    rw [applyAll_cons] at hr
    rcases List.mem_cons.mp hr with rfl | hr
    · exact ⟨s, rfl⟩
    · exact ih hr

/-- A record mentions no type itself, so only its members are rewritten. -/
theorem rebuild_record (p : Pass σ) (ctx : Context) {d : Decl} {r : Record Decl}
    (h : d.kind = .record r) (s : Progress σ) :
    p.rebuild ctx d s =
      let inner := p.applyAll (ctx.enter d) r.members s
      (({ d with kind := .record (r.rebuild inner.1) }, inner.1), inner.2) := by
  have hchildren : d.children = r.members := by rw [Decl.children, h]; rfl
  rw [rebuild, bind_apply, applyOwnType_eq, h, hchildren]
  rfl

/-- **Handles follow their members under any rewriting.**  The hook is given the record that was
there with other members, those that took the place of the old ones, and each handle has followed
its member.  So a handle that named a member is cleared or names one of the new members, one of the
right kind. -/
theorem handles_follow_rebuild (p : Pass σ) (ctx : Context) {d : Decl} {r : Record Decl}
    (hrecord : d.kind = .record r) (hdistinct : (r.members.map Decl.id).Nodup) (s : Progress σ) :
    let rebuilt := (p.rebuild ctx d s).1.1
    let replacements := (p.rebuild ctx d s).1.2
    let answered := p.decl ctx rebuilt (p.rebuild ctx d s).2
    let r' := r.rebuild replacements
    p.applyDecl ctx d s = (answered.1.decls rebuilt, answered.2) ∧
    rebuilt = { d with kind := .record r' } ∧
    replacements.map Prod.fst = r.members ∧
    (∀ t ∈ replacements, ∃ s', t.2 = (p.applyDecl (ctx.enter d) t.1 s').1) ∧
    ∀ slot, HandleFollows replacements slot (r.handle slot) (r'.handle slot) ∧
      ∀ m ∈ r.members, r.handle slot = some m.id → r'.handle slot = none ∨
        ∃ m' ∈ r'.members, r'.handle slot = some m'.id ∧ m'.fills slot := by
  intro rebuilt replacements answered r'
  have hrebuild := p.rebuild_record ctx hrecord s
  have hreplacements : replacements = (p.applyAll (ctx.enter d) r.members s).1 :=
    congrArg (·.1.2) hrebuild
  have hrebuilt : rebuilt = { d with kind := .record (r.rebuild replacements) } :=
    hreplacements ▸ congrArg (·.1.1) hrebuild
  have hfst : replacements.map Prod.fst = r.members := by rw [hreplacements, map_fst_applyAll]
  have hids : (replacements.map (·.1.id)).Nodup := by
    rw [← hfst, List.map_map] at hdistinct
    exact hdistinct
  refine ⟨p.applyDecl_eq_rebuild ctx d s, hrebuilt, hfst, ?_, fun slot => ?_⟩
  · intro t ht
    exact p.exists_applyDecl_of_mem (hreplacements ▸ ht)
  · have hfollows := r.handleFollows_rebuild hids slot
    refine ⟨hfollows, fun m hm hnamed => ?_⟩
    obtain ⟨t, ht, rfl⟩ := List.mem_map.mp (hfst ▸ hm)
    exact hfollows.names ht hnamed

end Pass

namespace Sample

/-- Puts a forward declaration before each vtable, which gets another id. -/
def splitVTables : Script where
  rules := [⟨.vtable, none, none, none, none,
    .many [[.edit (.kind .undefinedRecord)], [.freshId]]⟩]
  types := []

/-- A record with a vtable, the field that points to it, and a handle that names no member. -/
def shape : Record Decl :=
  { Record.ofMembers [.ofKind 2 "" 0 (.vtable []), .ofKind 3 "" 0 (.field 0 .vtablePointer)] with
    vtable := some 2
    vtableField := some 3
    baseField := some 9 }

end Sample

/-- The handle of the vtable passes over what was put before the vtable. -/
theorem Pass.handles_follow_rebuild_splitVTables :
    let d := Decl.ofKind 1 "Shape" 0 (.record Sample.shape)
    let done := Sample.splitVTables.pass.rebuild (.root Sample.library) d ⟨⟨10⟩, []⟩
    let r' := Sample.shape.rebuild done.1.2
    (Sample.shape.members.map Decl.id).Nodup ∧ done.1.1 = { d with kind := .record r' } ∧
    r'.members.map Decl.id = [2, 10, 3] ∧
    r'.vtable = some 10 ∧ r'.vtableField = some 3 ∧ r'.baseField = some 9 := by
  intro d done r'
  have hdistinct : (Sample.shape.members.map Decl.id).Nodup := by decide
  obtain ⟨_, hrebuilt, _⟩ := Sample.splitVTables.pass.handles_follow_rebuild (.root Sample.library)
    (d := d) rfl hdistinct ⟨⟨10⟩, []⟩
  exact ⟨hdistinct, hrebuilt, by decide +kernel⟩

/-! ## Passes without hooks -/

/-- No handle names a member that may not fill the slot, where of several members with one id the
first is named. -/
def Record.HandlesFit (r : Record Decl) : Prop :=
  ∀ slot, ∀ id ∈ r.handle slot, ∀ m ∈ r.members.find? (·.id = id), m.fills slot = true

instance (r : Record Decl) : Decidable r.HandlesFit :=
  decidable_of_iff (∀ slot ∈ Slot.all, ∀ id ∈ r.handle slot,
    ∀ m ∈ r.members.find? fun m : Decl => m.id = id, m.fills slot = true)
    ⟨fun h slot => h slot (by cases slot <;> decide), fun h slot _ => h slot⟩

theorem Kind.handlesSettled_of_handlesFit {r : Record Decl} (h : r.HandlesFit) :
    (Kind.record r).HandlesSettled := by
  refine Kind.handlesSettled_record_iff.mpr fun slot => ?_
  cases hhandle : r.handle slot with
  | none => rfl
  | some id => exact settledHandle_eq_some_iff.mpr ⟨rfl, h slot id hhandle⟩

namespace Pass

variable {σ : Type}

theorem decl_of_no_hooks (name : String) (ctx : Context) (d : Decl) :
    ({ name } : Pass σ).decl ctx d = pure .unchanged :=
  dispatch_keep ctx d

theorem keeps_of_no_hooks (name : String) {ctx : Context} {d : Decl}
    (h : d.kind.HandlesSettled) : ({ name } : Pass σ).Keeps ctx d where
  handles := h
  ownType s := by rw [applyOwnType_of_silent fun _ _ _ => rfl]
  ownType_ids s := by rw [applyOwnType_of_silent fun _ _ _ => rfl]
  answer s := by rw [decl_of_no_hooks]; rfl
  answer_ids s := by rw [decl_of_no_hooks]; rfl

/-- **A pass without hooks changes nothing.**  Whatever the ids, the library is the same afterwards,
and so are the answers to lookups. -/
theorem run_without_hooks (name : String) (L : Library) (state : σ) (hnext : 1 ≤ L.nextId)
    (hfit : ∀ d ∈ L.decls, ∀ r ∈ d.record?, r.HandlesFit) :
    let M := (Pass.run { name } L state).1
    M = L ∧ ∀ id, M.find? id = L.find? id ∧ M.contains id = L.contains id ∧
      M.parentOf? id = L.parentOf? id := by
  have hsettled : ∀ d ∈ L.decls, d.kind.HandlesSettled := by
    intro d hd
    by_cases hform : d.kind.form = .record
    · obtain ⟨r, hr⟩ := Kind.form_eq_record_iff.mp hform
      rw [hr]
      exact Kind.handlesSettled_of_handlesFit (hfit d hd r (by rw [Decl.record?, hr]; rfl))
    · exact Kind.handlesSettled_of_ne_record hform
  have hkeeps : ∀ v ∈ L.visits, ({ name } : Pass σ).Keeps ⟨L, v.above⟩ v.decl := by
    intro v hv
    exact keeps_of_no_hooks name (hsettled v.decl (Library.mem_decls_iff.mpr ⟨v, hv, rfl⟩))
  obtain ⟨state', hrun⟩ := Pass.run_of_keeps { name } hnext hkeeps state
  have hsame : (Pass.run { name } L state).1 = L := congrArg Prod.fst hrun
  intro M
  rw [show M = L from hsame]
  exact ⟨rfl, fun _ => ⟨rfl, rfl, rfl⟩⟩

end Pass

/-- The handles of the sample fit, so a pass without hooks leaves it as it is. -/
theorem Pass.run_without_hooks_sample : 1 ≤ Sample.library.nextId ∧
    (∀ d ∈ Sample.library.decls, ∀ r ∈ d.record?, r.HandlesFit) ∧
    (identity.run Sample.library ()).1 = Sample.library :=
  have hnext : 1 ≤ Sample.library.nextId := by decide +kernel
  have hfit : ∀ d ∈ Sample.library.decls, ∀ r ∈ d.record?, r.HandlesFit := by decide +kernel
  ⟨hnext, hfit, (run_without_hooks "identity" Sample.library () hnext hfit).1⟩

end NativeApi
