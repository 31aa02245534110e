import NativeApi.Pass.Script
import NativeApi.Proofs.Library.Lookup
import NativeApi.Proofs.Pass.Ledger
import NativeApi.Proofs.Pass.Traversal
import NativeApi.Sample

/-!
# The supply of ids

All hooks of a run take ids from one supply.  A pass that uses the supply in no other way, and that
puts into the tree only ids that it was given or has just taken, cannot make two ids collide,
whatever it deletes, splits, wraps or moves.

* `PassM.taken`: the ids that some steps take.  `PassM.DrawsIds`: steps that do nothing else with
  the supply.
* `HookCall.IsDisciplined`: every id of an answer is used once, and comes from the declaration that
  the hook was given or was taken during the call.
* `Pass.noting`: the pass that does the same and notes what each call was given, answered and took.
* `Pass.ids_stay_unique`: if the calls of a run are disciplined, the ids that they took are new and
  distinct, and so are the ids of the tree that comes out.
-/

namespace NativeApi

theorem IdSource.takeMany_append {s t u : IdSource} {m n : Nat} {ids ids' : List DeclId}
    (h : s.takeMany m = (ids, t)) (h' : t.takeMany n = (ids', u)) :
    s.takeMany (m + n) = (ids ++ ids', u) := by
  rw [takeMany_eq, Prod.mk.injEq] at h h'
  obtain ⟨rfl, rfl⟩ := h
  obtain ⟨rfl, rfl⟩ := h'
  rw [takeMany_eq, List.range'_append_1, Nat.add_assoc]

/-! ## Ids taken by steps -/

namespace PassM

variable {σ α β : Type}

/-- The ids that some steps take from the supply. -/
def taken (x : PassM σ α) (s : Progress σ) : List DeclId :=
  (s.ids.takeMany ((x s).2.ids.next - s.ids.next)).1

/-- Steps that do nothing with the supply of ids but take ids from it. -/
def DrawsIds (x : PassM σ α) : Prop := ∀ s, ∃ n, (x s).2.ids = (s.ids.takeMany n).2

/-- What was taken and what is left make up the supply. -/
theorem DrawsIds.takeMany {x : PassM σ α} (h : x.DrawsIds) (s : Progress σ) :
    ∃ n, s.ids.takeMany n = (x.taken s, (x s).2.ids) := by
  obtain ⟨n, hn⟩ := h s
  refine ⟨n, ?_⟩
  rw [taken, hn, IdSource.takeMany_eq, IdSource.takeMany_eq, Nat.add_sub_cancel_left]

theorem drawsIds_of_ids_eq {x : PassM σ α} (h : ∀ s, (x s).2.ids = s.ids) : x.DrawsIds :=
  fun s => ⟨0, h s⟩

theorem drawsIds_pure (a : α) : (pure a : PassM σ α).DrawsIds := drawsIds_of_ids_eq fun _ => rfl

theorem drawsIds_update (f : σ → σ) : (update f).DrawsIds := drawsIds_of_ids_eq fun _ => rfl

theorem drawsIds_freshId : (freshId : PassM σ DeclId).DrawsIds := fun _ => ⟨1, rfl⟩

theorem DrawsIds.bind {x : PassM σ α} {f : α → PassM σ β} (hx : x.DrawsIds)
    (hf : ∀ a, (f a).DrawsIds) : (x >>= f).DrawsIds := fun s => by
  obtain ⟨m, hm⟩ := hx.takeMany s
  obtain ⟨n, hn⟩ := (hf (x s).1).takeMany (x s).2
  exact ⟨m + n, (congrArg Prod.snd (IdSource.takeMany_append hm hn)).symm⟩

end PassM

/-! ## Disciplined calls -/

/-- A call of a hook, with the ids that it took from the supply. -/
inductive HookCall where
  | type (taken : List DeclId)
  /-- A declaration that the hook was given, and what was put in its place. -/
  | decl (given : Decl) (results : List Decl) (taken : List DeclId)

namespace HookCall

def taken : HookCall → List DeclId
  | type taken => taken
  | decl _ _ taken => taken

/-- Whether every id of what was put in the place of a declaration is used once, and is an id of
that declaration and what is inside it or was taken by the call. -/
def IsDisciplined : HookCall → Prop
  | type _ => True
  | decl given results taken =>
    let ids := (results.flatMap Decl.subtree).map Decl.id
    ids.Nodup ∧ ∀ id ∈ ids, id ∈ given.subtree.map Decl.id ∨ id ∈ taken

instance (call : HookCall) : Decidable call.IsDisciplined :=
  match call with
  | type _ => inferInstanceAs (Decidable True)
  | decl _ _ _ => inferInstanceAs (Decidable (_ ∧ _))

end HookCall

/-- The same steps, after which a call is noted. -/
def PassM.noting {σ α : Type} (x : PassM σ α) (note : α → List DeclId → HookCall) :
    PassM (σ × List HookCall) α := do
  let start ← get
  let a ← x.alongside
  update fun s => (s.1, s.2 ++ [note a (x.taken ⟨start.ids, start.state.1⟩)])
  return a

namespace Pass

variable {σ : Type}

/-- The pass that does what another one does and notes the calls of its hooks.  It has no last
step. -/
def noting (p : Pass σ) : Pass (σ × List HookCall) where
  name := p.name
  before L s := (p.before L s.1, [])
  type? ctx type := (p.type? ctx type).noting fun _ taken => .type taken
  decl ctx d := (p.decl ctx d).noting fun answer taken => .decl d (answer.decls d) taken

theorem alike_noting {α : Type} (x : PassM σ α) (note : α → List DeclId → HookCall) :
    PassM.Alike SameButNotes (x.noting note) x := fun s t h => alike_alongside x s t h

/-- A run without the calls noted is the run of the pass. -/
theorem run_noting (p : Pass σ) (L : Library) (state : σ) (calls : List HookCall) :
    let done := p.noting.run L (state, calls)
    p.run L state = p.after done.1 done.2.1 := by
  obtain ⟨hresult, hids, hstate⟩ := (alike_applyAll (p := p.noting) (q := p)
    (fun _ _ => alike_noting _ _) (fun _ _ => alike_noting _ _)).2 (.root L) L.roots
    ⟨.startingAt L.nextId, p.before L state, []⟩ ⟨.startingAt L.nextId, p.before L state⟩ ⟨rfl, rfl⟩
  rw [run_eq, run_eq]
  dsimp only
  rw [← hresult, ← hids, ← hstate]
  rfl

/-! ## Accounts -/

/-- The calls that were noted between two points of a run, and that took what the supply gave. -/
structure Accounts (calls : List HookCall) (s s' : Progress (σ × List HookCall)) : Prop where
  noted : s'.state.2 = s.state.2 ++ calls
  supply : ∃ n, s.ids.takeMany n = (calls.flatMap HookCall.taken, s'.ids)

namespace Accounts

variable {s s' s'' : Progress (σ × List HookCall)} {calls calls' : List HookCall}

theorem refl (s : Progress (σ × List HookCall)) : Accounts [] s s :=
  ⟨(List.append_nil _).symm, 0, rfl⟩

theorem trans (h : Accounts calls s s') (h' : Accounts calls' s' s'') :
    Accounts (calls ++ calls') s s'' := by
  obtain ⟨m, hm⟩ := h.supply
  obtain ⟨n, hn⟩ := h'.supply
  refine ⟨?_, m + n, ?_⟩
  · rw [h'.noted, h.noted, List.append_assoc]
  · rw [List.flatMap_append]
    exact IdSource.takeMany_append hm hn

theorem of_noting {α : Type} {x : PassM σ α} (hx : x.DrawsIds)
    (note : α → List DeclId → HookCall) (hnote : ∀ a ids, (note a ids).taken = ids)
    (s : Progress (σ × List HookCall)) :
    Accounts [note (x.noting note s).1 (x.taken ⟨s.ids, s.state.1⟩)] s (x.noting note s).2 := by
  obtain ⟨n, hn⟩ := hx.takeMany ⟨s.ids, s.state.1⟩
  refine ⟨rfl, n, ?_⟩
  rw [List.flatMap_singleton, hnote]
  exact hn

end Accounts

/-- The ids that some calls took, counted with multiplicity. -/
def takenCensus (calls : List HookCall) : Multiset DeclId := ↑(calls.flatMap HookCall.taken)

theorem takenCensus_append (calls calls' : List HookCall) :
    takenCensus (calls ++ calls') = takenCensus calls + takenCensus calls' := by
  rw [takenCensus, List.flatMap_append, ← Multiset.coe_add]
  rfl

/-- If some calls are disciplined, then no id is in the second trees more often than it was in the
first ones and the calls took it. -/
def Covers (calls : List HookCall) (before after : List Decl) : Prop :=
  (∀ call ∈ calls, call.IsDisciplined) →
    Decl.idCensus after ≤ Decl.idCensus before + takenCensus calls

namespace Covers

variable {calls calls' : List HookCall} {as bs cs ds : List Decl}

theorem refl (ds : List Decl) : Covers [] ds ds := fun _ => Multiset.le_add_right _ _

theorem trans (h : Covers calls as bs) (h' : Covers calls' bs cs) :
    Covers (calls ++ calls') as cs := fun hdisciplined => by
  have hle := h fun call hcall => hdisciplined call (List.mem_append_left _ hcall)
  have hle' := h' fun call hcall => hdisciplined call (List.mem_append_right _ hcall)
  rw [takenCensus_append, ← add_assoc]
  exact hle'.trans (add_le_add_left hle _)

theorem append (h : Covers calls as bs) (h' : Covers calls' cs ds) :
    Covers (calls ++ calls') (as ++ cs) (bs ++ ds) := fun hdisciplined => by
  have hle := h fun call hcall => hdisciplined call (List.mem_append_left _ hcall)
  have hle' := h' fun call hcall => hdisciplined call (List.mem_append_right _ hcall)
  rw [takenCensus_append, Decl.idCensus_append, Decl.idCensus_append, add_add_add_comm]
  exact add_le_add hle hle'

theorem of_append (calls : List HookCall) (h : Covers calls' as bs) :
    Covers (calls ++ calls') as bs := fun hdisciplined => by
  have hle := h fun call hcall => hdisciplined call (List.mem_append_right _ hcall)
  rw [takenCensus_append]
  exact hle.trans (add_le_add_right (Multiset.le_add_left _ _) _)

theorem rebuilt {d d' : Decl} (hid : d'.id = d.id) (h : Covers calls d.children d'.children) :
    Covers calls [d] [d'] := fun hdisciplined => by
  rw [Decl.idCensus_singleton d, Decl.idCensus_singleton d', hid, add_assoc]
  exact add_le_add_right (h hdisciplined) _

/-- What a disciplined call puts in the place of a declaration is covered: its ids are used once,
so it is enough that each of them comes from somewhere. -/
theorem decl (given : Decl) (results : List Decl) (taken : List DeclId) :
    Covers [.decl given results taken] [given] results := fun hdisciplined => by
  obtain ⟨hdistinct, horigin⟩ := hdisciplined _ (List.mem_singleton_self _)
  refine (Multiset.le_iff_subset ?_).mpr fun id hid => ?_
  · simpa [Decl.idCensus, Decl.census] using hdistinct
  · have hid' : id ∈ (results.flatMap Decl.subtree).map Decl.id := by
      simpa [Decl.idCensus, Decl.census] using hid
    simpa [Decl.idCensus, takenCensus, HookCall.taken, Decl.census] using horigin id hid'

end Covers

/-! ## Accounts of runs -/

theorem accounts_applyOwnType {p : Pass σ} (htype : ∀ ctx type, (p.type? ctx type).DrawsIds)
    (ctx : Context) (k : Kind Decl) (s : Progress (σ × List HookCall)) :
    ∃ calls, Accounts calls s (p.noting.applyOwnType ctx k s).2 :=
  applyOwnType_step (p := p.noting) (R := fun s s' => ∃ calls, Accounts calls s s')
    (fun s => ⟨[], .refl s⟩) (fun ⟨_, h⟩ ⟨_, h'⟩ => ⟨_, h.trans h'⟩)
    (fun ctx type s => ⟨_, .of_noting (htype ctx type) _ (fun _ _ => rfl) s⟩) ctx k s

theorem accounts_decl {p : Pass σ} (hdecl : ∀ ctx d, (p.decl ctx d).DrawsIds) (ctx : Context)
    (d : Decl) (s : Progress (σ × List HookCall)) :
    ∃ call, Accounts [call] s (p.noting.decl ctx d s).2 ∧
      Covers [call] [d] ((p.noting.decl ctx d s).1.decls d) :=
  ⟨_, .of_noting (hdecl ctx d) (fun answer taken => .decl d (answer.decls d) taken)
    (fun _ _ => rfl) s, .decl d _ _⟩

/-- Between any two points of a run the calls take what the supply gives, and cover what the
declarations became. -/
theorem accounts_applyAll {p : Pass σ} (htype : ∀ ctx type, (p.type? ctx type).DrawsIds)
    (hdecl : ∀ ctx d, (p.decl ctx d).DrawsIds) (ctx : Context) (ds : List Decl)
    (s : Progress (σ × List HookCall)) :
    ∃ calls, Accounts calls s (p.noting.applyAll ctx ds s).2 ∧
      Covers calls ds ((p.noting.applyAll ctx ds s).1.flatMap Prod.snd) := by
  have key := run_induction (p := p.noting)
    (P := fun _ d s news s' => ∃ calls, Accounts calls s s' ∧ Covers calls [d] news)
    (Q := fun _ ds s replacements s' => ∃ calls, Accounts calls s s' ∧
      Covers calls ds (replacements.flatMap Prod.snd))
    (fun _ s => ⟨[], .refl s, .refl []⟩) ?cons ?decl
  case cons =>
    rintro ctx d rest s news s' replacements s'' ⟨calls, haccounts, hd⟩ ⟨calls', haccounts', hrest⟩
    exact ⟨calls ++ calls', haccounts.trans haccounts', hd.append hrest⟩
  case decl =>
    rintro ctx d s kind s₁ replacements s₂ answer s₃ hown hall ⟨inner, haccounts, hchildren⟩ hanswer
    obtain ⟨typed, htyped⟩ := accounts_applyOwnType htype ctx d.kind s
    rw [hown] at htyped
    let rebuilt : Decl := { d with kind := kind.rebuild replacements }
    have hrebuilt : rebuilt.children = replacements.flatMap Prod.snd := by
      refine Kind.children_rebuild ?_
      have hkids := p.noting.children_applyOwnType ctx d.kind s
      rw [hown] at hkids
      rw [hkids, ← Decl.children, ← p.noting.map_fst_applyAll (ctx.enter d) d.children s₁, hall]
    rw [← hrebuilt] at hchildren
    have hgiven : Covers inner [d] [rebuilt] := hchildren.rebuilt rfl
    obtain ⟨call, hcall, hresults⟩ := accounts_decl hdecl ctx rebuilt s₂
    rw [hanswer] at hcall hresults
    exact ⟨typed ++ (inner ++ [call]), htyped.trans (haccounts.trans hcall),
      (hgiven.trans hresults).of_append typed⟩
  exact key.2 ctx ds s

/-! ## Unique ids -/

/-- The calls of a run over a library take consecutive ids, and cover the new trees. -/
theorem accounts_run {p : Pass σ} (htype : ∀ ctx type, (p.type? ctx type).DrawsIds)
    (hdecl : ∀ ctx d, (p.decl ctx d).DrawsIds) {L : Library} (hnext : 1 ≤ L.nextId) (state : σ) :
    let done := p.noting.run L (state, [])
    let taken := done.2.2.flatMap HookCall.taken
    taken = List.range' L.nextId taken.length ∧ done.1.nextId = L.nextId + taken.length ∧
      Covers done.2.2 L.roots done.1.roots := by
  intro done taken
  let start : Progress (σ × List HookCall) := ⟨.startingAt L.nextId, p.before L state, []⟩
  obtain ⟨calls, haccounts, hcovers⟩ := accounts_applyAll htype hdecl (.root L) L.roots start
  obtain rfl : done.2.2 = calls := haccounts.noted
  obtain ⟨n, hn⟩ := haccounts.supply
  have hstart : start.ids = ⟨L.nextId⟩ := IdSource.startingAt_of_one_le hnext
  rw [hstart, IdSource.takeMany_eq, Prod.mk.injEq] at hn
  obtain ⟨htaken, hids⟩ := hn
  have hlength : taken.length = n := by
    rw [show taken = List.range' L.nextId n from htaken.symm, List.length_range']
  refine ⟨?_, ?_, hcovers⟩
  · rw [hlength]
    exact htaken.symm
  · have hdone : done.1.nextId = max (L.nextId + n) L.nextId :=
      congrArg (max · L.nextId) (congrArg IdSource.next hids.symm)
    rw [hdone, hlength]
    exact Nat.max_eq_left (Nat.le_add_right _ _)

/-- **The engine keeps ids unique.**  Let the hooks of a pass do nothing with the supply of ids but
take ids from it, let its last step keep the library, and let the calls of its hook for
declarations be disciplined.  Then the ids that the calls took are distinct and were unused, and
they are all that the supply gave; and the ids of the tree that comes out are distinct and below
the next id. -/
theorem ids_stay_unique (p : Pass σ) (L : Library) (state : σ) (hsound : L.TreeIdsSound)
    (hnext : 1 ≤ L.nextId) (htype : ∀ ctx type, (p.type? ctx type).DrawsIds)
    (hdecl : ∀ ctx d, (p.decl ctx d).DrawsIds) (hafter : ∀ M s, (p.after M s).1 = M)
    (hdisciplined : ∀ call ∈ (p.noting.run L (state, [])).2.2, call.IsDisciplined) :
    let M := (p.run L state).1
    let calls := (p.noting.run L (state, [])).2.2
    let taken := calls.flatMap HookCall.taken
    (p.noting.run L (state, [])).1 = M ∧
    taken.Nodup ∧ (∀ id ∈ taken, L.nextId ≤ id) ∧ M.nextId = L.nextId + taken.length ∧
    M.TreeIdsSound := by
  intro M calls taken
  have hM : (p.noting.run L (state, [])).1 = M := by
    rw [show M = (p.run L state).1 from rfl, p.run_noting L state [], hafter]
  obtain ⟨htaken, hnextId, hcovers⟩ : taken = List.range' L.nextId taken.length ∧
      M.nextId = L.nextId + taken.length ∧ Covers calls L.roots M.roots := by
    rw [← hM]
    exact accounts_run htype hdecl hnext state
  have hdistinct : taken.Nodup := by
    rw [htaken]
    exact List.nodup_range'
  have hrange : ∀ id ∈ taken, L.nextId ≤ id ∧ id < M.nextId := by
    intro id hid
    rw [htaken, List.mem_range'_1] at hid
    rwa [hnextId]
  have hdisjoint : List.Disjoint L.ids taken := fun id hid hid' =>
    Nat.not_le_of_lt (hsound.below id hid) (hrange id hid').1
  have hunion : (L.ids ++ taken).Nodup :=
    List.nodup_append'.mpr ⟨hsound.distinct, hdistinct, hdisjoint⟩
  have hle : (↑M.ids : Multiset DeclId) ≤ ↑(L.ids ++ taken) := by
    rw [← Multiset.coe_add]
    exact hcovers hdisciplined
  refine ⟨hM, hdistinct, fun id hid => (hrange id hid).1, hnextId, ?_, ?_⟩
  · exact Multiset.coe_nodup.mp (Multiset.nodup_of_le hle (Multiset.coe_nodup.mpr hunion))
  · intro id hid
    have hmem : id ∈ L.ids ++ taken := Multiset.mem_coe.mp (Multiset.mem_of_le hle hid)
    rcases List.mem_append.mp hmem with hold | hnew
    · rw [hnextId]
      exact Nat.lt_add_right _ (hsound.below id hold)
    · exact (hrange id hnew).2

end Pass

/-! ## Scripts -/

namespace Script

open PassM

theorem drawsIds_applyEdits (edits : List ScriptEdit) (d : Decl) :
    (applyEdits d edits).DrawsIds := by
  induction edits generalizing d with
  | nil => exact drawsIds_pure d
  | cons e edits ih =>
    cases e with
    | edit e => exact ih (e.apply d)
    | freshId => exact drawsIds_freshId.bind fun id => ih { d with id }

theorem drawsIds_applyCopies (d : Decl) (copies : List (List ScriptEdit)) :
    (applyCopies d copies).DrawsIds := by
  induction copies with
  | nil => exact drawsIds_pure []
  | cons edits copies ih =>
    exact (drawsIds_applyEdits edits d).bind fun _ => ih.bind fun _ => drawsIds_pure _

theorem drawsIds_perform (d : Decl) (action : ScriptAction) : (perform d action).DrawsIds := by
  cases action with
  | unchanged => exact drawsIds_pure _
  | delete => exact drawsIds_pure _
  | replace edits => exact (drawsIds_applyEdits edits d).bind fun _ => drawsIds_pure _
  | update edits => exact (drawsIds_applyEdits edits d).bind fun _ => drawsIds_pure _
  | many copies => exact (drawsIds_applyCopies d copies).bind fun _ => drawsIds_pure _
  | wrap role => exact drawsIds_freshId.bind fun _ => drawsIds_pure _

theorem drawsIds_askAt (script : Script) (hook : Hook) {next : Handler (List ScriptEvent)}
    {ctx : Context} {d : Decl} (hnext : (next ctx d).DrawsIds) :
    (script.askAt hook next ctx d).DrawsIds := by
  refine (drawsIds_update _).bind fun _ => ?_
  cases script.rules.find? (·.applies hook ctx d) with
  | none => exact hnext
  | some rule => exact drawsIds_perform d rule.action

/-- A script takes ids from the supply and does nothing else with it. -/
theorem drawsIds_pass (script : Script) :
    (∀ ctx type, (script.pass.type? ctx type).DrawsIds) ∧
      ∀ ctx d, (script.pass.decl ctx d).DrawsIds := by
  refine ⟨fun _ _ => (drawsIds_update _).bind fun _ => drawsIds_pure _, fun ctx d => ?_⟩
  have hkind : ∀ kind, (script.atKind kind ctx d).DrawsIds := fun kind =>
    script.drawsIds_askAt kind.hook (drawsIds_pure _)
  exact script.drawsIds_askAt .declaration
    (dispatch_induction hkind fun _ _ => script.drawsIds_askAt .anyField (hkind _))

end Script

/-- Wraps what defines a type by another name, puts a copy beside each field, and deletes the
parameters named `label`. -/
def Sample.reshaping : Script where
  rules := [
    ⟨.typedef, none, none, none, none, .wrap .looseDeclarations⟩,
    ⟨.anyField, none, none, none, none, .many [[.freshId], []]⟩,
    ⟨.parameter, none, some "label", none, none, .delete⟩]
  types := []

theorem Pass.ids_stay_unique_reshaping :
    let p := Sample.reshaping.pass
    let L := Sample.library
    let calls := (p.noting.run L ([], [])).2.2
    L.TreeIdsSound ∧ 1 ≤ L.nextId ∧ (∀ call ∈ calls, call.IsDisciplined) ∧
    calls.flatMap HookCall.taken = [17, 18, 19, 20] ∧ (p.run L []).1.TreeIdsSound := by
  intro p L calls
  have hL : L.TreeIdsSound := ⟨by decide +kernel, by decide +kernel⟩
  have hnext : 1 ≤ L.nextId := by decide +kernel
  have hdisciplined : ∀ call ∈ calls, call.IsDisciplined := by decide +kernel
  obtain ⟨htype, hdecl⟩ := Sample.reshaping.drawsIds_pass
  obtain ⟨_, _, _, _, hsound⟩ :=
    Pass.ids_stay_unique p L [] hL hnext htype hdecl (fun _ _ => rfl) hdisciplined
  exact ⟨hL, hnext, hdisciplined, by decide +kernel, hsound⟩

end NativeApi
