import NativeApi.Proofs.Pass.Ledger
import NativeApi.Proofs.Verify.Settling

/-!
# The ids of containers

The containers that verification puts around enums take consecutive ids, from the first unused one
on, one for each enum that needs a container.  So which ids are there after verification depends on
which were there before and on the number of these enums, and on nothing else.

* `Visit.needsContainer`: an enum in its place needs a container.
* `nextId_verify`: the next id after verification.
* `mem_ids_verify`: the ids after verification.
-/

namespace NativeApi

variable {default : CallingConvention} {L : Library}

def Visit.needsContainer (L : Library) (v : Visit) : Bool :=
  (Context.mk L v.above).needsContainer v.decl

/-- The number of enums among some declarations and inside them that need a container. -/
def Context.containerCount (ctx : Context) (ds : List Decl) : Nat :=
  (ds.flatMap (Decl.visits ctx.above)).countP (Visit.needsContainer ctx.library)

namespace Context

theorem containerCount_cons (ctx : Context) (d : Decl) (rest : List Decl) :
    ctx.containerCount (d :: rest) = ctx.containerCount [d] + ctx.containerCount rest := by
  rw [containerCount, List.flatMap_cons, List.countP_append, containerCount, List.flatMap_singleton]
  rfl

theorem containerCount_singleton (ctx : Context) (d : Decl) : ctx.containerCount [d]
    = (ctx.enter d).containerCount d.children + if ctx.needsContainer d then 1 else 0 := by
  rw [containerCount, List.flatMap_singleton, Decl.visits_eq, List.countP_cons]
  rfl

theorem needsContainer_rebuild (ctx : Context) (d : Decl) (replacements : List Replacement) :
    ctx.needsContainer { d with kind := d.kind.rebuild replacements } = ctx.needsContainer d := by
  obtain ⟨id, name, scope, accessibility, file, diagnostics, metadata, kind⟩ := d
  cases kind <;> rfl

end Context

theorem Decl.idCensus_enumContainer (id : DeclId) (d : Decl) :
    idCensus [enumContainer id d] = {id} + idCensus [d] :=
  idCensus_singleton (enumContainer id d)

/-- The ids after the first walk over siblings: those that were there, and one for each container.
The containers take the ids that are next. -/
theorem ids_applyAll_verification (default : CallingConvention) (ctx : Context) (ds : List Decl)
    (s : Progress Nat) :
    let done := (verification default).applyAll ctx ds s
    done.2.ids.next = s.ids.next + ctx.containerCount ds ∧
    Decl.idCensus (done.1.flatMap Prod.snd)
      = Decl.idCensus ds + ↑(List.range' s.ids.next (ctx.containerCount ds)) := by
  have key := Pass.run_induction (p := verification default)
    (P := fun ctx d s news s' => s'.ids.next = s.ids.next + ctx.containerCount [d] ∧
      Decl.idCensus news
        = Decl.idCensus [d] + ↑(List.range' s.ids.next (ctx.containerCount [d])))
    (Q := fun ctx ds s replacements s' => s'.ids.next = s.ids.next + ctx.containerCount ds ∧
      Decl.idCensus (replacements.flatMap Prod.snd)
        = Decl.idCensus ds + ↑(List.range' s.ids.next (ctx.containerCount ds)))
    (fun _ _ => ⟨rfl, rfl⟩) ?cons ?decl
  case cons =>
    rintro ctx d rest s news s' replacements s'' ⟨hnext, hids⟩ ⟨hnext', hids'⟩
    rw [ctx.containerCount_cons]
    refine ⟨by rw [hnext', hnext, Nat.add_assoc], ?_⟩
    rw [List.flatMap_cons, Decl.idCensus_append, Decl.idCensus_cons d rest, hids, hids', hnext,
      ← List.range'_append_1, ← Multiset.coe_add, add_add_add_comm]
  case decl =>
    rintro ctx d s kind s₁ replacements s₂ answer s₃ htype hall ⟨hnext, hids⟩ hanswer
    rw [Pass.applyOwnType_of_silent (fun _ _ _ => rfl), Prod.mk.injEq] at htype
    obtain ⟨rfl, rfl⟩ := htype
    let rebuilt : Decl := { d with kind := d.kind.rebuild replacements }
    have hrebuilt : rebuilt.children = replacements.flatMap Prod.snd := by
      refine Kind.children_rebuild ?_
      rw [← Decl.children, ← (verification default).map_fst_applyAll (ctx.enter d) d.children s,
        hall]
    have hchecked : Decl.idCensus [ctx.check default rebuilt] = Decl.idCensus [d]
        + ↑(List.range' s.ids.next ((ctx.enter d).containerCount d.children)) := by
      rw [Decl.idCensus_singleton, Context.children_check, hrebuilt, hids, ← add_assoc,
        Decl.idCensus_singleton d]
      rfl
    rw [verification_decl, ctx.needsContainer_rebuild d replacements] at hanswer
    rw [ctx.containerCount_singleton d]
    by_cases hneeds : ctx.needsContainer d = true
    · rw [if_pos hneeds, Prod.mk.injEq] at hanswer
      obtain ⟨rfl, rfl⟩ := hanswer
      rw [if_pos hneeds]
      refine ⟨congrArg (· + 1) hnext, ?_⟩
      show Decl.idCensus [enumContainer s₂.ids.next (ctx.check default rebuilt)] = _
      rw [Decl.idCensus_enumContainer, hchecked, hnext, ← List.range'_append_1, ← Multiset.coe_add,
        add_comm, add_assoc]
      rfl
    · rw [if_neg hneeds, Prod.mk.injEq] at hanswer
      obtain ⟨rfl, rfl⟩ := hanswer
      rw [if_neg hneeds]
      exact ⟨hnext, hchecked⟩
  exact key.2 ctx ds s

/-! ## The verified library -/

def Library.containerCount (L : Library) : Nat := L.visits.countP (Visit.needsContainer L)

theorem nextId_verify (default : CallingConvention) (L : Library) :
    (verify default L).nextId = max L.nextId 1 + L.containerCount := by
  obtain ⟨hnext, -⟩ :=
    ids_applyAll_verification default (.root L) L.roots ⟨.startingAt L.nextId, 0⟩
  have hchecked : (L.checked default).nextId = max L.nextId 1 + L.containerCount := by
    refine (congrArg (max · L.nextId) hnext).trans (Nat.max_eq_left ?_)
    exact Nat.le_trans (Nat.le_max_left _ _) (Nat.le_add_right _ _)
  rw [verify_eq]
  show max (max (L.checked default).nextId 1) (L.checked default).nextId = _
  rw [Nat.max_eq_left (Nat.le_max_left _ _), hchecked]
  exact Nat.max_eq_left (Nat.le_trans (Nat.le_max_right _ _) (Nat.le_add_right _ _))

/-- **The ids after verification**: those that were there, and the ones from the first unused id up
to the next id. -/
theorem mem_ids_verify {id : DeclId} : id ∈ (verify default L).ids ↔
    id ∈ L.ids ∨ max L.nextId 1 ≤ id ∧ id < (verify default L).nextId := by
  obtain ⟨-, hids⟩ :=
    ids_applyAll_verification default (.root L) L.roots ⟨.startingAt L.nextId, 0⟩
  have hchecked : (↑(L.checked default).ids : Multiset DeclId)
      = ↑L.ids + ↑(List.range' (max L.nextId 1) L.containerCount) := hids
  rw [← Library.contains_iff, contains_verify, Library.contains_iff, ← Multiset.mem_coe, hchecked,
    Multiset.mem_add, Multiset.mem_coe, Multiset.mem_coe, List.mem_range'_1, nextId_verify]

end NativeApi
