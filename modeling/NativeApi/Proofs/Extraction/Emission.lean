import NativeApi.Proofs.Emission
import NativeApi.Proofs.Extraction.Closure

/-!
# Emission after extraction

Emission passes over what has an error, and extraction takes it away.  So a code generator is told
about the same declarations before and after, but for the records that extraction breaks and what is
inside them.

* `Visit.around`: the visits on the way up from a visit to the root of its tree.
  `Library.mem_around_iff`: they are the visits that have the visit in their subtree.
* `Visit.breaks`: whether extraction gives a record its first error.
* `Visit.tag`: what a code generator can tell of a declaration, apart from its data.
* `Decl.map_tag_visits_remnants`: the walk of what stays is the old walk, up to the visits that have
  something broken around them.
* `extraction_keeps_emission`: what a code generator is told before and after.
-/

namespace NativeApi

/-! ## Ways up -/

namespace Visit

def chain : List Decl → List Visit
  | [] => []
  | d :: above => ⟨above, d⟩ :: chain above

/-- A visit, the visit of what is directly around it, and so on up to the root. -/
def around (v : Visit) : List Visit := chain (v.decl :: v.above)

theorem chain_subset {ds es : List Decl} (h : ds <:+ es) : chain ds ⊆ chain es := by
  obtain ⟨front, rfl⟩ := h
  induction front with
  | nil => exact List.Subset.refl _
  | cons d front ih => exact List.subset_cons_of_subset _ ih

end Visit

theorem Decl.mem_around {above : List Decl} {d : Decl} {v : Visit} (hv : v ∈ d.visits above) :
    ⟨above, d⟩ ∈ v.around :=
  Visit.chain_subset (isSuffix_of_mem_visits hv) (List.mem_cons_self ..)

theorem Decl.mem_chain_or_mem_visits {above : List Decl} {d : Decl} {v w : Visit}
    (hv : v ∈ d.visits above) (hw : w ∈ v.around) :
    w ∈ Visit.chain above ∨ w ∈ d.visits above ∧ v ∈ w.decl.visits w.above := by
  induction d using induction generalizing above with
  | step d ih =>
    have hself : ⟨above, d⟩ ∈ d.visits above := mem_visits.mpr (.inl rfl)
    rcases mem_visits.mp hv with rfl | ⟨c, hc, hmem⟩
    · rcases List.mem_cons.mp hw with rfl | hw
      · exact .inr ⟨hself, hself⟩
      · exact .inl hw
    · rcases ih c hc hmem with hchain | ⟨hinside, hbelow⟩
      · rcases List.mem_cons.mp hchain with rfl | hchain
        · exact .inr ⟨hself, hv⟩
        · exact .inl hchain
      · exact .inr ⟨mem_visits.mpr (.inr ⟨c, hc, hinside⟩), hbelow⟩

/-- What is on the way up from a visit of a library is what has the visit in its subtree. -/
theorem Library.mem_around_iff {L : Library} {v w : Visit} (hv : v ∈ L.visits) :
    w ∈ v.around ↔ w ∈ L.visits ∧ v ∈ w.decl.visits w.above := by
  constructor
  · intro hw
    obtain ⟨d, hd, hv⟩ := List.mem_flatMap.mp hv
    rcases Decl.mem_chain_or_mem_visits hv hw with hnil | ⟨hinside, hbelow⟩
    · exact absurd hnil List.not_mem_nil
    · exact ⟨List.mem_flatMap.mpr ⟨d, hd, hinside⟩, hbelow⟩
  · rintro ⟨_, hbelow⟩
    exact Decl.mem_around hbelow

/-! ## Records that break -/

namespace Visit

/-- Whether the visited declaration has no error and becomes a record with only one of vtable and
vtable pointer field. -/
def breaks (v : Visit) : Bool := !v.decl.hasErrors && v.processed.isUnpaired

/-- Whether the visited declaration is in, or is, a record that breaks. -/
def isTaken (v : Visit) : Bool := v.around.any Visit.breaks

/-- Whether the visited declaration is in, or is, one that leaves the tree. -/
def leaves (v : Visit) : Bool := v.around.any Visit.isBroken

theorem isBroken_of_not_isCovered {v : Visit} (h : v.isCovered = false) :
    v.isBroken = (v.decl.hasErrors || v.breaks) := by
  rw [isBroken, h, breaks]
  cases v.decl.hasErrors <;> rfl

theorem any_isBroken_chain (ds : List Decl) :
    (chain ds).any isBroken = (ds.any Decl.hasErrors || (chain ds).any breaks) := by
  induction ds with
  | nil => rfl
  | cons d above ih =>
    rw [chain, List.any_cons, List.any_cons, List.any_cons, ih]
    cases hcovered : above.any Decl.hasErrors with
    | true => rw [Bool.true_or, Bool.or_true, Bool.or_true, Bool.true_or]
    | false =>
      rw [isBroken_of_not_isCovered (v := ⟨above, d⟩) hcovered, Bool.false_or, Bool.or_false,
        Bool.or_assoc]

theorem not_leaves (v : Visit) : (!v.leaves) = (v.isOpen && !v.isTaken) := by
  have hopen : v.isOpen = !(v.decl :: v.above).any Decl.hasErrors := by
    rw [isOpen, List.not_any_eq_all_not]
    rfl
  rw [leaves, around, any_isBroken_chain, Bool.not_or, ← hopen]
  rfl

/-- Whatever has a broken declaration around it leaves with it. -/
theorem leaves_of_mem_visits {above : List Decl} {d : Decl} {v : Visit}
    (hd : (Visit.mk above d).isBroken = true) (hv : v ∈ d.visits above) : v.leaves = true :=
  List.any_eq_true.mpr ⟨_, Decl.mem_around hv, hd⟩

theorem isTaken_iff {L : Library} {v : Visit} (hv : v ∈ L.visits) :
    v.isTaken = true ↔ ∃ w ∈ L.visits, v ∈ w.decl.visits w.above ∧ w.decl.hasErrors = false ∧
      ∃ r, w.processed.kind = .record r ∧ r.vtable.isSome ≠ r.vtableField.isSome := by
  rw [isTaken, List.any_eq_true]
  simp only [Library.mem_around_iff hv, and_assoc, breaks, Bool.and_eq_true, Bool.not_eq_true',
    Decl.isUnpaired_iff]

end Visit

/-! ## The walk of what stays -/

theorem Kind.name_rebuild (k : Kind Decl) (replacements : List Replacement) :
    (k.rebuild replacements).name = k.name := by
  cases k with
  | container role members => cases role <;> rfl
  | _ => rfl

/-- What a code generator can tell of a declaration apart from its data: its id, its name, the name
of its kind, and the ids of what is around it, the root first. -/
def Visit.tag (v : Visit) : DeclId × String × String × List DeclId :=
  (v.decl.id, v.decl.name, v.decl.kind.name, v.ancestors.map Decl.id)

namespace Decl

theorem tag_processed {above above' : List Decl} (hids : above'.map Decl.id = above.map Decl.id)
    (isCovered : Bool) (d : Decl) :
    (Visit.mk above' (d.processed isCovered)).tag = (Visit.mk above d).tag := by
  have hancestors : above'.reverse.map Decl.id = above.reverse.map Decl.id := by
    rw [List.map_reverse, List.map_reverse, hids]
  rw [processed_eq, Visit.tag, Visit.tag, Visit.ancestors, Visit.ancestors, hancestors,
    Kind.name_rebuild]

theorem any_hasErrors_of_stays {ds : List Decl} (h : (Visit.chain ds).any Visit.isBroken = false) :
    ds.any hasErrors = false := by
  rw [Visit.any_isBroken_chain, Bool.or_eq_false_iff] at h
  exact h.1

/-- What is broken goes, and the rest stays as it was processed, where nothing around is broken. -/
theorem remnant_of_stays {above : List Decl} (h : (Visit.chain above).any Visit.isBroken = false)
    (d : Decl) : (d.processed false).remnant false
      = if (Visit.mk above d).isBroken then [] else [d.processed false] := by
  have huncovered : (Visit.mk above d).isCovered = false := any_hasErrors_of_stays h
  have hremnant := (Visit.mk above d).remnant_processed
  rw [Visit.processed, huncovered] at hremnant
  rw [hremnant]
  split
  · rfl
  · next hbroken =>
    rw [if_neg hbroken] at hremnant
    have hstays : (Visit.mk above d).rewritten ∈ (d.processed false).remnant false :=
      hremnant ▸ List.mem_singleton_self _
    rw [(mem_remnant_uncovered hstays).1]

theorem map_tag_visits_remnant {above above' : List Decl}
    (hids : above'.map Decl.id = above.map Decl.id)
    (hstays : (Visit.chain above).any Visit.isBroken = false) (d : Decl) :
    (((d.processed false).remnant false).flatMap (visits above')).map Visit.tag
      = ((d.visits above).filter fun v => !v.leaves).map Visit.tag := by
  induction d using induction generalizing above above' with
  | step d ih =>
    rw [remnant_of_stays hstays]
    by_cases hbroken : (Visit.mk above d).isBroken = true
    · -- the whole subtree goes
      have hnone : ((d.visits above).filter fun v => !v.leaves) = [] := by
        refine List.filter_eq_nil_iff.mpr fun v hv => ?_
        rw [Visit.leaves_of_mem_visits hbroken hv]
        exact Bool.false_ne_true
      rw [if_pos hbroken, hnone]
      rfl
    · have hstays' : (Visit.chain (d :: above)).any Visit.isBroken = false :=
        Bool.or_eq_false_iff.mpr ⟨Bool.not_eq_true _ ▸ hbroken, hstays⟩
      have hself : (!(Visit.mk above d).leaves) = true := Bool.not_eq_true' _ ▸ hstays'
      have hclean : d.hasErrors = false :=
        (Bool.or_eq_false_iff.mp (any_hasErrors_of_stays hstays')).1
      have hids' : (d.processed false :: above').map Decl.id = (d :: above).map Decl.id := by
        rw [List.map_cons, List.map_cons, hids, (d.continues_processed false).id]
      rw [if_neg hbroken, List.flatMap_singleton, visits_eq, visits_eq above d, List.map_cons,
        List.filter_cons_of_pos (p := fun v : Visit => !v.leaves) hself, List.map_cons,
        tag_processed hids, children_processed, hclean, Bool.or_false, remnants,
        List.flatMap_assoc, List.map_flatMap, List.filter_flatMap, List.map_flatMap]
      exact congrArg _ (List.flatMap_congr fun c hc => ih c hc hids' hstays')

/-- **The walk of what stays.** -/
theorem map_tag_visits_remnants (ds : List Decl) :
    ((remnants false ds).flatMap (visits [])).map Visit.tag
      = ((ds.flatMap (visits [])).filter fun v => !v.leaves).map Visit.tag := by
  rw [remnants, List.flatMap_assoc, List.map_flatMap, List.filter_flatMap, List.map_flatMap]
  exact List.flatMap_congr fun d _ => map_tag_visits_remnant rfl rfl d

end Decl

/-! ## Emission -/

theorem Library.emission_of_clean {L : Library} (h : ∀ d ∈ L.decls, d.hasErrors = false) :
    L.emission.emits = L.visits ∧ L.emission.skipped = 0 := by
  have hopen : ∀ v ∈ L.visits, v.isOpen = true := by
    intro v hv
    refine List.all_eq_true.mpr (List.forall_mem_cons.mpr ⟨?_, fun a ha => ?_⟩)
    · rw [Decl.isEmittable, h v.decl (mem_decls_iff.mpr ⟨v, hv, rfl⟩)]
      rfl
    · rw [Decl.isEmittable, h a (mem_decls_of_mem_above hv a ha)]
      rfl
  have hnone : (L.visits.filter fun v => !v.isOpen) = [] :=
    List.filter_eq_nil_iff.mpr fun v hv => by rw [hopen v hv]; exact Bool.false_ne_true
  rw [L.emission_eq, Emission.emits_ofVisits]
  exact ⟨List.filter_eq_self.mpr hopen, congrArg List.length hnone⟩

/-- A code generator is told about what stays, as it was told before. -/
theorem map_tag_emits_extraction (L : Library) (state : List Decl) :
    (extraction.run L state).1.emission.emits.map Visit.tag
      = (L.emission.emits.filter fun v => !v.isTaken).map Visit.tag := by
  have hclean : ∀ d ∈ (extraction.run L state).1.decls, d.hasErrors = false :=
    fun d hd => (isSound_extraction L state d hd).clean
  rw [(Library.emission_of_clean hclean).1, L.emission_eq, Emission.emits_ofVisits,
    List.filter_filter, run_extraction]
  refine (Decl.map_tag_visits_remnants L.roots).trans ?_
  refine congrArg (List.map Visit.tag) (List.filter_congr fun v _ => ?_)
  rw [Visit.not_leaves, Bool.and_comm]

/-- **Extraction changes what is emitted only where it breaks a record.**  After a run nothing is
withheld.  What a code generator is told about is what it was told about before, in that order,
without the declarations that are in or are a record that breaks: one that had no error and that has
exactly one of vtable and vtable pointer field in the form in which the hook is given it.  If no
record breaks, a code generator is told about the same declarations. -/
theorem extraction_keeps_emission (L : Library) (state : List Decl) :
    let X := (extraction.run L state).1
    let before := L.emission.emits
    let after := X.emission.emits
    X.emission.skipped = 0 ∧
    after.map Visit.tag = (before.filter fun v => !v.isTaken).map Visit.tag ∧
    (after.map Visit.tag).Sublist (before.map Visit.tag) ∧
    (∀ v ∈ before, v.isTaken = true ↔
      ∃ w ∈ L.visits, v ∈ w.decl.visits w.above ∧ w.decl.hasErrors = false ∧
        ∃ r, w.processed.kind = .record r ∧ r.vtable.isSome ≠ r.vtableField.isSome) ∧
    (∀ w ∈ L.visits, ∀ s, (extraction.rebuild ⟨L, w.above⟩ w.decl s).1.1 = w.processed) ∧
    ((∀ w ∈ L.visits, w.decl.hasErrors = false → ∀ r, w.processed.kind = .record r →
        r.vtable.isSome = r.vtableField.isSome) →
      after.map Visit.tag = before.map Visit.tag) := by
  intro X before after
  have htags : after.map Visit.tag = (before.filter fun v => !v.isTaken).map Visit.tag :=
    map_tag_emits_extraction L state
  have hbefore : ∀ v ∈ before, v ∈ L.visits := by
    intro v hv
    rw [show before = L.visits.filter Visit.isOpen by
      rw [← Emission.emits_ofVisits, ← L.emission_eq]] at hv
    exact (List.mem_filter.mp hv).1
  refine ⟨?_, htags, ?_, fun v hv => Visit.isTaken_iff (hbefore v hv), fun w _ => ?_, fun h => ?_⟩
  · exact (Library.emission_of_clean fun d hd => (isSound_extraction L state d hd).clean).2
  · rw [htags]
    exact List.filter_sublist.map _
  · exact Pass.rebuild_extraction L w
  · have hall : (before.filter fun v => !v.isTaken) = before := by
      refine List.filter_eq_self.mpr fun v hv => ?_
      rw [Bool.not_eq_true', ← Bool.not_eq_true, Visit.isTaken_iff (hbefore v hv)]
      rintro ⟨w, hw, _, hclean, r, hr, hunpaired⟩
      exact hunpaired (h w hw hclean r hr)
    rw [htags, hall]

namespace Sample

/-- A record with the field that points to its vtable, and with a vtable that has an error. -/
def halfBroken : Library :=
  let vtable := (Decl.ofKind 2 "" 0 (.vtable [])).append Issue.undesignatedVTable.diagnostic
  let field := Decl.ofKind 3 "" 0 (.field 0 .vtablePointer)
  .ofRoots [] [.ofKind 1 "Shape" 0 (.record
    { Record.ofMembers [vtable, field] with vtable := some 2, vtableField := some 3 })] 4

-- The record and the field are told about only as long as the vtable is in its place.
example :
    let X := (extraction.run halfBroken []).1
    halfBroken.emission.emits.map (·.decl.id) = [1, 3] ∧ X.emission.emits.length = 0 ∧
      X.broken.map Decl.id = [2, 1] ∧ X.broken.map (·.children.map Decl.id) = [[], [3]] := by
  decide +kernel

end Sample

end NativeApi
