import NativeApi.Proofs.Extraction.Errors
import NativeApi.Proofs.Verify.Representability

/-!
# References through extraction

In a verified library every reference of a declaration without errors leads to a declaration.
Extraction takes declarations away and looks at no references, so afterwards a reference may lead
nowhere: just if it led to something that was taken away.

* `contains_of_mem_verify`: the references of a verified declaration without errors.
* `Library.perm_ids_extracted`, `Library.contains_extraction`: the ids that are left.
* `Pipeline.references_after_extraction`: the references that lead nowhere after a whole pipeline.
-/

namespace NativeApi

/-! ## Before extraction -/

/-- **In a verified library, references lead to declarations**, unless an error is attached. -/
theorem contains_of_mem_verify {default : CallingConvention} {L : Library} {d : Decl}
    (hd : d ∈ (verify default L).decls) (hclean : d.hasErrors = false) {ref : DeclRef}
    (href : ref ∈ d.kind.declRefs) : (verify default L).contains ref.id = true := by
  obtain ⟨v', hv', rfl⟩ := Library.mem_decls_iff.mp hd
  obtain ⟨v, _, hcounter | henclosure⟩ := mem_visits_verify default L v' hv'
  · obtain ⟨parts, _, hsettled⟩ := hcounter.settles.exists_parts
    rw [hsettled] at hclean href
    exact Context.contains_of_settle hclean href
  · cases henclosure
    exact absurd href List.not_mem_nil

theorem Library.TreeIdsSound.looseWrapping {L : Library} (h : L.TreeIdsSound) (state : Nat) :
    (NativeApi.looseWrapping.run L state).1.TreeIdsSound :=
  h.of_conserves (conserves_looseWrapping L state) (evolves_looseWrapping L state).nextId

theorem broken_looseWrapping (L : Library) (state : Nat) :
    (looseWrapping.run L state).1.broken = L.broken :=
  broken_wrapLoose _

/-! ## After extraction -/

theorem Visit.declRefs_rewritten (v : Visit) :
    v.rewritten.kind.declRefs = v.decl.kind.declRefs := by
  have hkind : v.rewritten.kind = v.processed.kind := by
    rw [rewritten, Decl.checkPairing]
    split <;> rfl
  rw [hkind, processed, Decl.processed_eq]
  rw [Kind.declRefs, Kind.rebuild, Kind.type?_withChildren, Kind.type?_mapHandles, Kind.declRefs]

namespace Library

variable {L : Library}

theorem perm_ids_extracted (L : Library) :
    (((Decl.remnants false L.roots).flatMap Decl.subtree).map Decl.id
      ++ (L.extracted.flatMap Decl.subtree).map Decl.id).Perm L.ids := by
  have hvisits (ds : List Decl) :
      (visitsOf ds).map (fun v => v.decl.id) = (ds.flatMap Decl.subtree).map Decl.id := by
    rw [visitsOf, List.map_flatMap, List.map_flatMap]
    refine List.flatMap_congr fun d _ => ?_
    rw [← d.map_decl_visits [], List.map_map]
    rfl
  have hperm := L.perm_visits_extracted.map fun v => v.decl.id
  rw [List.map_append, hvisits, hvisits, List.map_map] at hperm
  refine hperm.trans (List.Perm.of_eq ?_)
  rw [ids, decls, ← hvisits]
  exact List.map_congr_left fun v _ => v.continues_rewritten.id

theorem contains_extraction (hdistinct : L.ids.Nodup) (state : List Decl) {id : DeclId}
    (hid : id ∈ L.ids) : (extraction.run L state).1.contains id = true ↔
      ∀ e ∈ L.extracted, ∀ f ∈ e.subtree, f.id ≠ id := by
  have hperm := L.perm_ids_extracted
  have hdisjoint := (List.nodup_append.mp (hperm.nodup_iff.mpr hdistinct)).2.2
  have htaken : id ∈ (L.extracted.flatMap Decl.subtree).map Decl.id ↔
      ∃ e ∈ L.extracted, ∃ f ∈ e.subtree, f.id = id := by
    simp only [List.mem_map, List.mem_flatMap]
    constructor
    · rintro ⟨f, ⟨e, he, hf⟩, rfl⟩
      exact ⟨e, he, f, hf, rfl⟩
    · rintro ⟨e, he, f, hf, rfl⟩
      exact ⟨f, ⟨e, he, hf⟩, rfl⟩
  rw [contains_iff, run_extraction]
  show id ∈ ((Decl.remnants false L.roots).flatMap Decl.subtree).map Decl.id ↔ _
  constructor
  · intro hleft e he f hf hsame
    exact hdisjoint id hleft id (htaken.mpr ⟨e, he, f, hf, hsame⟩) rfl
  · intro hnot
    rcases List.mem_append.mp (hperm.mem_iff.mpr hid) with hleft | hgone
    · exact hleft
    · obtain ⟨e, he, f, hf, hsame⟩ := htaken.mp hgone
      exact absurd hsame (hnot e he f hf)

theorem hasErrors_of_mem_extracted {e : Decl} (he : e ∈ L.extracted) : e.hasErrors = true := by
  rw [extracted_eq] at he
  obtain ⟨v, hv, rfl⟩ := List.mem_map.mp he
  have hbroken := (List.mem_filter.mp hv).2
  rw [Visit.isBroken_eq, Bool.and_eq_true] at hbroken
  exact hbroken.1

end Library

/-! ## Pipelines -/

/-- **References after a pipeline that extracts.**  The pipeline returns a library; what it
extracted joined the broken declarations, and each of it has an error.  A reference of a declaration
that is left, at any depth of its type, leads to a declaration that is left, unless it led to one
that was extracted or was inside one that was. -/
theorem Pipeline.references_after_extraction {L : Library} (hsound : L.TreeIdsSound)
    (config : VerifyConfig) : ∃ M extracted,
      ((Pipeline.ofConfig ⟨false, true, config⟩).run L).1 = .ok M ∧
      M.broken = L.broken ++ extracted ∧ (∀ e ∈ extracted, e.hasErrors = true) ∧
      ∀ d ∈ M.decls, ∀ ref ∈ d.kind.declRefs,
        (M.contains ref.id = true ↔ ∀ e ∈ extracted, ∀ f ∈ e.subtree, f.id ≠ ref.id) := by
  let W := (looseWrapping.run L 0).1
  let V := verify config.defaultConvention W
  let M := (extraction.run V []).1
  have hrun : ((Pipeline.ofConfig ⟨false, true, config⟩).run L).1 = .ok M := by
    rw [Pipeline.run_outcome, if_neg (by simp [Pipeline.ofConfig])]
    rfl
  have hdistinct : V.ids.Nodup :=
    ((hsound.looseWrapping 0).verify config.defaultConvention).distinct
  refine ⟨M, V.extracted, hrun, ?_, fun e he => Library.hasErrors_of_mem_extracted he, ?_⟩
  · show (extraction.run V []).1.broken = _
    rw [run_extraction]
    show V.broken ++ V.extracted = _
    rw [show V.broken = W.broken from broken_verify _ _,
      show W.broken = L.broken from broken_looseWrapping L 0]
  · intro d hd ref href
    have hclean := (isSound_extraction V [] d hd).clean
    obtain ⟨v, hv, rfl⟩ := Library.exists_rewritten_of_mem hd
    rw [Visit.hasErrors_rewritten, Bool.or_eq_false_iff] at hclean
    rw [Visit.declRefs_rewritten] at href
    have hmem : v.decl ∈ V.decls := Library.mem_decls_iff.mpr ⟨v, hv, rfl⟩
    have hbefore : V.contains ref.id = true := contains_of_mem_verify hmem hclean.1 href
    exact Library.contains_extraction hdistinct [] ((V.contains_iff ref.id).mp hbefore)

namespace Sample

/-- A class template, and a record with a field that points to it and one that points to the
record. -/
def holder : Library :=
  let template := (Decl.ofKind 1 "Tmpl" 0 (.unsupported "ClassTemplate")).append
    ⟨.error, "ClassTemplate declarations are not supported"⟩
  let item := Decl.ofKind 2 "item" 0 (.field 0 (.normal (.pointer (.decl ⟨1, "Tmpl"⟩))))
  let next := Decl.ofKind 3 "next" 0 (.field 8 (.normal (.pointer (.decl ⟨4, "Holder"⟩))))
  .ofRoots ["include/holder.h"] [template, .ofKind 4 "Holder" 0 (.record (.ofMembers [item, next]))]
    5

theorem treeIdsSound_holder : holder.TreeIdsSound := ⟨by decide +kernel, by decide +kernel⟩

def extractedHolder : Library :=
  (extraction.run (verify VerifyConfig.default.defaultConvention (looseWrapping.run holder 0).1)
    []).1

theorem run_holder :
    ((Pipeline.ofConfig ⟨false, true, .default⟩).run holder).1 = .ok extractedHolder := by
  rw [Pipeline.run_outcome, if_neg (by simp [Pipeline.ofConfig])]
  rfl

end Sample

/-- In the sample only the template is extracted, so the record can still be found. -/
theorem Pipeline.references_after_extraction_holder : Sample.holder.TreeIdsSound ∧
    ∃ M, ((Pipeline.ofConfig ⟨false, true, .default⟩).run Sample.holder).1 = .ok M ∧
      M.broken.map Decl.id = [1] ∧
      ∃ d ∈ M.decls, ⟨4, "Holder"⟩ ∈ d.kind.declRefs ∧ M.contains 4 = true := by
  obtain ⟨M, extracted, hrun, hbroken, _, hrefs⟩ :=
    references_after_extraction Sample.treeIdsSound_holder .default
  obtain rfl : Sample.extractedHolder = M := Except.ok.inj (Sample.run_holder.symm.trans hrun)
  obtain ⟨d, hd, href⟩ : ∃ d ∈ Sample.extractedHolder.decls, ⟨4, "Holder"⟩ ∈ d.kind.declRefs := by
    decide +kernel
  have hkept : ∀ e ∈ Sample.extractedHolder.broken, ∀ f ∈ e.subtree, f.id ≠ 4 := by decide +kernel
  rw [hbroken] at hkept
  exact ⟨Sample.treeIdsSound_holder, _, Sample.run_holder, by decide +kernel, d, hd, href,
    (hrefs d hd _ href).mpr fun e he => hkept e (List.mem_append_right _ he)⟩

/-- The field that points to the template is left with a reference that leads nowhere. -/
theorem Pipeline.reference_dangles_holder : Sample.holder.TreeIdsSound ∧
    ¬ ∃ M, ((Pipeline.ofConfig ⟨false, true, .default⟩).run Sample.holder).1 = .ok M ∧
      ∀ d ∈ M.decls, ∀ ref ∈ d.kind.declRefs, M.contains ref.id = true := by
  refine ⟨Sample.treeIdsSound_holder, ?_⟩
  rintro ⟨M, hrun, hresolves⟩
  obtain rfl : Sample.extractedHolder = M := Except.ok.inj (Sample.run_holder.symm.trans hrun)
  obtain ⟨d, hd, ref, href, hnone⟩ : ∃ d ∈ Sample.extractedHolder.decls,
      ∃ ref ∈ d.kind.declRefs, Sample.extractedHolder.contains ref.id = false := by
    decide +kernel
  rw [hresolves d hd ref href] at hnone
  exact absurd hnone.symm Bool.false_ne_true

end NativeApi
