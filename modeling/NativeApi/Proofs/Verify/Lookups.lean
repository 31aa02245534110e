import NativeApi.Proofs.Conservation.Passes
import NativeApi.Proofs.Library.Referents
import NativeApi.Proofs.Verify.Places

/-!
# Lookups in the verified library

Verification gives no id to a second declaration (`Library.TreeIdsSound.verify`) and changes
nothing that a type can see of a declaration (`referent?_verify`), so every type is judged in the
verified library as it was before (`SameTypes`).
-/

namespace NativeApi

variable {default : CallingConvention} {L N : Library}

/-! ## Ids -/

theorem one_le_nextId_verify (default : CallingConvention) (L : Library) :
    1 ≤ (verify default L).nextId := by
  rw [verify_eq]
  exact Nat.le_trans (Nat.le_max_right _ _) (Nat.le_max_left _ _)

theorem Library.TreeIdsSound.verify (h : L.TreeIdsSound) (default : CallingConvention) :
    (verify default L).TreeIdsSound :=
  h.of_conserves (conserves_verify default L) (evolves_verification default L 0).nextId

/-! ## Referents -/

theorem Context.referent?_repairedKind (ctx : Context) (k : Kind Decl) :
    (ctx.repairedKind k).referent? = k.referent? := by
  cases k <;> rfl

theorem Settles.referent? {above : List Decl} {d d' : Decl}
    (h : Settles default L N above d d') : d'.kind.referent? = d.kind.referent? := by
  obtain ⟨parts, _, rfl⟩ := h.exists_parts
  show ((Context.mk L above).repairedKind
    (d.withSettled (parts.map SettledPart.result)).kind).referent? = _
  rw [Context.referent?_repairedKind, Decl.withSettled, Kind.referent?_withChildren,
    Kind.referent?_mapHandles]

theorem referent?_verify (h : L.TreeIdsSound) (default : CallingConvention) :
    (verify default L).referent? = L.referent? := by
  have hdistinct := (h.verify default).distinct
  funext id
  by_cases hid : id ∈ L.ids
  · obtain ⟨d, hd, rfl⟩ := Library.mem_ids_iff.mp hid
    obtain ⟨v, hv, rfl⟩ := Library.mem_decls_iff.mp hd
    obtain ⟨v', hv', hcounter⟩ := exists_counterpart default L v hv
    have hfind' : (verify default L).find? v.decl.id = some v'.decl :=
      (Library.find?_eq_some_iff hdistinct).mpr
        ⟨Library.mem_decls_iff.mpr ⟨v', hv', rfl⟩, hcounter.continues.id⟩
    have hfind : L.find? v.decl.id = some v.decl :=
      (Library.find?_eq_some_iff h.distinct).mpr ⟨hd, rfl⟩
    rw [Library.referent?, Library.referent?, hfind', hfind]
    exact hcounter.settles.referent?
  · -- under an id that is new there is a container, if anything
    have hnone : L.find? id = none := by
      rw [Library.find?_eq, List.find?_eq_none]
      intro d hd heq
      exact hid (Library.mem_ids_iff.mpr ⟨d, hd, by simpa using heq⟩)
    rw [Library.referent?, Library.referent?, hnone]
    cases hfind : (verify default L).find? id with
    | none => rfl
    | some d' =>
      obtain ⟨hd', hid'⟩ := (Library.find?_eq_some_iff hdistinct).mp hfind
      obtain ⟨v', hv', rfl⟩ := Library.mem_decls_iff.mp hd'
      obtain ⟨v, hv, hcounter | henclosure⟩ := mem_visits_verify default L v' hv'
      · refine absurd (Library.mem_ids_iff.mpr ⟨v.decl, ?_, ?_⟩) hid
        · exact Library.mem_decls_iff.mpr ⟨v, hv, rfl⟩
        · rw [← hcounter.continues.id, hid']
      · cases henclosure
        rfl

/-! ## Types -/

/-- **Verification changes no judgement about types.** -/
theorem sameTypes_verify (h : L.TreeIdsSound) (default : CallingConvention) :
    SameTypes L (verify default L) := by
  have hreferent := referent?_verify h default
  exact .of_referents
    (Library.mem_typedefIds_congr hreferent (h.verify default).distinct h.distinct) hreferent

end NativeApi
