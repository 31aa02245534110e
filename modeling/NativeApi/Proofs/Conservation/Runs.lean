import NativeApi.Proofs.Conservation.Passes
import NativeApi.Sample

/-!
# Runs of passes

What every sequence of built-in passes keeps, in whatever order the passes come and whatever
state earlier runs left in them.

* `PassInstance.evolves_runAll`: a whole sequence is an evolution of the library.
* `Library.IdsSound`: the ids of trees and broken list are distinct and handed out already.
  `PassInstance.idsSound_runAll`: no pass of a sequence makes two ids collide.
* `PassInstance.runAll_keeps_declarations`: every declaration that is no typedef is found exactly
  once afterwards, in the trees or among the broken declarations, and whatever is new is a
  container for loose declarations.
-/

namespace NativeApi

theorem PassInstance.evolves_runAll (L : Library) (passes : List PassInstance) :
    L.Evolves (runAll L passes).1 := by
  induction passes generalizing L with
  | nil => exact .refl L
  | cons pass rest ih => exact (pass.evolves_run L).trans (ih (pass.run L).1)

theorem PassInstance.runAll_append (L : Library) (first rest : List PassInstance) :
    (runAll L (first ++ rest)).1 = (runAll (runAll L first).1 rest).1 := by
  induction first generalizing L with
  | nil => rfl
  | cons pass first ih => exact ih (pass.run L).1

/-! ## Ids -/

/-- The ids of all declarations, the broken ones included, are distinct and were handed out, and
id 0 was not. -/
structure Library.IdsSound (L : Library) : Prop where
  distinct : (L.inventory.map Decl.id).Nodup
  below : ∀ d ∈ L.inventory, d.id < L.nextId
  one_le : 1 ≤ L.nextId

theorem Library.Evolves.distinct_and_below {L M : Library} (h : L.Evolves M)
    (hdistinct : (L.inventory.map Decl.id).Nodup) (hbelow : ∀ d ∈ L.inventory, d.id < L.nextId) :
    (M.inventory.map Decl.id).Nodup ∧ ∀ d ∈ M.inventory, d.id < max M.nextId 1 :=
  h.conserves.ids hdistinct fun d hd => Nat.lt_of_lt_of_le (hbelow d hd) (Nat.le_max_left ..)

theorem Library.Evolves.idsSound {L M : Library} (h : L.Evolves M) (hL : L.IdsSound) :
    M.IdsSound := by
  have hone : 1 ≤ M.nextId := Nat.le_trans hL.one_le h.nextId
  obtain ⟨hdistinct, hbelow⟩ := h.distinct_and_below hL.distinct hL.below
  rw [Nat.max_eq_left hone] at hbelow
  exact ⟨hdistinct, hbelow, hone⟩

/-- **Ids never collide.**  Between any two points of a sequence of passes, ids stay sound, the
next id never decreases, the files are the same, and broken declarations are only added. -/
theorem PassInstance.idsSound_runAll (L : Library) (hL : L.IdsSound)
    (first rest : List PassInstance) :
    let M := (runAll L first).1
    let N := (runAll L (first ++ rest)).1
    M.IdsSound ∧ N.IdsSound ∧ M.nextId ≤ N.nextId ∧ N.files = M.files ∧ M.broken <+: N.broken := by
  intro M N
  have hM : M.IdsSound := (evolves_runAll L first).idsSound hL
  have hN : M.Evolves N := by
    have := evolves_runAll M rest
    rwa [← runAll_append] at this
  exact ⟨hM, hN.idsSound hM, hN.nextId, hN.files, hN.broken⟩

theorem PassInstance.idsSound_runAll_sample : Sample.library.IdsSound ∧
    (runAll Sample.library [.freshWrapLoose, .freshVerify .default]).1.IdsSound :=
  have hL : Sample.library.IdsSound := ⟨by decide +kernel, by decide +kernel, by decide +kernel⟩
  ⟨hL, (PassInstance.idsSound_runAll Sample.library hL [.freshWrapLoose, .freshVerify .default]
    [.freshExtractBroken, .stripTypedefs]).1⟩

/-! ## Declarations -/

theorem filter_id_eq_singleton {ds : List Decl} (h : (ds.map Decl.id).Nodup) {d : Decl}
    (hd : d ∈ ds) : ds.filter (·.id = d.id) = [d] := by
  induction ds with
  | nil => exact absurd hd List.not_mem_nil
  | cons first rest ih =>
    obtain ⟨hfirst, hrest⟩ := List.nodup_cons.mp h
    rcases List.mem_cons.mp hd with rfl | hmem
    · have hnone : rest.filter (·.id = d.id) = [] := by
        refine List.filter_eq_nil_iff.mpr fun e he heq => hfirst ?_
        exact List.mem_map.mpr ⟨e, he, by simpa using heq⟩
      rw [List.filter_cons_of_pos (by simp), hnone]
    · have hne : first.id ≠ d.id := fun heq => hfirst (List.mem_map.mpr ⟨d, hmem, heq.symm⟩)
      rw [List.filter_cons_of_neg (by simpa using hne)]
      exact ih hrest hmem

/-- **No declaration is lost and no diagnostic is forgotten.** -/
theorem PassInstance.runAll_keeps_declarations (L : Library) (passes : List PassInstance)
    (hdistinct : (L.inventory.map Decl.id).Nodup) (hbelow : ∀ d ∈ L.inventory, d.id < L.nextId) :
    (∀ d ∈ L.inventory, d.typedef? = none →
      ∃ d', (runAll L passes).1.inventory.filter (·.id = d.id) = [d'] ∧
        d'.kind.form = d.kind.form ∧ d.diagnostics <+: d'.diagnostics) ∧
    ∀ d' ∈ (runAll L passes).1.inventory, d'.id ∉ L.inventory.map Decl.id →
      ∃ members, d'.kind = .container .looseDeclarations members := by
  have hevolves := evolves_runAll L passes
  have hafter := (hevolves.distinct_and_below hdistinct hbelow).1
  constructor
  · intro d hd htypedef
    have hform : d.kind.form ≠ .typedef := by
      intro h
      rw [← Decl.isSome_typedef?_iff, htypedef] at h
      exact absurd h (by decide)
    obtain ⟨d', hmem, hcont⟩ := hevolves.conserves.exists_continues hd hform
    refine ⟨d', ?_, hcont.form, hcont.diagnostics⟩
    rw [← hcont.id]
    exact filter_id_eq_singleton hafter hmem
  · intro d' hd' hnew
    rcases hevolves.conserves.origin hd' with ⟨d, hd, hcont⟩ | ⟨hform, _⟩
    · exact absurd (List.mem_map.mpr ⟨d, hd, hcont.id.symm⟩) hnew
    · exact Kind.form_eq_container_iff.mp hform

theorem PassInstance.runAll_keeps_declarations_sample :
    (Sample.library.inventory.map Decl.id).Nodup ∧
    (∀ d ∈ Sample.library.inventory, d.id < Sample.library.nextId) ∧
    ∀ d ∈ Sample.library.inventory, d.typedef? = none → ∃ d',
      (runAll Sample.library [.freshVerify .default, .freshExtractBroken]).1.inventory.filter
        (·.id = d.id) = [d'] ∧ d'.kind.form = d.kind.form ∧ d.diagnostics <+: d'.diagnostics :=
  have hdistinct : (Sample.library.inventory.map Decl.id).Nodup := by decide +kernel
  have hbelow : ∀ d ∈ Sample.library.inventory, d.id < Sample.library.nextId := by decide +kernel
  ⟨hdistinct, hbelow, (PassInstance.runAll_keeps_declarations Sample.library
    [.freshVerify .default, .freshExtractBroken] hdistinct hbelow).1⟩

end NativeApi
