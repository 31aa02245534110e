import NativeApi.Proofs.Emission
import NativeApi.Proofs.Pipeline.Agreement
import NativeApi.Sample

/-!
# The default convention decides nothing

Which calling convention functions are expected to use shows in warnings only
(`default_convention_decides_nothing`).  Errors decide what is emitted and whether a pipeline fails,
and they are the same for every default.

* `Library.errors`: the errors of a library with their places.  `Library.AgreesUpTo.errors_eq`:
  libraries that agree up to errors have the same.
* `Library.AgreesUpTo.forall₂_emits`: code is generated for the same declarations.
* `Pipeline.EndsAlike`: two runs that fail with one count, or that both come to a library.
-/

namespace NativeApi

variable {Q : Tolerance} {L L' : Library}

/-! ## Walks -/

namespace Visit.Rel

variable {v v' : Visit}

/-- Names are the same, so declarations that agree have the same qualified name. -/
theorem qualifiedName (h : Visit.Rel (Decl.AgreesUpTo Q) v v') :
    v'.qualifiedName = v.qualifiedName := by
  have hnames : v'.above.map Decl.name = v.above.map Decl.name :=
    map_eq_of_forall₂ (h.above.imp fun _ _ hp => hp.name)
  have hscopes : v'.above.map Decl.scope = v.above.map Decl.scope :=
    map_eq_of_forall₂ (h.above.imp fun _ _ hp => hp.scope)
  have hroot : v'.root.scope = v.root.scope := by
    rw [Visit.root, Visit.root, ← Option.getD_map Decl.scope, ← Option.getD_map Decl.scope,
      ← List.getLast?_map, ← List.getLast?_map, hscopes, h.decl.scope]
  have hpath : (v'.ancestors ++ [v'.decl]).map Decl.name
      = (v.ancestors ++ [v.decl]).map Decl.name := by
    rw [Visit.ancestors, Visit.ancestors, List.map_append, List.map_append, List.map_reverse,
      List.map_reverse, hnames, List.map_singleton, List.map_singleton, h.decl.name]
  rw [Visit.qualifiedName, Visit.qualifiedName, hpath, hroot]

theorem isOpen (h : Visit.Rel (Decl.AgreesUpTo .errors) v v') : v'.isOpen = v.isOpen := by
  have hopen (w : Visit) : w.isOpen = !(w.decl :: w.above).any Decl.hasErrors :=
    List.not_any_eq_all_not.symm
  rw [hopen, hopen, any_hasErrors_congr (.cons h.decl h.above)]

end Visit.Rel

namespace Library.AgreesUpTo

theorem visits (h : L.AgreesUpTo Q L') :
    List.Forall₂ (Visit.Rel (Decl.AgreesUpTo Q)) L.visits L'.visits :=
  List.rel_flatMap h.roots fun _ _ hd => hd.visits .nil

theorem brokenVisits (h : L.AgreesUpTo Q L') :
    List.Forall₂ (Visit.Rel (Decl.AgreesUpTo Q)) L.brokenVisits L'.brokenVisits :=
  List.rel_flatMap h.broken fun _ _ hd => hd.visits .nil

end Library.AgreesUpTo

/-! ## Errors -/

def Visit.errors (v : Visit) : List AttachedDiagnostic :=
  v.diagnostics.filter (·.diagnostic.isError)

theorem Visit.Rel.errors {v v' : Visit} (h : Visit.Rel (Decl.AgreesUpTo .errors) v v') :
    v'.errors = v.errors := by
  have hdiagnostics : v'.decl.diagnostics.errors = v.decl.diagnostics.errors := h.decl.diagnostics
  unfold Diagnostics.errors at hdiagnostics
  rw [Visit.errors, Visit.errors, Visit.diagnostics, Visit.diagnostics, List.filter_map,
    List.filter_map, h.qualifiedName, h.decl.id]
  exact congrArg _ hdiagnostics

/-- Every error of the trees and then of the broken declarations, with its place. -/
def Library.errors (L : Library) : List AttachedDiagnostic :=
  L.diagnostics.filter (·.diagnostic.isError)

theorem Library.totalErrorCount_eq_length (L : Library) : L.totalErrorCount = L.errors.length :=
  List.countP_eq_length_filter

namespace Library.AgreesUpTo

variable (h : L.AgreesUpTo .errors L')

include h

/-- **Libraries that agree up to errors have the same errors**, in the same order. -/
theorem errors_eq : L'.errors = L.errors := by
  have hvisits : (L'.visits ++ L'.brokenVisits).map Visit.errors
      = (L.visits ++ L.brokenVisits).map Visit.errors :=
    map_eq_of_forall₂ ((List.rel_append h.visits h.brokenVisits).imp fun _ _ hv => hv.errors)
  rw [Library.errors, Library.errors, Library.diagnostics, Library.diagnostics,
    List.filter_flatMap, List.filter_flatMap, List.flatMap_def, List.flatMap_def]
  exact congrArg List.flatten hvisits

theorem forall₂_emits : List.Forall₂ (Visit.Rel (Decl.AgreesUpTo .errors)) L.emission.emits
    L'.emission.emits := by
  rw [L.emission_eq, L'.emission_eq, Emission.emits_ofVisits, Emission.emits_ofVisits]
  exact forall₂_filter (fun _ _ hv => hv.isOpen) h.visits

theorem emitted_eq : L'.emission.emitted = L.emission.emitted := by
  rw [L.emission_agrees_with_walk.2.2.2.1, L'.emission_agrees_with_walk.2.2.2.1,
    h.forall₂_emits.length_eq]

theorem skipped_eq : L'.emission.skipped = L.emission.skipped := by
  have hwalk := L.emission_agrees_with_walk.2.2.2.2.2
  have hwalk' := L'.emission_agrees_with_walk.2.2.2.2.2
  rw [h.emitted_eq, ← h.visits.length_eq] at hwalk'
  exact Nat.add_left_cancel (hwalk'.trans hwalk.symm)

end Library.AgreesUpTo

/-! ## Pipelines -/

/-- Two runs end in the same way: both come to a library or both fail, with the same count of
errors, and the libraries have the same errors. -/
inductive Pipeline.EndsAlike : Except PipelineError Library → Except PipelineError Library → Prop
  | ok {M M' : Library} : M.AgreesUpTo .errors M' → EndsAlike (.ok M) (.ok M')
  | error {M M' : Library} (count : Nat) : M.AgreesUpTo .errors M' →
      EndsAlike (.error (.errorsRemain count M)) (.error (.errorsRemain count M'))

theorem Pipeline.run_endsAlike (p : Pipeline) (L : Library) (default default' : CallingConvention) :
    EndsAlike ((p.withConvention default).run L).1 ((p.withConvention default').run L).1 := by
  have hresult := PassInstance.runAll_agreesUpTo default default' p.passes
    (.refl Tolerance.errors_refl L)
  have hcount := congrArg List.length hresult.errors_eq
  rw [← Library.totalErrorCount_eq_length, ← Library.totalErrorCount_eq_length] at hcount
  rw [run, run, withConvention, withConvention]
  dsimp only
  rw [hcount]
  split
  · exact .error _ hresult
  · exact .ok hresult

/-- **The default calling convention never decides what is emitted.**  A library verified for two
defaults has the same trees, with the same ids in them, and the same next id.  Declarations at the
same position agree in everything but their diagnostics.  Those are the same, except that a function
with an arrangement may have the warning about its convention for one default and not for the other.
So the errors are the same, in the same order and at the same places, the same declarations are
emitted, as many are withheld, and a pipeline fails for both defaults, with the same count, or for
neither. -/
theorem default_convention_decides_nothing (default default' : CallingConvention) (L : Library) :
    let M := verify default L
    let M' := verify default' L
    M.AgreesUpTo .convention M' ∧ M'.broken = M.broken ∧
    M'.ids = M.ids ∧ M'.nextId = M.nextId ∧ M'.errors = M.errors ∧
    M'.emission.emits.map (·.decl.id) = M.emission.emits.map (·.decl.id) ∧
    M'.emission.emitted = M.emission.emitted ∧ M'.emission.skipped = M.emission.skipped ∧
    ∀ p : Pipeline, Pipeline.EndsAlike ((p.withConvention default).run L).1
      ((p.withConvention default').run L).1 := by
  intro M M'
  have hagree : M.AgreesUpTo .convention M' := verify_agreesUpTo default default' L
  have herrors : M.AgreesUpTo .errors M' := hagree.mono Tolerance.errors_of_convention
  refine ⟨hagree, ?_, hagree.ids, hagree.nextId, herrors.errors_eq, ?_, herrors.emitted_eq,
    herrors.skipped_eq, fun p => p.run_endsAlike L default default'⟩
  · rw [broken_verify, broken_verify]
  · exact map_eq_of_forall₂ (herrors.forall₂_emits.imp fun _ _ hv => hv.decl.id)

/-- For another default more is reported about the sample; as much is emitted and withheld. -/
example : (verify .c Sample.library).emission.summary = (14, 3, 6) ∧
    (verify .stdCall Sample.library).emission.summary = (14, 3, 8) := by decide +kernel

end NativeApi
