import NativeApi.Pipeline
import NativeApi.Proofs.Extraction.Relocation
import NativeApi.Proofs.Verify.Idempotence
import NativeApi.Proofs.Verify.Layout

/-!
# Errors through extraction

Extraction moves errors and adds some, but loses none.  So whether a pipeline fails does not depend
on whether it extracts.

* `errorTotal_extraction`: a run adds one error for each record that it flags.
* `Decl.PairChecked`: what verification leaves of a declaration for extraction to find.
  `Decl.PairChecked.isFlagged_eq`: after verification, a record is flagged just if extraction takes
  one of vtable and vtable pointer field from it.
* `Decl.PairChecked.isSound`: without errors, extraction has nothing to take away.
* `Pipeline.failure_ignores_extraction`: the outcomes of the pipelines that abort on errors or do
  not, and extract or do not.
-/

namespace NativeApi

/-! ## Counts -/

theorem Diagnostics.errorCount_append (ds es : Diagnostics) :
    Diagnostics.errorCount (ds ++ es) = ds.errorCount + es.errorCount :=
  List.countP_append

namespace Decl

def errorTotal (ds : List Decl) : Nat :=
  Diagnostics.errorCount ((ds.flatMap subtree).flatMap diagnostics)

theorem errorTotal_append (ds es : List Decl) :
    errorTotal (ds ++ es) = errorTotal ds + errorTotal es := by
  rw [errorTotal, List.flatMap_append, List.flatMap_append, Diagnostics.errorCount_append]
  rfl

end Decl

theorem Decl.hasErrors_of_errorTotal {ds : List Decl} (h : errorTotal ds = 0) :
    ∀ d ∈ ds.flatMap subtree, d.hasErrors = false := by
  intro d hd
  refine List.any_eq_false.mpr fun diagnostic hdiagnostic => ?_
  exact List.countP_eq_zero.mp h diagnostic (List.mem_flatMap.mpr ⟨d, hd, hdiagnostic⟩)

theorem Library.errorTotal_eq (L : Library) : Decl.errorTotal (L.roots ++ L.broken)
      = Diagnostics.errorCount
          ((L.visits ++ L.brokenVisits).flatMap fun v => v.decl.diagnostics) := by
  have hvisits : (L.visits ++ L.brokenVisits).map Visit.decl
      = (L.roots ++ L.broken).flatMap Decl.subtree := by
    simp only [visits, brokenVisits, visitsOf, ← List.flatMap_append, List.map_flatMap,
      Decl.map_decl_visits]
  rw [Decl.errorTotal, ← hvisits, List.flatMap_map]

/-- The count that decides on failure is that of trees and broken declarations together. -/
theorem Library.totalErrorCount_eq (L : Library) :
    L.totalErrorCount = Decl.errorTotal (L.roots ++ L.broken) := by
  have hone (v : Visit) :
      v.diagnostics.map AttachedDiagnostic.diagnostic = v.decl.diagnostics := by
    rw [Visit.diagnostics, List.map_map]
    exact List.map_id _
  rw [totalErrorCount, errorTotal_eq, Diagnostics.errorCount, ← funext hone, ← List.map_flatMap,
    List.countP_map]
  rfl

/-! ## Flagged records -/

namespace Visit

/-- Whether a run attaches an error to the visited declaration. -/
def isFlagged (v : Visit) : Bool :=
  v.processed.isUnpaired && decide (Issue.unpairedVTable.diagnostic ∉ v.decl.diagnostics)

theorem diagnostics_rewritten (v : Visit) : v.rewritten.diagnostics =
    v.decl.diagnostics ++ if v.isFlagged then [Issue.unpairedVTable.diagnostic] else [] := by
  have hsame : v.processed.diagnostics = v.decl.diagnostics := Decl.diagnostics_processed _ _
  rw [rewritten, Decl.checkPairing, isFlagged]
  cases v.processed.isUnpaired with
  | false =>
    rw [Bool.false_and]
    exact hsame.trans (List.append_nil _).symm
  | true =>
    show v.processed.diagnostics.ensure _ = _
    rw [hsame, Diagnostics.ensure, Bool.true_and]
    by_cases hmem : Issue.unpairedVTable.diagnostic ∈ v.decl.diagnostics
    · simp [hmem]
    · simp [hmem]

theorem errorCount_rewritten (v : Visit) : v.rewritten.diagnostics.errorCount
    = v.decl.diagnostics.errorCount + if v.isFlagged then 1 else 0 := by
  rw [diagnostics_rewritten, Diagnostics.errorCount_append]
  split <;> rfl

end Visit

/-! ## Errors of any library -/

theorem Visit.errorCount_flatMap_rewritten (vs : List Visit) :
    Diagnostics.errorCount (vs.flatMap fun v => v.rewritten.diagnostics)
      = Diagnostics.errorCount (vs.flatMap fun v => v.decl.diagnostics)
        + vs.countP Visit.isFlagged := by
  induction vs with
  | nil => rfl
  | cons v rest ih =>
    rw [List.flatMap_cons, List.flatMap_cons, Diagnostics.errorCount_append,
      Diagnostics.errorCount_append, List.countP_cons, ih, errorCount_rewritten]
    omega

/-- **Extraction loses no error and adds one for each record that it flags.** -/
theorem errorTotal_extraction (L : Library) (state : List Decl) :
    let X := (extraction.run L state).1
    Decl.errorTotal (X.roots ++ X.broken)
      = Decl.errorTotal (L.roots ++ L.broken) + L.visits.countP Visit.isFlagged := by
  intro X
  have hperm := (L.perm_visits_extraction state).flatMap_right fun v => v.decl.diagnostics
  have hrewritten := Visit.errorCount_flatMap_rewritten L.visits
  rw [X.errorTotal_eq, L.errorTotal_eq, Diagnostics.errorCount, hperm.countP_eq,
    List.flatMap_append, List.flatMap_append, List.flatMap_map]
  show Diagnostics.errorCount _ = _
  rw [Diagnostics.errorCount_append, Diagnostics.errorCount_append]
  show Diagnostics.errorCount (L.visits.flatMap fun v => v.rewritten.diagnostics) + _ = _
  omega

/-! ## Errors of verified libraries -/

/-- What verification leaves of a declaration for extraction to find. -/
structure Decl.PairChecked (d : Decl) : Prop where
  handles : d.kind.HandlesSettled
  /-- Whoever has only one of vtable and vtable pointer field has the error that says so. -/
  reported : d.isUnpaired = true → Issue.unpairedVTable.diagnostic ∈ d.diagnostics

namespace Decl

def hasPair (d : Decl) : Bool := d.record?.any fun r => r.vtable.isSome && r.vtableField.isSome

theorem hasPair_iff {d : Decl} : d.hasPair = true ↔
    ∃ r, d.kind = .record r ∧ r.vtable.isSome = true ∧ r.vtableField.isSome = true := by
  unfold hasPair record?
  cases d.kind with
  | record r => simp
  | _ => simp

theorem isUnpaired_withChildren (d : Decl) (children : List Decl) :
    isUnpaired { d with kind := d.kind.withChildren children } = d.isUnpaired := by
  obtain ⟨id, name, scope, accessibility, file, diagnostics, metadata, kind⟩ := d
  cases kind <;> rfl

/-- Where all members stay, handles that are settled stay as well. -/
theorem isUnpaired_processed_of_kept {isCovered : Bool} {d : Decl}
    (hkept : (d.hasErrors || isCovered) = true) (hsettled : d.kind.HandlesSettled) :
    (d.processed isCovered).isUnpaired = d.isUnpaired := by
  have hall : ∀ r ∈ prunings true d.children, ∃ m', r.2 = [m'] ∧
      (d.kind.form = .record → r.1.Continues m') := by
    intro r hr
    obtain ⟨c, _, rfl⟩ := List.mem_map.mp hr
    exact ⟨_, remnant_covered _, fun _ =>
      (c.continues_processed true).trans (continues_checkPairing _)⟩
  have hkind := Kind.rebuild_eq_of_continues (prunings_fst true d.children) hall
  rw [hsettled] at hkind
  rw [processed_eq, hkept, hkind, isUnpaired_withChildren]

/-- Processing takes handles away and gives none, so what it leaves with one of two had both. -/
theorem hasPair_of_processed {isCovered : Bool} {d : Decl} (hpaired : d.isUnpaired = false)
    (hunpaired : (d.processed isCovered).isUnpaired = true) : d.hasPair = true := by
  obtain ⟨r', hr', hne⟩ := isUnpaired_iff.mp hunpaired
  have hform : d.kind.form = .record := by
    rw [← (d.continues_processed isCovered).form, hr']
    rfl
  obtain ⟨r, hr⟩ := Kind.form_eq_record_iff.mp hform
  have hsame := isUnpaired_eq_false_iff.mp hpaired r hr
  rw [processed_eq, hr] at hr'
  obtain rfl := Kind.record.inj hr'
  refine hasPair_iff.mpr ⟨r, hr, ?_⟩
  rw [← hsame, and_self]
  by_contra hnone
  rw [Bool.not_eq_true, Option.isSome_eq_false_iff, Option.isNone_iff_eq_none] at hnone
  rw [hnone, Option.isSome_none, eq_comm, Option.isSome_eq_false_iff,
    Option.isNone_iff_eq_none] at hsame
  refine hne ?_
  show (retarget _ r.vtable .vtable).isSome = (retarget _ r.vtableField .vtableField).isSome
  rw [hnone, hsame, retarget_none, retarget_none]

end Decl

/-- Whether the visited declaration is a record from which a run takes one of vtable and vtable
pointer field. -/
def Visit.losesHalf (v : Visit) : Bool := v.decl.hasPair && v.processed.isUnpaired

/-- What was checked is flagged just if a run takes something from it. -/
theorem Decl.PairChecked.isFlagged_eq {v : Visit} (h : v.decl.PairChecked) :
    v.isFlagged = v.losesHalf := by
  rw [Visit.isFlagged, Visit.losesHalf, Bool.eq_iff_iff, Bool.and_eq_true, Bool.and_eq_true,
    decide_eq_true_iff]
  constructor
  · rintro ⟨hunpaired, hnew⟩
    have hpaired : v.decl.isUnpaired = false := by
      rw [← Bool.not_eq_true]
      exact fun hold => hnew (h.reported hold)
    exact ⟨hasPair_of_processed hpaired hunpaired, hunpaired⟩
  · rintro ⟨hpair, hunpaired⟩
    refine ⟨hunpaired, fun hold => ?_⟩
    -- with an error attached, all members would have stayed
    have herror : v.decl.hasErrors = true := Diagnostics.hasErrors_iff.mpr ⟨_, hold, rfl⟩
    have hkept : (v.decl.hasErrors || v.isCovered) = true := by rw [herror, Bool.true_or]
    rw [Visit.processed, isUnpaired_processed_of_kept hkept h.handles] at hunpaired
    obtain ⟨r, hr, hvtable, hfield⟩ := hasPair_iff.mp hpair
    obtain ⟨r', hr', hne⟩ := isUnpaired_iff.mp hunpaired
    obtain rfl : r = r' := Kind.record.inj (hr.symm.trans hr')
    exact hne (hvtable.trans hfield.symm)

theorem Decl.PairChecked.isSound {d : Decl} (h : d.PairChecked) (hclean : d.hasErrors = false) :
    d.IsSound := by
  refine ⟨hclean, ?_, h.handles⟩
  rw [← Bool.not_eq_true]
  intro hunpaired
  have herror : d.hasErrors = true :=
    Diagnostics.hasErrors_iff.mpr ⟨_, h.reported hunpaired, rfl⟩
  rw [hclean] at herror
  exact absurd herror Bool.false_ne_true

variable {default : CallingConvention} {L N : Library}

theorem Settles.pairChecked {above : List Decl} {d d' : Decl}
    (h : Settles default L N above d d') : d'.PairChecked := by
  refine ⟨h.handlesSettled, fun hunpaired => ?_⟩
  obtain ⟨r, hr, hne⟩ := Decl.isUnpaired_iff.mp hunpaired
  obtain ⟨parts, _, rfl⟩ := h.exists_parts
  have hbefore : (d.withSettled (parts.map SettledPart.result)).kind = .record r :=
    Context.kind_of_repairedKind nofun nofun hr
  have hissue : Issue.unpairedVTable
      ∈ (Context.mk L above).issues default (d.withSettled (parts.map SettledPart.result)) := by
    refine List.mem_append_right _ ?_
    rw [Context.kindIssues, hbefore]
    exact Context.unpairedVTable_mem_recordIssues hne
  rw [Context.diagnostics_settle]
  exact Diagnostics.records_attachAll (List.mem_append_left _ hissue) _

theorem pairChecked_verify (default : CallingConvention) (L : Library) :
    ∀ d ∈ (verify default L).decls, d.PairChecked := by
  intro d hd
  obtain ⟨v', hv', rfl⟩ := Library.mem_decls_iff.mp hd
  obtain ⟨v, _, hcounter | henclosure⟩ := mem_visits_verify default L v' hv'
  · exact hcounter.settles.pairChecked
  · cases henclosure
    exact ⟨rfl, nofun⟩

namespace Library

variable (h : ∀ d ∈ L.decls, d.PairChecked)
include h

theorem countP_isFlagged : L.visits.countP Visit.isFlagged = L.visits.countP Visit.losesHalf :=
  List.countP_congr fun v hv => by
    rw [(h v.decl (mem_decls_iff.mpr ⟨v, hv, rfl⟩)).isFlagged_eq]

/-- Where there is no error, extraction takes nothing away. -/
theorem countP_losesHalf_of_clean (hclean : ∀ d ∈ L.decls, d.hasErrors = false) :
    L.visits.countP Visit.losesHalf = 0 := by
  have hsound : ∀ d ∈ L.decls, d.IsSound := fun d hd => (h d hd).isSound (hclean d hd)
  refine List.countP_eq_zero.mpr fun v hv => ?_
  rw [Visit.losesHalf, processed_of_isSound hsound hv,
    (hsound v.decl (mem_decls_iff.mpr ⟨v, hv, rfl⟩)).paired, Bool.and_false]
  exact Bool.false_ne_true

/-- After verification there are errors after extraction just if there were some before. -/
theorem errorTotal_extraction_eq_zero_iff (state : List Decl) :
    let X := (extraction.run L state).1
    Decl.errorTotal (X.roots ++ X.broken) = 0 ↔ Decl.errorTotal (L.roots ++ L.broken) = 0 := by
  intro X
  rw [errorTotal_extraction, countP_isFlagged h, Nat.add_eq_zero_iff, and_iff_left_iff_imp]
  intro hnone
  rw [Decl.errorTotal_append, Nat.add_eq_zero_iff] at hnone
  exact countP_losesHalf_of_clean h (Decl.hasErrors_of_errorTotal hnone.1)

end Library

/-! ## Pipelines -/

/-- What a run comes to is decided by the errors in the trees and in the broken declarations. -/
theorem Pipeline.run_outcome (p : Pipeline) (L : Library) :
    let M := (PassInstance.runAll L p.passes).1
    let count := Decl.errorTotal (M.roots ++ M.broken)
    (p.run L).1 = if p.abortOnErrors = true ∧ 0 < count then .error (.errorsRemain count M)
      else .ok M := by
  intro M count
  rw [show count = M.totalErrorCount from M.totalErrorCount_eq.symm, Pipeline.run]
  simp [M]

/-- **Whether a pipeline fails does not depend on extraction.**  A pipeline that aborts fails just
if the pipeline that does not abort returns a library with errors, in the trees or among the broken
declarations, and then with that library and with the number of errors.  With extraction as without,
there are errors or there are none.  Extraction adds one for each record that had both vtable and
vtable pointer field after verification and has exactly one of them in the form in which the hook is
given it; no other declaration gets a diagnostic. -/
theorem Pipeline.failure_ignores_extraction (config : VerifyConfig) (L : Library) :
    let outcome (abort extract : Bool) := ((Pipeline.ofConfig ⟨abort, extract, config⟩).run L).1
    let errors (M : Library) := Decl.errorTotal (M.roots ++ M.broken)
    ∃ V X, outcome false false = .ok V ∧ outcome false true = .ok X ∧
      outcome true false
        = (if 0 < errors V then .error (.errorsRemain (errors V) V) else .ok V) ∧
      outcome true true
        = (if 0 < errors X then .error (.errorsRemain (errors X) X) else .ok X) ∧
      (0 < errors X ↔ 0 < errors V) ∧
      errors X = errors V + V.visits.countP Visit.losesHalf ∧
      ∀ v ∈ V.visits,
        (v.losesHalf = true ↔
          (∃ r, v.decl.kind = .record r ∧ r.vtable.isSome = true ∧ r.vtableField.isSome = true) ∧
          ∃ r, v.processed.kind = .record r ∧ r.vtable.isSome ≠ r.vtableField.isSome) ∧
        (∀ s, (extraction.rebuild ⟨V, v.above⟩ v.decl s).1.1 = v.processed) ∧
        v.rewritten.diagnostics = v.decl.diagnostics
          ++ if v.losesHalf then [Issue.unpairedVTable.diagnostic] else [] := by
  intro outcome errors
  let V := verify config.defaultConvention (looseWrapping.run L 0).1
  let X := (extraction.run V []).1
  have hchecked : ∀ d ∈ V.decls, d.PairChecked := pairChecked_verify config.defaultConvention _
  have herrors : errors X = errors V + V.visits.countP Visit.losesHalf := by
    rw [← Library.countP_isFlagged hchecked]
    exact errorTotal_extraction V []
  have hsame : 0 < errors X ↔ 0 < errors V := by
    rw [Nat.pos_iff_ne_zero, Nat.pos_iff_ne_zero]
    exact not_congr (Library.errorTotal_extraction_eq_zero_iff hchecked [])
  have hoff : ∀ abort, outcome abort false = if abort = true ∧ 0 < errors V then
      .error (.errorsRemain (errors V) V) else .ok V :=
    fun abort => run_outcome (.ofConfig ⟨abort, false, config⟩) L
  have hon : ∀ abort, outcome abort true = if abort = true ∧ 0 < errors X then
      .error (.errorsRemain (errors X) X) else .ok X :=
    fun abort => run_outcome (.ofConfig ⟨abort, true, config⟩) L
  refine ⟨V, X, ?_, ?_, ?_, ?_, hsame, herrors, fun v hv => ⟨?_, ?_, ?_⟩⟩
  · rw [hoff, if_neg (by simp)]
  · rw [hon, if_neg (by simp)]
  · rw [hoff]
    simp only [true_and]
  · rw [hon]
    simp only [true_and]
  · rw [Visit.losesHalf, Bool.and_eq_true, Decl.hasPair_iff, Decl.isUnpaired_iff]
  · exact Pass.rebuild_extraction V v
  · rw [Visit.diagnostics_rewritten,
      (hchecked v.decl (Library.mem_decls_iff.mpr ⟨v, hv, rfl⟩)).isFlagged_eq]

end NativeApi
