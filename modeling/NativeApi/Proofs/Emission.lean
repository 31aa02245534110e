import Mathlib.Data.List.Basic
import Mathlib.Data.List.Flatten
import NativeApi.Emission
import NativeApi.Proofs.Library.Lookup

/-!
# Emission and the walk

A code generator is told about a part of what the walk of a library visits: the open visits, those
on whose way down no declaration has an error.  A declaration with an error closes every visit
below it, so emission can leave its subtree and count it (`Emission.ofVisits_closed`).

* `Visit.isOpen`: neither the visited declaration nor anything around it has an error.
* `Emission.ofVisits`: what is told about some visits.
* `Library.emission_eq`: the emission of a library is what is told about the visits of its walk.
* `Library.emission_agrees_with_walk`: the calls and the counts, one by one.
-/

namespace NativeApi

/-! ## Open visits -/

/-- Whether neither the visited declaration nor anything around it has an error. -/
def Visit.isOpen (v : Visit) : Bool := (v.decl :: v.above).all Decl.isEmittable

/-- Whatever is around a declaration is around everything inside it. -/
theorem Decl.isSuffix_of_mem_visits {above : List Decl} {d : Decl} {v : Visit}
    (hv : v ∈ d.visits above) : d :: above <:+ v.decl :: v.above := by
  induction d using induction generalizing above with
  | step d ih =>
    rcases mem_visits.mp hv with rfl | ⟨c, hc, hv⟩
    · exact List.suffix_refl _
    · exact (List.suffix_cons c (d :: above)).trans (ih c hc hv)

theorem Decl.isOpen_eq_false {above : List Decl} {d : Decl} (hd : d.isEmittable = false)
    {v : Visit} (hv : v ∈ d.visits above) : v.isOpen = false := by
  have hmem : d ∈ v.decl :: v.above := (isSuffix_of_mem_visits hv).mem (List.mem_cons_self ..)
  exact List.all_eq_false.mpr ⟨d, hmem, by rw [hd]; exact Bool.false_ne_true⟩

theorem Visit.severity_ne_of_isOpen {v : Visit} (h : v.isOpen = true) :
    ∀ a ∈ v.diagnostics, a.diagnostic.severity ≠ .error := by
  intro a ha herror
  obtain ⟨diagnostic, hmem, rfl⟩ := List.mem_map.mp ha
  have hemittable : v.decl.isEmittable = true := List.all_eq_true.mp h _ (List.mem_cons_self ..)
  have herrors : v.decl.hasErrors = true := Diagnostics.hasErrors_iff.mpr ⟨diagnostic, hmem, herror⟩
  rw [Decl.isEmittable, herrors] at hemittable
  exact absurd hemittable Bool.false_ne_true

/-! ## Emissions of visits -/

/-- The visit that a code generator is told to generate code for. -/
def EmissionEvent.emit? : EmissionEvent → Option Visit
  | emit v => some v
  | report _ => none

def EmissionEvent.report? : EmissionEvent → Option AttachedDiagnostic
  | emit _ => none
  | report a => some a

namespace Emission

def emits (e : Emission) : List Visit := e.events.filterMap EmissionEvent.emit?

def reports (e : Emission) : List AttachedDiagnostic := e.events.filterMap EmissionEvent.report?

/-- What is told about a visit, if it is open. -/
def eventsOf (v : Visit) : List EmissionEvent := .emit v :: v.diagnostics.map .report

/-- What is told about some visits: the open ones with their diagnostics, and how many are not. -/
def ofVisits (vs : List Visit) : Emission where
  events := (vs.filter Visit.isOpen).flatMap eventsOf
  emitted := (vs.filter Visit.isOpen).length
  skipped := (vs.filter (!·.isOpen)).length
  reported := ((vs.filter Visit.isOpen).flatMap Visit.diagnostics).length

theorem ofVisits_append (vs ws : List Visit) :
    ofVisits (vs ++ ws) = ofVisits vs ++ ofVisits ws := by
  show ofVisits (vs ++ ws) = append (ofVisits vs) (ofVisits ws)
  simp only [ofVisits, append, List.filter_append, List.flatMap_append, List.length_append]

theorem ofVisits_open {v : Visit} (h : v.isOpen = true) : ofVisits [v] = one v := by
  have hreports : v.diagnostics.filter (fun a => a.diagnostic.severity ≠ .error) = v.diagnostics :=
    List.filter_eq_self.mpr fun a ha => by simpa using v.severity_ne_of_isOpen h a ha
  have hself : [v].filter Visit.isOpen = [v] := by simp [h]
  have hclosed : [v].filter (!·.isOpen) = [] := by simp [h]
  unfold ofVisits one
  rw [hself, hclosed, hreports, List.flatMap_singleton, List.flatMap_singleton]
  rfl

theorem ofVisits_closed {vs : List Visit} (h : ∀ v ∈ vs, v.isOpen = false) :
    ofVisits vs = skip vs.length := by
  have hnone : vs.filter Visit.isOpen = [] :=
    List.filter_eq_nil_iff.mpr fun v hv => by rw [h v hv]; exact Bool.false_ne_true
  have hall : vs.filter (!·.isOpen) = vs :=
    List.filter_eq_self.mpr fun v hv => by rw [h v hv]; rfl
  rw [ofVisits, hnone, hall]
  rfl

theorem emits_ofVisits (vs : List Visit) : (ofVisits vs).emits = vs.filter Visit.isOpen := by
  have hone : ∀ v, (eventsOf v).filterMap EmissionEvent.emit? = [v] := by
    intro v
    rw [eventsOf, List.filterMap_cons_some (f := EmissionEvent.emit?) rfl, List.filterMap_map]
    exact congrArg (v :: ·) (List.filterMap_eq_nil_iff.mpr fun _ _ => rfl)
  rw [emits, ofVisits, List.filterMap_flatMap]
  simp only [hone, List.flatMap_singleton']

theorem reports_ofVisits (vs : List Visit) :
    (ofVisits vs).reports = (vs.filter Visit.isOpen).flatMap Visit.diagnostics := by
  have hone : ∀ v, (eventsOf v).filterMap EmissionEvent.report? = v.diagnostics := by
    intro v
    rw [eventsOf, List.filterMap_cons_none rfl, List.filterMap_map]
    exact List.filterMap_some
  rw [reports, ofVisits, List.filterMap_flatMap]
  simp only [hone]

end Emission

/-! ## Emission of trees -/

namespace Decl

theorem length_visits (above : List Decl) (d : Decl) : (d.visits above).length = d.size := by
  rw [size, ← map_decl_visits above d, List.length_map]

theorem emissionOfAll_eq {above ds : List Decl}
    (h : ∀ d ∈ ds, d.emission above = Emission.ofVisits (d.visits above)) :
    emissionOfAll above ds = Emission.ofVisits (ds.flatMap (visits above)) := by
  induction ds with
  | nil =>
    rw [emissionOfAll]
    rfl
  | cons d rest ih =>
    rw [emissionOfAll, List.flatMap_cons, Emission.ofVisits_append, h d (List.mem_cons_self ..),
      ih fun e he => h e (List.mem_cons_of_mem d he)]

theorem emission_eq {above : List Decl} (habove : above.all isEmittable = true) (d : Decl) :
    d.emission above = Emission.ofVisits (d.visits above) := by
  induction d using induction generalizing above with
  | step d ih =>
    rw [emission]
    split
    · next hd =>
      have hbelow : (d :: above).all isEmittable = true := by rw [List.all_cons, hd, habove]; rfl
      have hopen : Visit.isOpen ⟨above, d⟩ = true := hbelow
      rw [emissionOfAll_eq fun c hc => ih c hc hbelow, ← Emission.ofVisits_open hopen,
        ← Emission.ofVisits_append, visits_eq]
      rfl
    · next hd =>
      rw [← d.length_visits above]
      exact (Emission.ofVisits_closed fun v hv =>
        isOpen_eq_false (Bool.not_eq_true _ ▸ hd) hv).symm

end Decl

/-! ## Emission of libraries -/

namespace Library

/-- **The emission of a library tells about the visits of its walk.** -/
theorem emission_eq (L : Library) : L.emission = Emission.ofVisits L.visits := by
  refine Decl.emissionOfAll_eq fun d _ => ?_
  exact d.emission_eq rfl

/-- **Emission agrees with the walk and with the diagnostics of the library.**  Code is generated
for the open visits, in the order of the walk.  Their part of the diagnostics is shown, in the order
in which the library lists it.  The counts are those of the calls, and what is emitted and what is
withheld make up the walk. -/
theorem emission_agrees_with_walk (L : Library) :
    L.emission.emits = L.visits.filter Visit.isOpen ∧
    L.emission.reports = (L.visits.filter Visit.isOpen).flatMap Visit.diagnostics ∧
    L.emission.reports.Sublist L.diagnostics ∧
    L.emission.emitted = L.emission.emits.length ∧
    L.emission.reported = L.emission.reports.length ∧
    L.emission.emitted + L.emission.skipped = L.visits.length := by
  rw [L.emission_eq, Emission.emits_ofVisits, Emission.reports_ofVisits]
  refine ⟨rfl, rfl, ?_, rfl, rfl, ?_⟩
  · rw [diagnostics, List.flatMap_append]
    exact (List.filter_sublist.flatMap _).trans (List.sublist_append_left _ _)
  · exact (List.length_eq_length_filter_add Visit.isOpen).symm

end Library

end NativeApi
