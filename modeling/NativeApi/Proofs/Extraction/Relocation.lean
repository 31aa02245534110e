import NativeApi.Proofs.Extraction.Emission

/-!
# Where extraction puts declarations

Extraction loses nothing.  A declaration with nothing broken on its way up stays below what it was
below; any other is moved together with the innermost broken declaration on its way up, which
becomes a root.  So what is found afterwards, in the trees and among the extracted declarations, is
what was there before, each declaration once and in its new place.

* `Visit.company`: what is around a declaration before and after, the innermost first.
* `Visit.relocated`: a declaration in its new place.
* `Decl.perm_visits_remnant`: the new places of a subtree.
* `Library.perm_visits_extraction`: the new places of a library.
-/

namespace NativeApi

/-! ## New places -/

namespace Visit

/-- The visits on a way up, up to the first one that is broken. -/
def untilBroken : List Visit → List Visit
  | [] => []
  | w :: rest => w :: if w.isBroken then [] else untilBroken rest

/-- The enclosing declarations that stay around a declaration, in their old places. -/
def company (v : Visit) : List Visit := if v.isBroken then [] else untilBroken (chain v.above)

/-- A declaration as a run leaves it, in the place where the run leaves it. -/
def relocated (v : Visit) : Visit := ⟨v.company.map rewritten, v.rewritten⟩

theorem relocated_broken {v : Visit} (h : v.isBroken = true) : v.relocated = ⟨[], v.rewritten⟩ := by
  rw [relocated, company, if_pos h]
  rfl

theorem relocated_other {v : Visit} (h : v.isBroken = false) :
    v.relocated = ⟨(untilBroken (chain v.above)).map rewritten, v.rewritten⟩ := by
  rw [relocated, company, if_neg (by rw [h]; exact Bool.false_ne_true)]

/-- What is around the children of a declaration afterwards: the declaration, and what is around it
afterwards. -/
theorem untilBroken_chain_cons (above : List Decl) (d : Decl) :
    (untilBroken (chain (d :: above))).map rewritten
      = (Visit.mk above d).rewritten :: (Visit.mk above d).relocated.above := by
  rw [chain, untilBroken, List.map_cons, relocated, company]

end Visit

/-! ## The walk afterwards -/

namespace Decl

theorem perm_visits_remnants {isCovered : Bool} {above above' ds : List Decl}
    (h : ∀ d ∈ ds, (((d.processed isCovered).remnant isCovered).flatMap (visits above')
        ++ (d.extracted above).flatMap (visits [])).Perm
      ((d.visits above).map Visit.relocated)) :
    ((remnants isCovered ds).flatMap (visits above')
        ++ (ds.flatMap (extracted above)).flatMap (visits [])).Perm
      ((ds.flatMap (visits above)).map Visit.relocated) := by
  induction ds with
  | nil => exact .refl _
  | cons d rest ih =>
    obtain ⟨hd, hrest⟩ := List.forall_mem_cons.mp h
    have hrest := ih hrest
    rw [remnants] at hrest
    rw [remnants, List.flatMap_cons, List.flatMap_cons, List.flatMap_cons, List.flatMap_append,
      List.flatMap_append, List.map_append]
    refine List.Perm.trans ?_ (hd.append hrest)
    rw [List.append_assoc, List.append_assoc]
    refine List.Perm.append_left _ ?_
    rw [← List.append_assoc, ← List.append_assoc]
    exact List.perm_append_comm.append_right _

/-- **Every declaration of a subtree is found once**, in its new place. -/
theorem perm_visits_remnant (above : List Decl) (d : Decl) :
    (((Visit.mk above d).processed.remnant (above.any hasErrors)).flatMap
          (visits ((Visit.untilBroken (Visit.chain above)).map Visit.rewritten))
        ++ (d.extracted above).flatMap (visits [])).Perm
      ((d.visits above).map Visit.relocated) := by
  induction d using induction generalizing above with
  | step d ih =>
    let v : Visit := ⟨above, d⟩
    have hchildren := perm_visits_remnants fun c hc => ih c hc (d :: above)
    rw [Visit.untilBroken_chain_cons] at hchildren
    have hself (above' : List Decl) : v.rewritten.visits above' = ⟨above', v.rewritten⟩ ::
        (remnants ((d :: above).any hasErrors) d.children).flatMap
          (visits (v.rewritten :: above')) := by
      rw [visits_eq, Visit.children_rewritten]
      rfl
    have hremnant := v.remnant_processed
    rw [show v.isCovered = above.any hasErrors from rfl] at hremnant
    rw [hremnant, extracted_eq, visits_eq, List.map_cons, List.flatMap_append]
    by_cases hbroken : v.isBroken = true
    · rw [if_pos hbroken, if_pos hbroken, List.flatMap_nil, List.nil_append, List.flatMap_singleton,
        hself, Visit.relocated_broken hbroken]
      rw [Visit.relocated_broken hbroken] at hchildren
      refine List.perm_middle.trans (.cons _ ?_)
      exact List.perm_append_comm.trans hchildren
    · rw [if_neg hbroken, if_neg hbroken, List.flatMap_singleton, List.flatMap_nil, List.append_nil,
        hself]
      rw [Bool.not_eq_true] at hbroken
      rw [Visit.relocated_other hbroken] at hchildren ⊢
      rw [List.cons_append]
      exact hchildren.cons _

end Decl

namespace Library

theorem perm_visits_extracted (L : Library) :
    (visitsOf (Decl.remnants false L.roots) ++ visitsOf L.extracted).Perm
      (L.visits.map Visit.relocated) :=
  Decl.perm_visits_remnants fun d _ => d.perm_visits_remnant []

/-- **Every declaration of a library is found once**, in its new place. -/
theorem perm_visits_extraction (L : Library) (state : List Decl) :
    let X := (extraction.run L state).1
    (X.visits ++ X.brokenVisits).Perm (L.visits.map Visit.relocated ++ L.brokenVisits) := by
  intro X
  have hvisits : X.visits = visitsOf (Decl.remnants false L.roots) := by
    show (extraction.run L state).1.visits = _
    rw [run_extraction]
    rfl
  have hbroken : X.brokenVisits = L.brokenVisits ++ visitsOf L.extracted := by
    show (extraction.run L state).1.brokenVisits = _
    rw [run_extraction]
    exact List.flatMap_append
  rw [hvisits, hbroken]
  refine List.Perm.trans ?_ (L.perm_visits_extracted.append_right _)
  rw [List.append_assoc]
  exact List.perm_append_comm.append_left _

theorem exists_rewritten_of_mem {L : Library} {state : List Decl} {d : Decl}
    (hd : d ∈ (extraction.run L state).1.decls) : ∃ v ∈ L.visits, v.rewritten = d := by
  rw [run_extraction] at hd
  obtain ⟨w, hw, rfl⟩ := mem_decls_iff.mp hd
  obtain ⟨v, hv, rfl⟩ := List.mem_map.mp
    (L.perm_visits_extracted.mem_iff.mp (List.mem_append_left _ hw))
  exact ⟨v, hv, rfl⟩

end Library

end NativeApi
