import NativeApi.Pipeline
import NativeApi.Proofs.Conservation.Moves
import NativeApi.Proofs.Grouping
import NativeApi.Proofs.Verify.Settling

/-!
# Conservation by each pass

Every built-in pass makes a library evolve (`PassInstance.evolves_run`): files and the next id stay
or grow, broken declarations are only added, and the declarations of trees and broken list are
conserved.

For each pass this comes down to one call of its hook.  The two places where something happens
outside the walk over the trees are the loose declarations, which are regrouped at the end, and
the second walk of verification.
-/

namespace NativeApi

/-! ## Evolution of a library -/

/-- Every declaration of a library, the broken ones included. -/
def Library.inventory (L : Library) : List Decl := (L.roots ++ L.broken).flatMap Decl.subtree

/-- What passes may do to a library. -/
structure Library.Evolves (L M : Library) : Prop where
  files : M.files = L.files
  broken : L.broken <+: M.broken
  nextId : L.nextId ≤ M.nextId
  conserves : Conserves (max L.nextId 1) (Decl.census (L.roots ++ L.broken)) (max M.nextId 1)
    (Decl.census (M.roots ++ M.broken))

namespace Library.Evolves

theorem refl (L : Library) : L.Evolves L := ⟨rfl, List.prefix_refl _, Nat.le_refl _, .refl⟩

theorem trans {L M N : Library} (h : L.Evolves M) (h' : M.Evolves N) : L.Evolves N :=
  ⟨h'.files.trans h.files, h.broken.trans h'.broken, Nat.le_trans h.nextId h'.nextId,
    h.conserves.trans h'.conserves⟩

end Library.Evolves

theorem Library.TreeIdsSound.of_conserves {L M : Library} (h : L.TreeIdsSound)
    (hconserves : Conserves (max L.nextId 1) (Decl.census L.roots) (max M.nextId 1)
      (Decl.census M.roots)) (hnext : L.nextId ≤ M.nextId) : M.TreeIdsSound := by
  have hbelow (d : Decl) (hd : d ∈ L.decls) : d.id < L.nextId :=
    h.below d.id (mem_ids_iff.mpr ⟨d, hd, rfl⟩)
  have hdistinct := (hconserves.ids h.distinct fun d hd =>
    Nat.lt_of_lt_of_le (hbelow d hd) (Nat.le_max_left _ _)).1
  refine ⟨hdistinct, fun id hid => ?_⟩
  obtain ⟨d', hd', rfl⟩ := mem_ids_iff.mp hid
  rcases hconserves.origin hd' with ⟨d, hd, hcontinues⟩ | ⟨_, hlo, hhi⟩
  · rw [hcontinues.id]
    exact Nat.lt_of_lt_of_le (hbelow d hd) hnext
  · -- a new id was handed out, and that was not 0
    have hone : 1 ≤ d'.id := Nat.le_trans (Nat.le_max_right _ _) hlo
    exact (lt_max_iff.mp hhi).resolve_right (Nat.not_lt.mpr hone)

section

variable {σ : Type} {p : Pass σ}

/-- The trees before a walk are conserved in the trees after it and what the pass put aside. -/
theorem Pass.conserves_walk (aside : σ → List Decl) (L : Library) (state : σ)
    (hbefore : aside (p.before L state) = [])
    (htype : ∀ ctx type s, conservation.BalancedFrom aside 0 0 s (p.type? ctx type s).2)
    (hdecl : ∀ ctx d s, conservation.BalancedFrom aside (Decl.census [d])
      (Decl.census ((p.decl ctx d s).1.decls d)) s (p.decl ctx d s).2) :
    let done := p.applyAll (.root L) L.roots ⟨.startingAt L.nextId, p.before L state⟩
    Conserves (max L.nextId 1) (Decl.census L.roots) (max (max done.2.ids.next L.nextId) 1)
      (Decl.census (done.1.flatMap Prod.snd) + Decl.census (aside done.2.state)) := by
  intro done
  have hrun : Conserves (max L.nextId 1) (Decl.census L.roots) done.2.ids.next
      (Decl.census (done.1.flatMap Prod.snd) + Decl.census (aside done.2.state)) := by
    have := Ledger.balanced_applyAll htype hdecl (.root L) L.roots
      ⟨.startingAt L.nextId, p.before L state⟩
    rw [Ledger.BalancedFrom, hbefore, Decl.census_nil, add_zero] at this
    exact this
  have hle := hrun.le
  have hnext : max (max done.2.ids.next L.nextId) 1 = done.2.ids.next := by
    have h1 := Nat.le_trans (Nat.le_max_left ..) hle
    have h2 := Nat.le_trans (Nat.le_max_right ..) hle
    rw [Nat.max_eq_left h1, Nat.max_eq_left h2]
  rwa [hnext]

/-- **The walk of a conserving pass.**  What the pass put aside in its state joins the broken
declarations. -/
theorem Pass.evolves_walk (aside : σ → List Decl) (L : Library) (state : σ)
    (hbefore : aside (p.before L state) = [])
    (htype : ∀ ctx type s, conservation.BalancedFrom aside 0 0 s (p.type? ctx type s).2)
    (hdecl : ∀ ctx d s, conservation.BalancedFrom aside (Decl.census [d])
      (Decl.census ((p.decl ctx d s).1.decls d)) s (p.decl ctx d s).2) :
    let done := p.applyAll (.root L) L.roots ⟨.startingAt L.nextId, p.before L state⟩
    L.Evolves (((L.withRoots (done.1.flatMap Prod.snd)).withNextId done.2.ids.next).withBroken
      (L.broken ++ aside done.2.state)) := by
  intro done
  refine ⟨rfl, List.prefix_append _ _, Nat.le_max_right _ _, ?_⟩
  change Conserves _ (Decl.census (L.roots ++ L.broken)) (max (max done.2.ids.next L.nextId) 1)
    (Decl.census (done.1.flatMap Prod.snd ++ (L.broken ++ aside done.2.state)))
  rw [Decl.census_append, Decl.census_append, Decl.census_append,
    add_comm (Decl.census L.broken), ← add_assoc]
  exact (Pass.conserves_walk aside L state hbefore htype hdecl).frame _

theorem Pass.conserves_trees (L : Library) (state : σ)
    (htype : ∀ ctx type s, (p.type? ctx type s).2.ids = s.ids)
    (hdecl : ∀ ctx d s, Conserves s.ids.next (Decl.census [d]) (p.decl ctx d s).2.ids.next
      (Decl.census ((p.decl ctx d s).1.decls d))) :
    let done := p.applyAll (.root L) L.roots ⟨.startingAt L.nextId, p.before L state⟩
    Conserves (max L.nextId 1) (Decl.census L.roots) (max (max done.2.ids.next L.nextId) 1)
      (Decl.census (done.1.flatMap Prod.snd)) := by
  intro done
  have := conserves_walk (p := p) (fun _ => []) L state rfl
    (fun ctx type s => by
      rw [Ledger.BalancedFrom, htype]
      exact conservation.refl _ _)
    (fun ctx d s => by
      rw [Ledger.BalancedFrom, Decl.census_nil, add_zero, add_zero]
      exact hdecl ctx d s)
  dsimp only at this
  rwa [Decl.census_nil, add_zero] at this

/-- **The walk of a conserving pass** that puts nothing aside. -/
theorem Pass.evolves_walk_of_aside_nil (L : Library) (state : σ)
    (htype : ∀ ctx type s, (p.type? ctx type s).2.ids = s.ids)
    (hdecl : ∀ ctx d s, Conserves s.ids.next (Decl.census [d]) (p.decl ctx d s).2.ids.next
      (Decl.census ((p.decl ctx d s).1.decls d))) :
    let done := p.applyAll (.root L) L.roots ⟨.startingAt L.nextId, p.before L state⟩
    L.Evolves ((L.withRoots (done.1.flatMap Prod.snd)).withNextId done.2.ids.next) := by
  intro done
  refine ⟨rfl, List.prefix_refl _, Nat.le_max_right _ _, ?_⟩
  rw [Decl.census_append, Decl.census_append]
  exact (Pass.conserves_trees L state htype hdecl).frame _

end

/-! ## Verification -/

theorem conserves_of_continues {n : DeclId} {d d' : Decl} (h : d.Continues d')
    (hchildren : d'.children = d.children) :
    Conserves n (Decl.census [d]) n (Decl.census [d']) := by
  rw [Decl.census_singleton d, Decl.census_singleton d', hchildren]
  exact (Conserves.of_continues h).frame _

theorem conserves_verification_decl (default : CallingConvention) (ctx : Context) (d : Decl)
    (s : Progress Nat) :
    Conserves s.ids.next (Decl.census [d]) ((verification default).decl ctx d s).2.ids.next
      (Decl.census (((verification default).decl ctx d s).1.decls d)) := by
  have hcheck : Conserves s.ids.next (Decl.census [d]) s.ids.next
      (Decl.census [ctx.check default d]) :=
    conserves_of_continues (ctx.continues_check default d) (ctx.children_check default d)
  rw [verification_decl]
  dsimp only
  split
  · change Conserves _ _ (s.ids.next + 1)
      (Decl.census [enumContainer s.ids.next (ctx.check default d)])
    rw [Decl.census_singleton (enumContainer s.ids.next (ctx.check default d))]
    exact .create (d := enumContainer s.ids.next (ctx.check default d)) hcheck rfl rfl
  · exact hcheck

theorem conserves_danglingReferences_decl (ctx : Context) (d : Decl) (s : Progress Unit) :
    Conserves s.ids.next (Decl.census [d]) (danglingReferences.decl ctx d s).2.ids.next
      (Decl.census ((danglingReferences.decl ctx d s).1.decls d)) := by
  rw [danglingReferences_decl]
  exact conserves_of_continues ⟨rfl, rfl, Issue.isPrefix_attachAll _ _⟩ rfl

theorem evolves_danglingReferences (L : Library) : L.Evolves (danglingReferences.run L ()).1 :=
  Pass.evolves_walk_of_aside_nil (p := danglingReferences) L () (fun _ _ _ => rfl)
    conserves_danglingReferences_decl

theorem evolves_verification (default : CallingConvention) (L : Library) (state : Nat) :
    L.Evolves ((verification default).run L state).1 :=
  (Pass.evolves_walk_of_aside_nil (p := verification default) L state (fun _ _ _ => rfl)
    (conserves_verification_decl default)).trans (evolves_danglingReferences _)

theorem conserves_verify (default : CallingConvention) (L : Library) :
    Conserves (max L.nextId 1) (Decl.census L.roots) (max (verify default L).nextId 1)
      (Decl.census (verify default L).roots) :=
  (Pass.conserves_trees (p := verification default) L 0 (fun _ _ _ => rfl)
    (conserves_verification_decl default)).trans
    (Pass.conserves_trees (p := danglingReferences) (L.checked default) () (fun _ _ _ => rfl)
      conserves_danglingReferences_decl)

/-! ## Extraction -/

theorem Decl.continues_checkPairing (d : Decl) : d.Continues d.checkPairing := by
  unfold checkPairing
  split
  · exact ⟨rfl, rfl, Diagnostics.isPrefix_ensure _ _⟩
  · exact .refl d

theorem Decl.children_checkPairing (d : Decl) : d.checkPairing.children = d.children := by
  unfold checkPairing
  split <;> rfl

theorem extraction_decl (ctx : Context) (d : Decl) (s : Progress (List Decl)) :
    extraction.decl ctx d s =
      if d.checkPairing.hasErrors && !ctx.above.any Decl.hasErrors then
        (.delete, ⟨s.ids, s.state ++ [d.checkPairing]⟩)
      else (.replace d.checkPairing, s) := by
  simp only [extraction]
  split
  · rfl
  · rfl

theorem evolves_extraction (L : Library) (state : List Decl) :
    L.Evolves (extraction.run L state).1 := by
  have := Pass.evolves_walk (p := extraction) (fun extracted => extracted) L state rfl
    (fun _ _ _ => conservation.refl _ _) fun ctx d s => by
      have hcheck : conservation.BalancedFrom (fun extracted => extracted) (Decl.census [d])
          (Decl.census [d.checkPairing]) s s :=
        (conserves_of_continues d.continues_checkPairing d.children_checkPairing).frame _
      rw [extraction_decl]
      split
      · -- what leaves the tree is counted among what was put aside
        rw [Ledger.BalancedFrom] at hcheck ⊢
        change Conserves _ _ _ (Decl.census [] + Decl.census (s.state ++ [d.checkPairing]))
        rw [Decl.census_nil, zero_add, Decl.census_append, add_comm (Decl.census s.state)]
        exact hcheck
      · exact hcheck
  exact this

/-! ## Typedefs -/

theorem evolves_typedefStripping (L : Library) :
    L.Evolves (typedefStripping.run L ()).1 :=
  Pass.evolves_walk_of_aside_nil (p := typedefStripping) L ()
    (fun ctx type s => by cases type <;> rfl)
    fun ctx d s => by
      rw [typedefStripping_decl]
      dsimp only
      split
      · next htypedef =>
        have hform := Decl.isSome_typedef?_iff.mp htypedef
        obtain ⟨type, hkind⟩ := Kind.form_eq_typedef_iff.mp hform
        have hleaf : d.children = [] := by rw [Decl.children, hkind]; rfl
        rw [Decl.census_singleton, hleaf]
        exact Conserves.drop .refl hform
      · exact .refl

/-! ## Loose declarations -/

/-- Containers around groups: one new id for each group. -/
theorem conserves_looseContainers (L : Library) (first : DeclId)
    (groups : List (LooseKey × List Decl)) :
    Conserves first (Decl.census (groups.flatMap Prod.snd)) (first + groups.length)
      (Decl.census (L.looseContainers first groups)) := by
  induction groups generalizing first with
  | nil => exact .refl
  | cons group groups ih =>
    obtain ⟨key, members⟩ := group
    rw [List.flatMap_cons, Library.looseContainers_cons, Decl.census_append, Decl.census_cons,
      Decl.census_singleton, List.length_cons, Nat.add_comm groups.length, ← Nat.add_assoc]
    have hone : Conserves first (Decl.census members) (first + 1)
        ({L.looseContainer first key members} + Decl.census members) :=
      .create .refl rfl rfl
    refine (hone.frame _).trans ?_
    have := (ih (first + 1)).frame
      ({L.looseContainer first key members} + Decl.census members)
    rwa [add_comm (Decl.census (groups.flatMap Prod.snd)),
      add_comm (Decl.census (L.looseContainers (first + 1) groups))] at this

theorem conserves_wrapLoose (L : Library) :
    Conserves (max L.nextId 1) (Decl.census L.roots) (max L.wrapLoose.nextId 1)
      (Decl.census L.wrapLoose.roots) := by
  rw [Library.wrapLoose]
  split
  · exact .refl
  · next groups hgroups =>
    have hfirst : (IdSource.startingAt L.nextId).next = max L.nextId 1 := rfl
    have hperm := perm_filter_append_looseGroups L.roots
    have hnext : max (max (max L.nextId 1 + (looseGroups L.roots).length) L.nextId) 1
        = max L.nextId 1 + (looseGroups L.roots).length := by
      rw [Nat.max_eq_left (Nat.le_trans (Nat.le_max_left ..) (Nat.le_add_right ..)),
        Nat.max_eq_left (Nat.le_trans (Nat.le_max_right ..) (Nat.le_add_right ..))]
    change Conserves _ (Decl.census L.roots)
      (max (max ((IdSource.startingAt L.nextId).next + (looseGroups L.roots).length) L.nextId) 1)
      (Decl.census ((L.roots.filter fun d => !d.isLoose)
        ++ L.looseContainers (IdSource.startingAt L.nextId).next (looseGroups L.roots)))
    rw [hfirst, hnext, Decl.census_append, ← Decl.census_perm hperm, Decl.census_append,
      add_comm (Decl.census (L.roots.filter _)), add_comm (Decl.census (L.roots.filter _))]
    exact (conserves_looseContainers L (max L.nextId 1) (looseGroups L.roots)).frame _

theorem broken_wrapLoose (L : Library) : L.wrapLoose.broken = L.broken := by
  rw [Library.wrapLoose]
  split <;> rfl

theorem evolves_wrapLoose (L : Library) : L.Evolves L.wrapLoose := by
  have hfiles : L.wrapLoose.files = L.files := by
    rw [Library.wrapLoose]
    split <;> rfl
  have hnext : L.nextId ≤ L.wrapLoose.nextId := by
    rw [Library.wrapLoose]
    split
    · exact Nat.le_refl _
    · exact Nat.le_max_right _ _
  refine ⟨hfiles, (broken_wrapLoose L) ▸ List.prefix_refl _, hnext, ?_⟩
  rw [Decl.census_append, Decl.census_append, broken_wrapLoose]
  exact (conserves_wrapLoose L).frame _

theorem conserves_looseWrapping_decl (ctx : Context) (d : Decl) (s : Progress Nat) :
    Conserves s.ids.next (Decl.census [d]) (looseWrapping.decl ctx d s).2.ids.next
      (Decl.census ((looseWrapping.decl ctx d s).1.decls d)) := by
  rw [looseWrapping_decl]
  exact .refl

theorem conserves_looseWrapping (L : Library) (state : Nat) :
    Conserves (max L.nextId 1) (Decl.census L.roots) (max (looseWrapping.run L state).1.nextId 1)
      (Decl.census (looseWrapping.run L state).1.roots) := by
  let done := looseWrapping.applyAll (.root L) L.roots ⟨.startingAt L.nextId, 0⟩
  exact (Pass.conserves_trees (p := looseWrapping) L state (fun _ _ _ => rfl)
    conserves_looseWrapping_decl).trans
    (conserves_wrapLoose ((L.withRoots (done.1.flatMap Prod.snd)).withNextId done.2.ids.next))

theorem evolves_looseWrapping (L : Library) (state : Nat) :
    L.Evolves (looseWrapping.run L state).1 :=
  (Pass.evolves_walk_of_aside_nil (p := looseWrapping) L state (fun _ _ _ => rfl)
    conserves_looseWrapping_decl).trans (evolves_wrapLoose _)

/-! ## Every pass -/

/-- **Every built-in pass makes a library evolve.** -/
theorem PassInstance.evolves_run (L : Library) (pass : PassInstance) :
    L.Evolves (pass.run L).1 := by
  cases pass with
  | verify config reported => exact evolves_verification config.defaultConvention L reported
  | wrapLoose wrapped => exact evolves_looseWrapping L wrapped
  | extractBroken extracted => exact evolves_extraction L extracted
  | stripTypedefs => exact evolves_typedefStripping L

end NativeApi
