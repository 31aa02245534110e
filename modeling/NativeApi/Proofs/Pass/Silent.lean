import NativeApi.Proofs.Pass.Rebuilding

/-!
# Passes that only act at the end

A pass may leave all the work to its last step, which is given the whole library.  The walk of such
a pass rebuilds every declaration all the same, and rebuilding settles the handles of records.  So
the last step is given the library with all handles settled.

* `Decl.resettled`: a declaration with the handles settled throughout.
* `Pass.run_of_silent`: the run of a pass whose hooks answer nothing.
* `Library.resettled_eq_self`: where every handle fits there is nothing to settle.
-/

namespace NativeApi

/-! ## Settled handles throughout -/

namespace Decl

/-- A declaration with its handles settled, and the same for everything inside it. -/
def resettled (d : Decl) : Decl :=
  d.withSettled (d.children.attach.map fun ⟨c, _⟩ => c.resettled)
termination_by sizeOf d
decreasing_by exact sizeOf_lt_of_mem_children ‹_›

theorem resettled_eq (d : Decl) : d.resettled = d.withSettled (d.children.map resettled) := by
  rw [resettled]
  simp

theorem continues_resettled (d : Decl) : d.Continues d.resettled := by
  rw [resettled_eq]
  exact d.continues_withSettled _

theorem children_resettled (d : Decl) : d.resettled.children = d.children.map resettled := by
  rw [resettled_eq]
  exact children_withSettled fun h => by rw [h]; rfl

theorem subtree_resettled (d : Decl) : d.resettled.subtree = d.subtree.map resettled := by
  induction d using induction with
  | step d ih =>
    rw [subtree_eq, subtree_eq d, children_resettled, List.flatMap_map, List.map_cons,
      List.map_flatMap, List.flatMap_congr ih]

theorem resettled_eq_self {d : Decl} (h : ∀ e ∈ d.subtree, e.kind.HandlesSettled) :
    d.resettled = d := by
  induction d using induction with
  | step d ih =>
    have hchildren : d.children.map resettled = d.children := by
      refine (List.map_congr_left fun c hc => ?_).trans (List.map_id _)
      exact ih c hc fun e he => h e (mem_subtree.mpr (.inr ⟨c, hc, he⟩))
    have hself : d.kind.mapHandles (settledHandle d.children) = d.kind :=
      h d (mem_subtree.mpr (.inl rfl))
    rw [resettled_eq, hchildren, withSettled, hself, children, Kind.withChildren_children, eta]

end Decl

namespace Library

/-- The library with its handles settled throughout, as a walk leaves it. -/
def resettled (L : Library) : Library :=
  (L.withRoots (L.roots.map Decl.resettled)).withNextId (max L.nextId 1)

theorem decls_resettled (L : Library) : L.resettled.decls = L.decls.map Decl.resettled := by
  show (L.roots.map Decl.resettled).flatMap Decl.subtree = _
  rw [List.flatMap_map, decls, List.map_flatMap]
  exact List.flatMap_congr fun d _ => d.subtree_resettled

theorem one_le_nextId_resettled (L : Library) : 1 ≤ L.resettled.nextId :=
  Nat.le_trans (Nat.le_max_right _ _) (Nat.le_max_left _ _)

/-- **Where all handles are settled the walk leaves the library as it is.** -/
theorem resettled_eq_self {L : Library} (hnext : 1 ≤ L.nextId)
    (h : ∀ d ∈ L.decls, d.kind.HandlesSettled) : L.resettled = L := by
  have hroots : L.roots.map Decl.resettled = L.roots := by
    refine (List.map_congr_left fun d hd => ?_).trans (List.map_id _)
    exact Decl.resettled_eq_self fun e he => h e (List.mem_flatMap.mpr ⟨d, hd, he⟩)
  have hmax : max (max L.nextId 1) L.nextId = L.nextId :=
    Nat.max_eq_right (Nat.max_le.mpr ⟨Nat.le_refl _, hnext⟩)
  rw [resettled, hroots, withNextId]
  show { L with nextId := max (max L.nextId 1) L.nextId } = L
  rw [hmax]

theorem handlesSettled_of_handlesFit {L : Library}
    (h : ∀ d ∈ L.decls, ∀ r ∈ d.record?, r.HandlesFit) :
    ∀ d ∈ L.decls, d.kind.HandlesSettled := by
  intro d hd
  by_cases hform : d.kind.form = .record
  · obtain ⟨r, hr⟩ := Kind.form_eq_record_iff.mp hform
    rw [hr]
    exact Kind.handlesSettled_of_handlesFit (h d hd r (by rw [Decl.record?, hr]; rfl))
  · exact Kind.handlesSettled_of_ne_record hform

end Library

/-! ## Runs -/

namespace Pass

variable {σ : Type}

theorem applyAll_of_silent {p : Pass σ} (htype : ∀ ctx type s, p.type? ctx type s = (none, s))
    (hdecl : ∀ ctx d s, p.decl ctx d s = (.unchanged, s)) (ctx : Context) (ds : List Decl)
    (s : Progress σ) : p.applyAll ctx ds s = (ds.map fun d => (d, [d.resettled]), s) := by
  have key := run_induction (p := p)
    (P := fun _ d s news s' => news = [d.resettled] ∧ s' = s)
    (Q := fun _ ds s replacements s' =>
      replacements = ds.map (fun d => (d, [d.resettled])) ∧ s' = s)
    (fun _ _ => ⟨rfl, rfl⟩) ?cons ?decl
  case cons =>
    rintro ctx d rest s news s' replacements s'' ⟨rfl, rfl⟩ ⟨rfl, rfl⟩
    exact ⟨rfl, rfl⟩
  case decl =>
    rintro ctx d s kind s₁ replacements s₂ answer s₃ hown _ ⟨rfl, rfl⟩ hanswer
    rw [applyOwnType_of_silent htype, Prod.mk.injEq] at hown
    obtain ⟨rfl, rfl⟩ := hown
    rw [hdecl, Prod.mk.injEq] at hanswer
    obtain ⟨rfl, rfl⟩ := hanswer
    have hrebuild : d.kind.rebuild (d.children.map fun c => (c, [c.resettled]))
        = (d.withSettled (d.children.map Decl.resettled)).kind :=
      Kind.rebuild_map fun _ c _ => c.continues_resettled
    rw [hrebuild, Decl.resettled_eq]
    exact ⟨rfl, rfl⟩
  exact Prod.ext (key.2 ctx ds s).1 (key.2 ctx ds s).2

/-- **A pass whose hooks answer nothing** applies its last step to the resettled library. -/
theorem run_of_silent {p : Pass σ} (htype : ∀ ctx type s, p.type? ctx type s = (none, s))
    (hdecl : ∀ ctx d s, p.decl ctx d s = (.unchanged, s)) (L : Library) (state : σ) :
    p.run L state = p.after L.resettled (p.before L state) := by
  rw [run_eq, applyAll_of_silent htype hdecl]
  dsimp only
  rw [List.flatMap_map, ← List.map_eq_flatMap]
  rfl

end Pass

end NativeApi
