import NativeApi.Proofs.Pass.Ledger

/-!
# Conservation of declarations

The one ledger that all built-in passes keep.  Between two censuses of a library only three things
happen: a declaration is continued, a typedef is dropped, and a container for loose declarations
is made under the next id.  `Conserves` is the run of such moves.

* `conservation`: the moves form a ledger.
* `Conserves.exists_continues`: what is no typedef is still there.
* `Conserves.origin`: what is there was there before, or is a new container.
* `Conserves.ids`: distinct ids stay distinct, and below the next id.
-/

namespace NativeApi

/-- The declarations `before`, with `lo` as the next id, became others by moves that lose nothing
but typedefs. -/
inductive Conserves (lo : DeclId) (before : Multiset Decl) : DeclId → Multiset Decl → Prop
  | refl : Conserves lo before lo before
  | update {hi : DeclId} {d d' : Decl} {rest : Multiset Decl} :
      Conserves lo before hi ({d} + rest) → d.Continues d' → Conserves lo before hi ({d'} + rest)
  | drop {hi : DeclId} {d : Decl} {rest : Multiset Decl} :
      Conserves lo before hi ({d} + rest) → d.kind.form = .typedef → Conserves lo before hi rest
  | create {hi : DeclId} {d : Decl} {rest : Multiset Decl} :
      Conserves lo before hi rest → d.id = hi → d.kind.form = .container .looseDeclarations →
      Conserves lo before (hi + 1) ({d} + rest)

namespace Conserves

variable {lo mid hi : DeclId} {s t u : Multiset Decl}

theorem trans (h : Conserves lo s mid t) (h' : Conserves mid t hi u) : Conserves lo s hi u := by
  induction h' with
  | refl => exact h
  | update _ hd ih => exact .update ih hd
  | drop _ hd ih => exact .drop ih hd
  | create _ hid hform ih => exact .create ih hid hform

theorem frame (u : Multiset Decl) (h : Conserves lo s hi t) :
    Conserves lo (s + u) hi (t + u) := by
  induction h with
  | refl => exact .refl
  | update _ hd ih =>
    rw [add_assoc] at ih ⊢
    exact .update ih hd
  | drop _ hd ih =>
    rw [add_assoc] at ih
    exact .drop ih hd
  | create _ hid hform ih =>
    rw [add_assoc]
    exact .create ih hid hform

theorem of_continues {d d' : Decl} (h : d.Continues d') : Conserves lo {d} lo {d'} := by
  have hsame : Conserves lo {d} lo ({d} + 0) := by
    rw [add_zero]
    exact .refl
  have := hsame.update h
  rwa [add_zero] at this

theorem le (h : Conserves lo s hi t) : lo ≤ hi := by
  induction h with
  | refl => exact Nat.le_refl lo
  | update _ _ ih => exact ih
  | drop _ _ ih => exact ih
  | create _ _ _ ih => exact Nat.le_succ_of_le ih

/-! ### What the moves keep -/

theorem exists_continues (h : Conserves lo s hi t) {d : Decl} (hd : d ∈ s)
    (hform : d.kind.form ≠ .typedef) : ∃ d' ∈ t, d.Continues d' := by
  induction h with
  | refl => exact ⟨d, hd, .refl d⟩
  | update _ hstep ih =>
    obtain ⟨d', hmem, hcont⟩ := ih
    rcases Multiset.mem_add.mp hmem with hhead | hrest
    · rw [Multiset.mem_singleton] at hhead
      subst hhead
      exact ⟨_, Multiset.mem_add.mpr (.inl (Multiset.mem_singleton_self _)), hcont.trans hstep⟩
    · exact ⟨d', Multiset.mem_add.mpr (.inr hrest), hcont⟩
  | drop _ hdropped ih =>
    obtain ⟨d', hmem, hcont⟩ := ih
    rcases Multiset.mem_add.mp hmem with hhead | hrest
    · rw [Multiset.mem_singleton] at hhead
      subst hhead
      exact absurd (hcont.form.symm.trans hdropped) hform
    · exact ⟨d', hrest, hcont⟩
  | create _ _ _ ih =>
    obtain ⟨d', hmem, hcont⟩ := ih
    exact ⟨d', Multiset.mem_add.mpr (.inr hmem), hcont⟩

theorem origin (h : Conserves lo s hi t) {d' : Decl} (hd : d' ∈ t) :
    (∃ d ∈ s, d.Continues d') ∨
      d'.kind.form = .container .looseDeclarations ∧ lo ≤ d'.id ∧ d'.id < hi := by
  induction h generalizing d' with
  | refl => exact .inl ⟨d', hd, .refl d'⟩
  | update _ hstep ih =>
    rcases Multiset.mem_add.mp hd with hhead | hrest
    · rw [Multiset.mem_singleton] at hhead
      subst hhead
      rcases ih (Multiset.mem_add.mpr (.inl (Multiset.mem_singleton_self _))) with
        ⟨d, hmem, hcont⟩ | ⟨hform, hbounds⟩
      · exact .inl ⟨d, hmem, hcont.trans hstep⟩
      · exact .inr ⟨hstep.form.trans hform, hstep.id ▸ hbounds⟩
    · exact ih (Multiset.mem_add.mpr (.inr hrest))
  | drop _ _ ih => exact ih (Multiset.mem_add.mpr (.inr hd))
  | create hprior hid hform ih =>
    rcases Multiset.mem_add.mp hd with hhead | hrest
    · rw [Multiset.mem_singleton] at hhead
      subst hhead
      exact .inr ⟨hform, hid ▸ hprior.le, hid ▸ Nat.lt_succ_self _⟩
    · rcases ih hrest with hold | ⟨hform', hlo, hhi⟩
      · exact .inl hold
      · exact .inr ⟨hform', hlo, Nat.lt_succ_of_lt hhi⟩

/-- **Distinct ids stay distinct**, and every id stays below the next one. -/
theorem ids (h : Conserves lo s hi t) (hnodup : (s.map Decl.id).Nodup)
    (hbelow : ∀ d ∈ s, d.id < lo) : (t.map Decl.id).Nodup ∧ ∀ d ∈ t, d.id < hi := by
  induction h with
  | refl => exact ⟨hnodup, hbelow⟩
  | update _ hstep ih =>
    obtain ⟨hdistinct, hlt⟩ := ih
    rw [Multiset.map_add, Multiset.map_singleton] at hdistinct ⊢
    rw [hstep.id]
    refine ⟨hdistinct, fun e he => ?_⟩
    rcases Multiset.mem_add.mp he with hhead | hrest
    · rw [Multiset.mem_singleton] at hhead
      subst hhead
      rw [hstep.id]
      exact hlt _ (Multiset.mem_add.mpr (.inl (Multiset.mem_singleton_self _)))
    · exact hlt e (Multiset.mem_add.mpr (.inr hrest))
  | drop _ _ ih =>
    obtain ⟨hdistinct, hlt⟩ := ih
    rw [Multiset.map_add] at hdistinct
    exact ⟨(Multiset.nodup_add.mp hdistinct).2.1,
      fun e he => hlt e (Multiset.mem_add.mpr (.inr he))⟩
  | create _ hid _ ih =>
    obtain ⟨hdistinct, hlt⟩ := ih
    refine ⟨?_, fun e he => ?_⟩
    · rw [Multiset.map_add, Multiset.map_singleton, Multiset.singleton_add, Multiset.nodup_cons]
      refine ⟨fun hmem => ?_, hdistinct⟩
      obtain ⟨e, he, heq⟩ := Multiset.mem_map.mp hmem
      have hlt' := hlt e he
      rw [heq, hid] at hlt'
      exact Nat.lt_irrefl _ hlt'
    · rcases Multiset.mem_add.mp he with hhead | hrest
      · rw [Multiset.mem_singleton] at hhead
        subst hhead
        exact hid ▸ Nat.lt_succ_self _
      · exact Nat.lt_succ_of_lt (hlt e hrest)

end Conserves

/-- The moves form a ledger. -/
def conservation : Ledger where
  Balanced lo hi s t := Conserves lo s hi t
  refl _ _ := .refl
  frame u h := h.frame u
  trans h h' := h.trans h'
  rekind _ _ _ hform := .of_continues (.of_kind hform)

end NativeApi
