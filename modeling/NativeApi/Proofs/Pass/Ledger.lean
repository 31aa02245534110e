import Mathlib.Algebra.Order.Group.Multiset
import NativeApi.Decl.Tree
import NativeApi.Proofs.Pass.Run

/-!
# Ledgers

A ledger relates the declarations before some steps of a run to the declarations after them,
counted with multiplicity and without regard to where they sit, and to the ids that were handed
out in between.  What a ledger says about single calls of the hooks it says about whole runs
(`Ledger.balanced_applyAll`): the induction over the tree is done once here, and a pass owes only a
statement about its hooks.

Some passes put declarations aside in their state.  These count as well, so that a move from the
tree into the state is no loss.
-/

namespace NativeApi

/-! ## Censuses -/

/-- The declarations of some trees, counted with multiplicity. -/
def Decl.census (ds : List Decl) : Multiset Decl := ↑(ds.flatMap Decl.subtree)

namespace Decl

@[simp] theorem census_nil : census [] = 0 := rfl

theorem census_cons (d : Decl) (ds : List Decl) : census (d :: ds) = census [d] + census ds := by
  simp [census]

theorem census_append (as bs : List Decl) : census (as ++ bs) = census as + census bs := by
  simp [census]

theorem census_singleton (d : Decl) : census [d] = {d} + census d.children := by
  simp [census, subtree_eq d]

theorem census_perm {as bs : List Decl} (h : as.Perm bs) : census as = census bs :=
  Multiset.coe_eq_coe.mpr (h.flatMap_right _)

def idCensus (ds : List Decl) : Multiset DeclId := (census ds).map id

theorem idCensus_cons (d : Decl) (ds : List Decl) :
    idCensus (d :: ds) = idCensus [d] + idCensus ds := by
  rw [idCensus, census_cons, Multiset.map_add]
  rfl

theorem idCensus_append (as bs : List Decl) : idCensus (as ++ bs) = idCensus as + idCensus bs := by
  rw [idCensus, census_append, Multiset.map_add]
  rfl

theorem idCensus_singleton (d : Decl) : idCensus [d] = {d.id} + idCensus d.children := by
  rw [idCensus, census_singleton, Multiset.map_add, Multiset.map_singleton]
  rfl

theorem idCensus_perm {as bs : List Decl} (h : as.Perm bs) : idCensus as = idCensus bs := by
  rw [idCensus, census_perm h]
  rfl

end Decl

/-! ## Ledgers -/

/-- A relation between the declarations before and after some steps, between which the ids from
the first number up to the second were handed out. -/
structure Ledger where
  Balanced : DeclId → DeclId → Multiset Decl → Multiset Decl → Prop
  refl : ∀ n s, Balanced n n s s
  /-- What takes no part in the steps stays. -/
  frame : ∀ {lo hi s t} (u : Multiset Decl), Balanced lo hi s t → Balanced lo hi (s + u) (t + u)
  trans : ∀ {lo mid hi s t u}, Balanced lo mid s t → Balanced mid hi t u → Balanced lo hi s u
  /-- A declaration may be given another kind of the same form. -/
  rekind : ∀ n d k, k.form = d.kind.form → Balanced n n {d} {{ d with kind := k }}

namespace Ledger

variable {σ : Type} (ledger : Ledger)

/-- The progress of a run as a ledger sees it: the next id, and what the state has put aside. -/
def BalancedFrom (aside : σ → List Decl) (before after : Multiset Decl)
    (s s' : Progress σ) : Prop :=
  ledger.Balanced s.ids.next s'.ids.next (before + Decl.census (aside s.state))
    (after + Decl.census (aside s'.state))

variable {ledger} {aside : σ → List Decl}

theorem BalancedFrom.refl (before : Multiset Decl) (s : Progress σ) :
    ledger.BalancedFrom aside before before s s := ledger.refl _ _

theorem BalancedFrom.trans {a b c : Multiset Decl} {s s' s'' : Progress σ}
    (h : ledger.BalancedFrom aside a b s s') (h' : ledger.BalancedFrom aside b c s' s'') :
    ledger.BalancedFrom aside a c s s'' := Ledger.trans ledger h h'

theorem BalancedFrom.frame_left {a b : Multiset Decl} {s s' : Progress σ}
    (h : ledger.BalancedFrom aside a b s s') (u : Multiset Decl) :
    ledger.BalancedFrom aside (u + a) (u + b) s s' := by
  have := Ledger.frame ledger u h
  rw [BalancedFrom, add_assoc, add_assoc, add_comm u, add_comm u]
  exact this

theorem BalancedFrom.frame_right {a b : Multiset Decl} {s s' : Progress σ}
    (h : ledger.BalancedFrom aside a b s s') (u : Multiset Decl) :
    ledger.BalancedFrom aside (a + u) (b + u) s s' := by
  rw [add_comm a, add_comm b]
  exact h.frame_left u

/-- A rebuilt declaration balances with the declaration it was, given that its children do. -/
theorem balancedFrom_rebuild {d : Decl} {kind : Kind Decl} {replacements : List Replacement}
    {s s' : Progress σ} (hform : kind.form = d.kind.form) (hchildren : kind.children = d.children)
    (hfst : replacements.map Prod.fst = d.children)
    (h : ledger.BalancedFrom aside (Decl.census d.children)
      (Decl.census (replacements.flatMap Prod.snd)) s s') :
    ledger.BalancedFrom aside (Decl.census [d])
      (Decl.census [{ d with kind := kind.rebuild replacements }]) s s' := by
  have hnew : Decl.children { d with kind := kind.rebuild replacements }
      = replacements.flatMap Prod.snd := Kind.children_rebuild (hfst.trans hchildren.symm)
  rw [Decl.census_singleton d, Decl.census_singleton, hnew]
  have hself := ledger.rekind s'.ids.next d (kind.rebuild replacements)
    ((kind.form_rebuild replacements).trans hform)
  have hself' : ledger.BalancedFrom aside ({d} + Decl.census (replacements.flatMap Prod.snd))
      ({{ d with kind := kind.rebuild replacements }}
        + Decl.census (replacements.flatMap Prod.snd)) s' s' := by
    rw [BalancedFrom, add_assoc, add_assoc]
    exact Ledger.frame ledger _ hself
  exact (h.frame_left {d}).trans hself'

/-- **A run is balanced if the calls of its hooks are.** -/
theorem balanced_applyAll {p : Pass σ}
    (htype : ∀ ctx type s, ledger.BalancedFrom aside 0 0 s (p.type? ctx type s).2)
    (hdecl : ∀ ctx d s, ledger.BalancedFrom aside (Decl.census [d])
      (Decl.census ((p.decl ctx d s).1.decls d)) s (p.decl ctx d s).2)
    (ctx : Context) (ds : List Decl) (s : Progress σ) :
    ledger.BalancedFrom aside (Decl.census ds)
      (Decl.census ((p.applyAll ctx ds s).1.flatMap Prod.snd)) s (p.applyAll ctx ds s).2 := by
  have key := Pass.run_induction (p := p)
    (P := fun _ d s news s' =>
      ledger.BalancedFrom aside (Decl.census [d]) (Decl.census news) s s')
    (Q := fun _ ds s replacements s' =>
      ledger.BalancedFrom aside (Decl.census ds) (Decl.census (replacements.flatMap Prod.snd)) s s')
    (fun _ s => BalancedFrom.refl _ s) ?cons ?decl
  case cons =>
    intro ctx d rest s news s' replacements s'' hd hrest
    rw [Decl.census_cons, List.flatMap_cons, Decl.census_append]
    exact (hd.frame_right _).trans (hrest.frame_left _)
  case decl =>
    intro ctx d s kind s₁ replacements s₂ answer s₃ hown hall hchildren hanswer
    have hform : kind.form = d.kind.form := by rw [← p.form_applyOwnType ctx d.kind s, hown]
    have hkids : kind.children = d.children := by
      rw [show d.children = d.kind.children from rfl, ← p.children_applyOwnType ctx d.kind s, hown]
    have hfst : replacements.map Prod.fst = d.children := by
      rw [← p.map_fst_applyAll (ctx.enter d) d.children s₁, hall]
    have htyped : ledger.BalancedFrom aside 0 0 s s₁ := by
      have := Pass.applyOwnType_step (p := p) (R := ledger.BalancedFrom aside 0 0)
        (BalancedFrom.refl 0) BalancedFrom.trans htype ctx d.kind s
      rwa [hown] at this
    have hdone := hdecl ctx { d with kind := kind.rebuild replacements } s₂
    rw [hanswer] at hdone
    have htyped' := htyped.frame_left (Decl.census [d])
    rw [add_zero] at htyped'
    exact htyped'.trans ((balancedFrom_rebuild hform hkids hfst hchildren).trans hdone)
  exact key.2 ctx ds s

end Ledger

end NativeApi
