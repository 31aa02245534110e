import NativeApi.Proofs.Library.Agreement
import NativeApi.Proofs.Pass.Run

/-!
# Two runs of a pass

Two passes side by side over two libraries that agree up to diagnostics.  If the hooks make
declarations that agree out of declarations that agree, then so do the runs: the handles follow the
same members, and both runs take the same ids.

* `Context.AgreesUpTo`: two places that agree.
* `Pass.Tolerates`: what is owed for one call of the hooks.
* `Pass.Tolerates.applyAll`: what follows for the walk over siblings.
* `Pass.Tolerates.run`: what follows for a library, up to the last steps of the passes.
-/

namespace NativeApi

variable {D E : Tolerance}

/-! ## Places -/

/-- Two places agree, except for the diagnostics of the declarations of the library and of those
around. -/
structure Context.AgreesUpTo (Q : Tolerance) (ctx ctx' : Context) : Prop where
  library : ctx.library.AgreesUpTo Q ctx'.library
  above : List.Forall₂ (Decl.Throughout (Decl.AgreesUpTo Q)) ctx.above ctx'.above

theorem Library.AgreesUpTo.root {L L' : Library} (h : L.AgreesUpTo D L') :
    (Context.root L).AgreesUpTo D (.root L') :=
  ⟨h, .nil⟩

theorem Context.AgreesUpTo.enter {ctx ctx' : Context} (h : ctx.AgreesUpTo D ctx') {d d' : Decl}
    (hd : d.Throughout (Decl.AgreesUpTo D) d') : (ctx.enter d).AgreesUpTo D (ctx'.enter d') :=
  ⟨h.library, .cons hd h.above⟩

/-! ## Rebuilt declarations -/

/-- Two declarations that agree, with what took their places. -/
structure Replacement.AgreesUpTo (D E : Tolerance) (r r' : Replacement) : Prop where
  replaced : r.1.AgreesUpTo D r'.1
  news : List.Forall₂ (Decl.Throughout (Decl.AgreesUpTo E)) r.2 r'.2

theorem retarget_congr {rs rs' : List Replacement}
    (h : List.Forall₂ (Replacement.AgreesUpTo D E) rs rs') : retarget rs' = retarget rs := by
  funext handle slot
  cases handle with
  | none => rw [retarget_none, retarget_none]
  | some id =>
    have hfind : Option.Rel (Replacement.AgreesUpTo D E) (rs.find? (·.1.id = id))
        (rs'.find? (·.1.id = id)) :=
      rel_find? (fun r r' hr => by rw [hr.replaced.id]) h
    rw [retarget_some, retarget_some]
    generalize rs.find? (·.1.id = id) = found at hfind ⊢
    generalize rs'.find? (·.1.id = id) = found' at hfind ⊢
    cases hfind with
    | none => rfl
    | @some r r' hr =>
      have hnew : Option.Rel (Decl.Throughout (Decl.AgreesUpTo E)) (r.2.find? (·.fills slot))
          (r'.2.find? (·.fills slot)) :=
        rel_find? (fun d d' hd => hd.rel.fills slot) hr.news
      dsimp only
      generalize r.2.find? (·.fills slot) = new at hnew ⊢
      generalize r'.2.find? (·.fills slot) = new' at hnew ⊢
      cases hnew with
      | none => rfl
      | some hnew => rw [Option.map_some, Option.map_some, hnew.rel.id]

namespace Kind

variable {δ : Type}

theorem mapHandles_withChildren (f : Option DeclId → Slot → Option DeclId) (k : Kind δ)
    (children : List δ) :
    (k.withChildren children).mapHandles f = (k.mapHandles f).withChildren children := by
  cases k <;> rfl

theorem withType_withChildren (k : Kind δ) (children : List δ) (type : TypeRef) :
    (k.withChildren children).withType type = (k.withType type).withChildren children := by
  cases k with
  | field offset content => cases content <;> rfl
  | _ => rfl

theorem mapType_withChildren (f : TypeRef → TypeRef) (k : Kind δ) (children : List δ) :
    (k.withChildren children).mapType f = (k.mapType f).withChildren children := by
  rw [mapType, mapType, type?_withChildren]
  cases k.type? with
  | none => rfl
  | some type => exact k.withType_withChildren children (f type)

theorem rebuild_withChildren (k : Kind Decl) (children : List Decl) (rs : List Replacement) :
    (k.withChildren children).rebuild rs = k.rebuild rs := by
  rw [rebuild, rebuild, mapHandles_withChildren, withChildren_withChildren]

@[simp] theorem arrangement?_rebuild (k : Kind Decl) (rs : List Replacement) :
    (k.rebuild rs).arrangement? = k.arrangement? := by
  rw [rebuild, arrangement?_withChildren, arrangement?_mapHandles]

end Kind

/-- **Declarations that agree are rebuilt alike**, if what took the places of their children
agrees. -/
theorem Decl.AgreesUpTo.rebuild {d d' : Decl} (h : d.AgreesUpTo D d') (f : TypeRef → TypeRef)
    {rs rs' : List Replacement} (hrs : List.Forall₂ (Replacement.AgreesUpTo D E) rs rs') :
    Decl.AgreesUpTo D { d with kind := (d.kind.mapType f).rebuild rs }
      { d' with kind := (d'.kind.mapType f).rebuild rs' } := by
  have hkind : (d'.kind.mapType f).rebuild rs'
      = ((d.kind.mapType f).rebuild rs).withChildren (rs'.flatMap Prod.snd) := by
    rw [h.kind, Kind.mapType_withChildren, Kind.rebuild_withChildren, Kind.rebuild, Kind.rebuild,
      retarget_congr hrs, Kind.withChildren_withChildren]
  have hrest : ({ d' with kind := (d'.kind.mapType f).rebuild rs' } : Decl)
      = { d with
          diagnostics := d'.diagnostics
          kind := ((d.kind.mapType f).rebuild rs).withChildren (rs'.flatMap Prod.snd) } := by
    rw [hkind]
    exact congrArg (fun e : Decl => { e with
      kind := ((d.kind.mapType f).rebuild rs).withChildren (rs'.flatMap Prod.snd) }) h.rest
  refine .of_eq hrest ?_
  rw [Kind.arrangement?_rebuild, Kind.arrangement?_mapType]
  exact h.diagnostics

/-! ## Runs -/

/-- Two runs have got equally far: they have the same ids left, and their states are related. -/
structure Progress.Agrees {σ : Type} (S : σ → σ → Prop) (s s' : Progress σ) : Prop where
  ids : s'.ids = s.ids
  state : S s.state s'.state

namespace Pass

variable {σ : Type} {p p' : Pass σ} {S : σ → σ → Prop}

/-- The hooks of two passes, called in places that agree, with declarations that agree up to `D`
and have children that agree up to `E`, change types in the same way and answer with declarations
that agree up to `E`. -/
structure Tolerates (p p' : Pass σ) (D E : Tolerance) (S : σ → σ → Prop) : Prop where
  ownType : ∀ {ctx ctx'}, ctx.AgreesUpTo D ctx' → ∃ f, ∀ k s,
    p.applyOwnType ctx k s = (k.mapType f, s) ∧ p'.applyOwnType ctx' k s = (k.mapType f, s)
  decl : ∀ {ctx ctx' d d' s s'}, ctx.AgreesUpTo D ctx' → d.AgreesUpTo D d' →
    List.Forall₂ (Decl.Throughout (Decl.AgreesUpTo E)) d.children d'.children →
    s.Agrees S s' →
    List.Forall₂ (Decl.Throughout (Decl.AgreesUpTo E)) ((p.decl ctx d s).1.decls d)
        ((p'.decl ctx' d' s').1.decls d') ∧
      (p.decl ctx d s).2.Agrees S (p'.decl ctx' d' s').2

theorem mapType_of_silent (hook : ∀ ctx type s, p.type? ctx type s = (none, s))
    (hook' : ∀ ctx type s, p'.type? ctx type s = (none, s)) {ctx ctx' : Context} : ∃ f, ∀ k s,
      p.applyOwnType ctx k s = (k.mapType f, s) ∧ p'.applyOwnType ctx' k s = (k.mapType f, s) := by
  refine ⟨id, fun k s => ?_⟩
  have hself : k.mapType id = k := k.mapType_eq_self fun _ => rfl
  rw [applyOwnType_of_silent hook, applyOwnType_of_silent hook', hself]
  exact ⟨rfl, rfl⟩

namespace Tolerates

variable (h : p.Tolerates p' D E S)

include h

/-- **Two walks over siblings that agree** make siblings that agree of them. -/
theorem applyAll {ctx ctx' : Context} {ds ds' : List Decl} {s s' : Progress σ}
    (hctx : ctx.AgreesUpTo D ctx')
    (hds : List.Forall₂ (Decl.Throughout (Decl.AgreesUpTo D)) ds ds') (hs : s.Agrees S s') :
    List.Forall₂ (Replacement.AgreesUpTo D E) (p.applyAll ctx ds s).1
        (p'.applyAll ctx' ds' s').1 ∧
      (p.applyAll ctx ds s).2.Agrees S (p'.applyAll ctx' ds' s').2 := by
  have key := run_induction (p := p)
    (P := fun ctx d s news t => ∀ {ctx' d' s'}, ctx.AgreesUpTo D ctx' →
      d.Throughout (Decl.AgreesUpTo D) d' → s.Agrees S s' →
      List.Forall₂ (Decl.Throughout (Decl.AgreesUpTo E)) news (p'.applyDecl ctx' d' s').1 ∧
        t.Agrees S (p'.applyDecl ctx' d' s').2)
    (Q := fun ctx ds s rs t => ∀ {ctx' ds' s'}, ctx.AgreesUpTo D ctx' →
      List.Forall₂ (Decl.Throughout (Decl.AgreesUpTo D)) ds ds' → s.Agrees S s' →
      List.Forall₂ (Replacement.AgreesUpTo D E) rs (p'.applyAll ctx' ds' s').1 ∧
        t.Agrees S (p'.applyAll ctx' ds' s').2)
    ?nil ?cons ?decl
  case nil =>
    intro ctx s ctx' ds' s' _ hds hs
    cases hds with
    | nil =>
      rw [applyAll_nil]
      exact ⟨.nil, hs⟩
  case cons =>
    intro ctx d rest s news t rs u hfirst hothers ctx' ds' s' hctx hds hs
    cases hds with
    | cons hd hrest =>
      obtain ⟨hnews, ht⟩ := hfirst hctx hd hs
      obtain ⟨hrs, hu⟩ := hothers hctx hrest ht
      rw [applyAll_cons]
      exact ⟨.cons ⟨hd.rel, hnews⟩ hrs, hu⟩
  case decl =>
    intro ctx d s kind s₁ rs s₂ answer s₃ htype hall hchildren hanswer ctx' d' s' hctx hd hs
    obtain ⟨f, hf⟩ := h.ownType hctx
    rw [(hf d.kind s).1, Prod.mk.injEq] at htype
    obtain ⟨rfl, rfl⟩ := htype
    obtain ⟨hrs, ht⟩ := hchildren (hctx.enter hd) hd.children hs
    rw [applyDecl_eq, (hf d'.kind s').2]
    dsimp only
    generalize hall' : p'.applyAll (ctx'.enter d') d'.children s' = done' at hrs ht ⊢
    obtain ⟨rs', t'⟩ := done'
    have hrebuilt := hd.rel.rebuild f hrs
    have hfst : rs.map Prod.fst = (d.kind.mapType f).children := by
      rw [Kind.children_mapType, ← Decl.children, ← p.map_fst_applyAll (ctx.enter d) d.children s,
        hall]
    have hfst' : rs'.map Prod.fst = (d'.kind.mapType f).children := by
      rw [Kind.children_mapType, ← Decl.children,
        ← p'.map_fst_applyAll (ctx'.enter d') d'.children s', hall']
    have hnew : List.Forall₂ (Decl.Throughout (Decl.AgreesUpTo E))
        ((d.kind.mapType f).rebuild rs).children ((d'.kind.mapType f).rebuild rs').children := by
      rw [Kind.children_rebuild hfst, Kind.children_rebuild hfst']
      exact List.rel_flatMap hrs fun _ _ hr => hr.news
    have hcall := h.decl hctx hrebuilt hnew ht
    rw [hanswer] at hcall
    exact hcall
  exact key.2 ctx ds s hctx hds hs

/-- **Two runs over libraries that agree** get equally far, and the libraries before the last steps
agree. -/
theorem run {L L' : Library} (hL : L.AgreesUpTo D L') (state state' : σ)
    (hstate : S (p.before L state) (p'.before L' state'))
    (hbroken : ∀ {a? ds ds'}, D a? ds ds' → E a? ds ds') :
    ∃ M M' found found', p.run L state = p.after M found ∧ p'.run L' state' = p'.after M' found' ∧
      M.AgreesUpTo E M' ∧ S found found' := by
  have hstart : Progress.Agrees S ⟨.startingAt L.nextId, p.before L state⟩
      ⟨.startingAt L'.nextId, p'.before L' state'⟩ :=
    ⟨congrArg IdSource.startingAt hL.nextId, hstate⟩
  obtain ⟨hrs, hdone⟩ := h.applyAll hL.root hL.roots hstart
  refine ⟨_, _, _, _, p.run_eq L state, p'.run_eq L' state', ⟨hL.files, ?_, ?_, ?_⟩, hdone.state⟩
  · exact List.rel_flatMap hrs fun _ _ hr => hr.news
  · exact hL.broken.imp fun _ _ hd => hd.mono fun he => he.mono hbroken
  · show max _ L'.nextId = max _ L.nextId
    rw [hdone.ids, hL.nextId]

end Tolerates

end Pass

end NativeApi
