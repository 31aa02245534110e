import NativeApi.Pass.Basic
import NativeApi.Proofs.Decl.OwnType
import NativeApi.Proofs.Pass.Handles

/-!
# Runs of the engine

The steps of a run as equations, and the induction that every statement about a run goes through.

* `Pass.applyType_step`: what each call of the hook for types does to the progress of a run, a
  whole type does.
* `Pass.run_induction`: what holds of one call of the hook for declarations, given that it holds
  of what the children became, holds of a whole run over a declaration, and over siblings.
* `Pass.map_fst_applyAll`: siblings are rewritten one by one, in their order.
* `Pass.Keeps`, `Pass.applyAll_of_keeps`: a pass that has nothing to say about any declaration
  as it stands in the library leaves the library as it is.
-/

namespace NativeApi.Pass

variable {σ : Type}

/-! ## Equations -/

theorem bind_apply {α β : Type} (x : PassM σ α) (f : α → PassM σ β) (s : Progress σ) :
    (x >>= f) s = f (x s).1 (x s).2 := rfl

theorem applyType_eq (p : Pass σ) (ctx : Context) (type : TypeRef) (s : Progress σ) :
    p.applyType ctx type s =
      let asked := p.type? ctx type s
      match asked.1 with
      | some answer => (answer, asked.2)
      | none =>
        match type with
        | .pointer target =>
          let inner := p.applyType ctx target asked.2
          (.pointer inner.1, inner.2)
        | .function result parameters convention =>
          let first := p.applyType ctx result asked.2
          let others := p.applyTypes ctx parameters first.2
          (.function first.1 others.1 convention, others.2)
        | other => (other, asked.2) := by
  conv_lhs => unfold applyType
  rw [bind_apply]
  dsimp only
  cases (p.type? ctx type s).1 with
  | none => cases type <;> rfl
  | some answer => rfl

theorem applyTypes_nil (p : Pass σ) (ctx : Context) (s : Progress σ) :
    p.applyTypes ctx [] s = ([], s) := by
  conv_lhs => unfold applyTypes
  rfl

theorem applyTypes_cons (p : Pass σ) (ctx : Context) (type : TypeRef) (rest : List TypeRef)
    (s : Progress σ) :
    p.applyTypes ctx (type :: rest) s =
      let first := p.applyType ctx type s
      let others := p.applyTypes ctx rest first.2
      (first.1 :: others.1, others.2) := by
  conv_lhs => unfold applyTypes
  rfl

theorem applyOwnType_eq_bind (p : Pass σ) (ctx : Context) (k : Kind Decl) :
    p.applyOwnType ctx k =
      match k.type? with
      | none => pure k
      | some type => p.applyType ctx type >>= fun new => pure (k.withType new) := by
  cases k with
  | field offset content => cases content <;> rfl
  | _ => rfl

theorem applyOwnType_eq (p : Pass σ) (ctx : Context) (k : Kind Decl) (s : Progress σ) :
    p.applyOwnType ctx k s =
      match k.type? with
      | none => (k, s)
      | some type => (k.withType (p.applyType ctx type s).1, (p.applyType ctx type s).2) := by
  rw [applyOwnType_eq_bind]
  cases k.type? <;> rfl

theorem applyDecl_eq (p : Pass σ) (ctx : Context) (d : Decl) (s : Progress σ) :
    p.applyDecl ctx d s =
      let typed := p.applyOwnType ctx d.kind s
      let inner := p.applyAll (ctx.enter d) d.children typed.2
      let rebuilt := { d with kind := typed.1.rebuild inner.1 }
      let answered := p.decl ctx rebuilt inner.2
      (answered.1.decls rebuilt, answered.2) := by
  rw [applyDecl]
  rfl

@[simp] theorem applyAll_nil (p : Pass σ) (ctx : Context) (s : Progress σ) :
    p.applyAll ctx [] s = ([], s) := by
  rw [applyAll]
  rfl

theorem applyAll_cons (p : Pass σ) (ctx : Context) (d : Decl) (rest : List Decl)
    (s : Progress σ) :
    p.applyAll ctx (d :: rest) s =
      let first := p.applyDecl ctx d s
      let others := p.applyAll ctx rest first.2
      ((d, first.1) :: others.1, others.2) := by
  rw [applyAll]
  rfl

/-- The library that the declarations of a run make up, before the last step of the pass. -/
theorem run_eq (p : Pass σ) (L : Library) (state : σ) :
    p.run L state =
      let done := p.applyAll (.root L) L.roots ⟨.startingAt L.nextId, p.before L state⟩
      p.after ((L.withRoots (done.1.flatMap Prod.snd)).withNextId done.2.ids.next) done.2.state :=
  rfl

/-! ## Types -/

mutual

/-- A reflexive and transitive relation that each call of the hook for types keeps is kept by a
whole type. -/
theorem applyType_step {p : Pass σ} {R : Progress σ → Progress σ → Prop} (refl : ∀ s, R s s)
    (trans : ∀ {s t u}, R s t → R t u → R s u)
    (hook : ∀ ctx type s, R s (p.type? ctx type s).2) (ctx : Context) :
    (type : TypeRef) → (s : Progress σ) → R s (p.applyType ctx type s).2
  | .pointer target, s => by
    have hasked := hook ctx (.pointer target) s
    rw [applyType_eq]
    dsimp only
    split
    · exact hasked
    · exact trans hasked (applyType_step refl trans hook ctx target _)
  | .function result parameters convention, s => by
    have hasked := hook ctx (.function result parameters convention) s
    rw [applyType_eq]
    dsimp only
    split
    · exact hasked
    · exact trans hasked (trans (applyType_step refl trans hook ctx result _)
        (applyTypes_step refl trans hook ctx parameters _))
  | .void, s | .scalar _, s | .decl _, s | .native _, s => by
    rw [applyType_eq]
    dsimp only
    split <;> exact hook ctx _ s

theorem applyTypes_step {p : Pass σ} {R : Progress σ → Progress σ → Prop} (refl : ∀ s, R s s)
    (trans : ∀ {s t u}, R s t → R t u → R s u)
    (hook : ∀ ctx type s, R s (p.type? ctx type s).2) (ctx : Context) :
    (types : List TypeRef) → (s : Progress σ) → R s (p.applyTypes ctx types s).2
  | [], s => by
    rw [applyTypes_nil]
    exact refl s
  | type :: rest, s => by
    rw [applyTypes_cons]
    exact trans (applyType_step refl trans hook ctx type s)
      (applyTypes_step refl trans hook ctx rest _)

end

/-- Types are rewritten one by one where the progress plays no part. -/
theorem applyTypes_eq_map {p : Pass σ} {ctx : Context} {f : TypeRef → TypeRef}
    {types : List TypeRef} (h : ∀ type ∈ types, ∀ s, p.applyType ctx type s = (f type, s))
    (s : Progress σ) : p.applyTypes ctx types s = (types.map f, s) := by
  induction types with
  | nil => exact applyTypes_nil p ctx s
  | cons type rest ih =>
    obtain ⟨htype, hrest⟩ := List.forall_mem_cons.mp h
    rw [applyTypes_cons, htype]
    dsimp only
    rw [ih hrest]
    rfl

theorem applyOwnType_step {p : Pass σ} {R : Progress σ → Progress σ → Prop} (refl : ∀ s, R s s)
    (trans : ∀ {s t u}, R s t → R t u → R s u)
    (hook : ∀ ctx type s, R s (p.type? ctx type s).2) (ctx : Context) (k : Kind Decl)
    (s : Progress σ) : R s (p.applyOwnType ctx k s).2 := by
  rw [applyOwnType_eq]
  split
  · exact refl s
  · exact applyType_step refl trans hook ctx _ s

theorem applyOwnType_eq_mapType {p : Pass σ} {ctx : Context} {f : TypeRef → TypeRef}
    (h : ∀ type s, p.applyType ctx type s = (f type, s)) (k : Kind Decl) (s : Progress σ) :
    p.applyOwnType ctx k s = (k.mapType f, s) := by
  rw [applyOwnType_eq, Kind.mapType]
  cases k.type? with
  | none => rfl
  | some type =>
    dsimp only
    rw [h]

/-- The type that a declaration mentions changes neither its form nor its children. -/
theorem form_applyOwnType (p : Pass σ) (ctx : Context) (k : Kind Decl) (s : Progress σ) :
    (p.applyOwnType ctx k s).1.form = k.form := by
  rw [applyOwnType_eq]
  split
  · rfl
  · exact k.form_withType _

theorem children_applyOwnType (p : Pass σ) (ctx : Context) (k : Kind Decl) (s : Progress σ) :
    (p.applyOwnType ctx k s).1.children = k.children := by
  rw [applyOwnType_eq]
  split
  · rfl
  · exact k.children_withType _

mutual

theorem applyType_of_silent {p : Pass σ} (hook : ∀ ctx type s, p.type? ctx type s = (none, s))
    (ctx : Context) :
    (type : TypeRef) → (s : Progress σ) → p.applyType ctx type s = (type, s)
  | .pointer target, s => by
    rw [applyType_eq, hook]
    dsimp only
    rw [applyType_of_silent hook ctx target s]
  | .function result parameters convention, s => by
    rw [applyType_eq, hook]
    dsimp only
    rw [applyType_of_silent hook ctx result s, applyTypes_of_silent hook ctx parameters s]
  | .void, s | .scalar _, s | .decl _, s | .native _, s => by
    rw [applyType_eq, hook]

theorem applyTypes_of_silent {p : Pass σ}
    (hook : ∀ ctx type s, p.type? ctx type s = (none, s)) (ctx : Context) :
    (types : List TypeRef) → (s : Progress σ) → p.applyTypes ctx types s = (types, s)
  | [], s => applyTypes_nil p ctx s
  | type :: rest, s => by
    rw [applyTypes_cons, applyType_of_silent hook ctx type s]
    dsimp only
    rw [applyTypes_of_silent hook ctx rest s]

end

theorem applyOwnType_of_silent {p : Pass σ}
    (hook : ∀ ctx type s, p.type? ctx type s = (none, s)) (ctx : Context) (k : Kind Decl)
    (s : Progress σ) : p.applyOwnType ctx k s = (k, s) := by
  rw [applyOwnType_eq]
  split
  · rfl
  · next type htype => rw [applyType_of_silent hook, Kind.withType_of_type? htype]

/-! ## Induction -/

/-- A statement about runs over one declaration, which relates the place, the declaration, the
progress before, what takes the place of the declaration and the progress after. -/
abbrev Motive (σ : Type) := Context → Decl → Progress σ → List Decl → Progress σ → Prop

abbrev SiblingsMotive (σ : Type) :=
  Context → List Decl → Progress σ → List Replacement → Progress σ → Prop

/-- **Induction over a run.**  `decl` is owed for each call of the hook for declarations; there
the children are done. -/
theorem run_induction {p : Pass σ} {P : Motive σ} {Q : SiblingsMotive σ}
    (nil : ∀ ctx s, Q ctx [] s [] s)
    (cons : ∀ {ctx d rest s news s' replacements s''}, P ctx d s news s' →
      Q ctx rest s' replacements s'' → Q ctx (d :: rest) s ((d, news) :: replacements) s'')
    (decl : ∀ {ctx d s kind s₁ replacements s₂ answer s₃},
      p.applyOwnType ctx d.kind s = (kind, s₁) →
      p.applyAll (ctx.enter d) d.children s₁ = (replacements, s₂) →
      Q (ctx.enter d) d.children s₁ replacements s₂ →
      p.decl ctx { d with kind := kind.rebuild replacements } s₂ = (answer, s₃) →
      P ctx d s (answer.decls { d with kind := kind.rebuild replacements }) s₃) :
    (∀ ctx d s, P ctx d s (p.applyDecl ctx d s).1 (p.applyDecl ctx d s).2) ∧
      ∀ ctx ds s, Q ctx ds s (p.applyAll ctx ds s).1 (p.applyAll ctx ds s).2 := by
  apply Pass.applyDecl.mutual_induct
  case case1 =>
    intro ctx d ih s
    rw [applyDecl_eq]
    exact decl rfl rfl (ih _) rfl
  case case2 =>
    intro ctx s
    rw [applyAll_nil]
    exact nil ctx s
  case case3 =>
    intro ctx d rest ihd ihrest s
    rw [applyAll_cons]
    exact cons (ihd s) (ihrest _)

theorem map_fst_applyAll (p : Pass σ) (ctx : Context) (ds : List Decl) (s : Progress σ) :
    (p.applyAll ctx ds s).1.map Prod.fst = ds := by
  induction ds generalizing s with
  | nil => rw [applyAll_nil]; rfl
  | cons d rest ih => rw [applyAll_cons, List.map_cons, ih]

/-! ## Passes that keep what they find -/

/-- A pass keeps a declaration in its place: it neither changes its type nor answers with anything
but the declaration, its handles are settled, and no id is used up. -/
structure Keeps (p : Pass σ) (ctx : Context) (d : Decl) : Prop where
  handles : d.kind.HandlesSettled
  ownType : ∀ s, (p.applyOwnType ctx d.kind s).1 = d.kind
  ownType_ids : ∀ s, (p.applyOwnType ctx d.kind s).2.ids = s.ids
  answer : ∀ s, (p.decl ctx d s).1.decls d = [d]
  answer_ids : ∀ s, (p.decl ctx d s).2.ids = s.ids

theorem applyAll_of_keeps (p : Pass σ) (ctx : Context) (ds : List Decl) (s : Progress σ)
    (h : ∀ d ∈ ds, ∀ v ∈ d.visits ctx.above, p.Keeps ⟨ctx.library, v.above⟩ v.decl) :
    (p.applyAll ctx ds s).1 = ds.map (fun d => (d, [d])) ∧
      (p.applyAll ctx ds s).2.ids = s.ids := by
  let kept : Context → Decl → Prop := fun ctx d =>
    ∀ v ∈ d.visits ctx.above, p.Keeps ⟨ctx.library, v.above⟩ v.decl
  have key := run_induction (p := p)
    (P := fun ctx d s news s' => kept ctx d → news = [d] ∧ s'.ids = s.ids)
    (Q := fun ctx ds s replacements s' => (∀ d ∈ ds, kept ctx d) →
      replacements = ds.map (fun d => (d, [d])) ∧ s'.ids = s.ids)
    (fun _ _ _ => ⟨rfl, rfl⟩) ?cons ?decl
  case cons =>
    intro ctx d rest s news s' replacements s'' hd hrest hkept
    obtain ⟨rfl, hids⟩ := hd (hkept d (List.mem_cons_self ..))
    obtain ⟨rfl, hids'⟩ := hrest fun d' hd' => hkept d' (List.mem_cons_of_mem d hd')
    exact ⟨rfl, hids'.trans hids⟩
  case decl =>
    intro ctx d s kind s₁ replacements s₂ answer s₃ htype _ hchildren hanswer hkept
    have hself : p.Keeps ctx d :=
      hkept ⟨ctx.above, d⟩ (by rw [Decl.visits_eq]; exact List.mem_cons_self ..)
    have hkind : kind = d.kind := by rw [← hself.ownType s, htype]
    have hids₁ : s₁.ids = s.ids := by rw [← hself.ownType_ids s, htype]
    obtain ⟨rfl, hids₂⟩ := hchildren fun c hc v hv => hkept v (by
      rw [Decl.visits_eq]
      exact List.mem_cons_of_mem _ (List.mem_flatMap.mpr ⟨c, hc, hv⟩))
    have hrebuild : kind.rebuild (d.children.map fun c => (c, [c])) = d.kind := by
      rw [hkind]
      exact Kind.rebuild_self hself.handles
    rw [hrebuild, Decl.eta] at hanswer ⊢
    have hans := hself.answer s₂
    have hids₃ := hself.answer_ids s₂
    rw [hanswer] at hans hids₃
    exact ⟨hans, hids₃.trans (hids₂.trans hids₁)⟩
  exact key.2 ctx ds s h

/-- **A pass that keeps every declaration keeps the library**, up to its last step. -/
theorem run_of_keeps (p : Pass σ) {L : Library} (hnext : 1 ≤ L.nextId)
    (h : ∀ v ∈ L.visits, p.Keeps ⟨L, v.above⟩ v.decl) (state : σ) :
    ∃ state', p.run L state = p.after L state' := by
  obtain ⟨hroots, hids⟩ := p.applyAll_of_keeps (.root L) L.roots
    ⟨.startingAt L.nextId, p.before L state⟩
    fun d hd v hv => h v (List.mem_flatMap.mpr ⟨d, hd, hv⟩)
  refine ⟨(p.applyAll (.root L) L.roots ⟨.startingAt L.nextId, p.before L state⟩).2.state, ?_⟩
  rw [run_eq]
  dsimp only
  rw [hroots, hids, IdSource.startingAt_of_one_le hnext]
  have hsame : (L.withRoots ((L.roots.map fun d => (d, [d])).flatMap Prod.snd)).withNextId L.nextId
      = L := by
    simp [Library.withRoots, Library.withNextId, List.flatMap_map]
  rw [hsame]

end NativeApi.Pass
