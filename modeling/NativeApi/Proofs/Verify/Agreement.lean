import NativeApi.Proofs.Pass.Agreement
import NativeApi.Proofs.Verify.Views
import NativeApi.Proofs.Verify.Warnings

/-!
# Verification for two default conventions

Two runs of verification side by side, for two default calling conventions, over libraries that
agree up to diagnostics.  In places that agree the rules see the same, so declarations are repaired
alike and get containers alike; all that is left is what is attached to them.

* `tolerates_verification`: what the first walk owes, given what one check attaches.
* `Library.AgreesUpTo.verification`: what both walks make of libraries that have the same errors.
* `verify_agreesUpTo`: what they make of one library.
-/

namespace NativeApi

variable {D E Q : Tolerance}

/-! ## What the rules see -/

theorem Decl.AgreesUpTo.outline {d d' : Decl} (h : d.AgreesUpTo Q d') : d'.outline = d.outline := by
  rw [Decl.outline, Decl.outline, h.id, h.name, h.form]

theorem Decl.AgreesUpTo.readsAlike {d d' : Decl} (h : d.AgreesUpTo D d')
    (hchildren : List.Forall₂ (Decl.Throughout (Decl.AgreesUpTo E)) d.children d'.children) :
    d.ReadsAlike d' :=
  ⟨h.rest, Kind.view_of_outlines (map_eq_of_forall₂ (hchildren.imp fun _ _ hc => hc.rel.outline))⟩

theorem Decl.AgreesUpTo.looksAlike {d d' : Decl} (h : d.AgreesUpTo D d')
    (hchildren : List.Forall₂ (Decl.Throughout (Decl.AgreesUpTo E)) d.children d'.children) :
    d.LooksAlike d' where
  name := h.name
  form := h.form
  handles slot := by
    unfold Decl.record?
    rw [h.kind]
    cases d.kind with
    | record r => cases slot <;> rfl
    | _ => rfl
  children := map_eq_of_forall₂ (hchildren.imp fun _ _ hc => by rw [hc.rel.id, hc.rel.name])

theorem Context.AgreesUpTo.seesAlike {ctx ctx' : Context} (h : ctx.AgreesUpTo Q ctx') :
    ctx.SeesAlike ctx' where
  types := h.library.sameTypes
  parent := by
    obtain ⟨_, above⟩ := ctx
    obtain ⟨_, above'⟩ := ctx'
    obtain ⟨_, habove⟩ := h
    cases habove with
    | nil => exact .none
    | cons hp _ => exact .some (hp.rel.looksAlike hp.children)

/-! ## Checks -/

theorem Context.arrangement?_repairedKind (ctx : Context) (k : Kind Decl) :
    (ctx.repairedKind k).arrangement? = k.arrangement? := by
  cases k <;> rfl

/-- Declarations that agree, in places that agree, agree after checks for two defaults as far as
what is attached to them does. -/
theorem Decl.AgreesUpTo.check {ctx ctx' : Context} {d d' : Decl}
    {default default' : CallingConvention} (hctx : ctx.SeesAlike ctx') (hd : d.ReadsAlike d')
    (hattach : E d.kind.arrangement? (Issue.attachAll d.diagnostics (ctx.issues default d))
      (Issue.attachAll d'.diagnostics (ctx.issues default' d))) :
    (ctx.check default d).AgreesUpTo E (ctx'.check default' d') := by
  refine .of_eq (hctx.check hd default') ?_
  show E (ctx.repairedKind d.kind).arrangement? _ _
  rw [ctx.arrangement?_repairedKind]
  exact hattach

theorem throughout_enumContainer (hE : ∀ a? ds, E a? ds ds) (id : DeclId) {d d' : Decl}
    (h : d.Throughout (Decl.AgreesUpTo E) d') :
    (enumContainer id d).Throughout (Decl.AgreesUpTo E) (enumContainer id d') := by
  refine .node ⟨?_, hE _ _⟩ (.cons h .nil)
  rw [h.rel.rest]
  rfl

/-! ## Walks -/

/-- **The first walk for two defaults** keeps agreement as far as each check does. -/
theorem tolerates_verification {default default' : CallingConvention} (hE : ∀ a? ds, E a? ds ds)
    (hattach : ∀ (ctx : Context) (d : Decl) {ds ds' : Diagnostics}, D d.kind.arrangement? ds ds' →
      E d.kind.arrangement? (Issue.attachAll ds (ctx.issues default d))
        (Issue.attachAll ds' (ctx.issues default' d))) :
    (verification default).Tolerates (verification default') D E fun _ _ => True where
  ownType _ := Pass.mapType_of_silent (fun _ _ _ => rfl) (fun _ _ _ => rfl)
  decl := by
    intro ctx ctx' d d' s s' hctx hd hchildren hs
    have hsees := hctx.seesAlike
    have hreads := hd.readsAlike hchildren
    have hchecked : (ctx.check default d).Throughout (Decl.AgreesUpTo E)
        (ctx'.check default' d') := by
      refine .node (.check hsees hreads (hattach ctx d hd.diagnostics)) ?_
      rwa [ctx.children_check, ctx'.children_check]
    rw [verification_decl, verification_decl, hsees.needsContainer, hreads.needsContainer, hs.ids]
    dsimp only
    split
    · exact ⟨.cons (throughout_enumContainer hE _ hchecked) .nil, rfl, trivial⟩
    · exact ⟨.cons hchecked .nil, rfl, trivial⟩

theorem tolerates_danglingReferences
    (hattach : ∀ {a? ds ds'} (names : List String), Q a? ds ds' →
      Q a? (Issue.attachAll ds (names.map .unresolvedReference))
        (Issue.attachAll ds' (names.map .unresolvedReference))) :
    danglingReferences.Tolerates danglingReferences Q Q fun _ _ => True where
  ownType _ := Pass.mapType_of_silent (fun _ _ _ => rfl) (fun _ _ _ => rfl)
  decl := by
    intro ctx ctx' d d' s s' hctx hd hchildren hs
    have hissues := (hd.readsAlike hchildren).danglingIssues hctx.library.contains
    rw [danglingReferences_decl, danglingReferences_decl, hissues]
    exact ⟨.cons (.node (hd.withDiagnostics (hattach _ hd.diagnostics)) hchildren) .nil, hs⟩

/-! ## Verified libraries -/

variable (default default' : CallingConvention)

/-- **Both walks keep agreement**, if each does. -/
theorem Library.AgreesUpTo.walks {L L' : Library} (h : L.AgreesUpTo D L')
    (hrules : (verification default).Tolerates (verification default') D E fun _ _ => True)
    (hreferences : danglingReferences.Tolerates danglingReferences E E fun _ _ => True)
    (hbroken : ∀ {a? ds ds'}, D a? ds ds' → E a? ds ds') (state state' : Nat) :
    ((verification default).run L state).1.AgreesUpTo E
      ((verification default').run L' state').1 := by
  obtain ⟨M, M', found, found', hrun, hrun', hM, -⟩ := hrules.run h state state' trivial hbroken
  obtain ⟨N, N', _, _, hagain, hagain', hN, -⟩ := hreferences.run hM () () trivial id
  rw [hrun, hrun']
  show (danglingReferences.run M ()).1.AgreesUpTo E (danglingReferences.run M' ()).1
  rw [hagain, hagain']
  exact hN

theorem Library.AgreesUpTo.verification {L L' : Library} (h : L.AgreesUpTo .errors L')
    (state state' : Nat) : ((verification default).run L state).1.AgreesUpTo .errors
      ((NativeApi.verification default').run L' state').1 :=
  h.walks default default'
    (tolerates_verification Tolerance.errors_refl fun ctx d _ _ hds =>
      Tolerance.errors_attachAll_issues ctx d hds default default')
    (tolerates_danglingReferences fun _ hds => Tolerance.errors_attachAll hds _) id state state'

/-- **Verified for two defaults, a library agrees** up to the warnings about conventions. -/
theorem verify_agreesUpTo (L : Library) :
    (verify default L).AgreesUpTo .convention (verify default' L) := by
  refine (Library.AgreesUpTo.refl Tolerance.same_refl L).walks default default'
    (tolerates_verification Tolerance.convention_refl ?_)
    (tolerates_danglingReferences fun names hds => ?_) Tolerance.convention_of_same 0 0
  · rintro ctx d _ _ rfl
    exact Tolerance.convention_attachAll_issues ctx d _ default default'
  · refine Tolerance.convention_attachAll (fun a _ issue hissue hsame => ?_) hds
    -- a reference that leads nowhere is an error, and the warning is none
    obtain ⟨name, _, rfl⟩ := List.mem_map.mp hissue
    have hseverity : Severity.error = Severity.warning := congrArg Diagnostic.severity hsame
    exact absurd hseverity (by decide)

end NativeApi
