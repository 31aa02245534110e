import NativeApi.Proofs.Decl.OwnType
import NativeApi.Proofs.Decl.Throughout
import NativeApi.Proofs.Library.Referents

/-!
# Agreement up to diagnostics

Two libraries that differ in nothing but what is attached to their declarations.  How the
diagnostics of two declarations may differ is given by a tolerance, which may depend on the
arrangement of a function.

* `Decl.AgreesUpTo`: two declarations agree in every part, except for the diagnostics and the
  children, which have positions of their own.
* `Library.AgreesUpTo`: two libraries whose trees and broken declarations agree at every position.
* `Library.AgreesUpTo.sameTypes`: such libraries judge types alike.
-/

namespace NativeApi

/-! ## The arrangement of a function -/

namespace Kind

variable {δ : Type}

def arrangement? : Kind δ → Option Arrangement
  | function f => f.arrangement
  | _ => none

@[simp] theorem arrangement?_withChildren (k : Kind δ) (children : List δ) :
    (k.withChildren children).arrangement? = k.arrangement? := by
  cases k <;> rfl

@[simp] theorem arrangement?_mapHandles (f : Option DeclId → Slot → Option DeclId) (k : Kind δ) :
    (k.mapHandles f).arrangement? = k.arrangement? := by
  cases k <;> rfl

@[simp] theorem arrangement?_withType (k : Kind δ) (type : TypeRef) :
    (k.withType type).arrangement? = k.arrangement? := by
  cases k with
  | field offset content => cases content <;> rfl
  | _ => rfl

@[simp] theorem arrangement?_mapType (f : TypeRef → TypeRef) (k : Kind δ) :
    (k.mapType f).arrangement? = k.arrangement? := by
  rw [mapType]
  split
  · exact k.arrangement?_withType _
  · rfl

end Kind

/-! ## Declarations -/

/-- A relation of the diagnostics of two declarations with the given arrangement. -/
abbrev Tolerance := Option Arrangement → Diagnostics → Diagnostics → Prop

namespace Decl

/-- Two declarations agree in everything but the children, which have positions of their own, and
the diagnostics, which may differ as far as `Q` tolerates. -/
structure AgreesUpTo (Q : Tolerance) (d d' : Decl) : Prop where
  rest : d' = { d with diagnostics := d'.diagnostics, kind := d.kind.withChildren d'.children }
  diagnostics : Q d.kind.arrangement? d.diagnostics d'.diagnostics

namespace AgreesUpTo

variable {Q : Tolerance} {d d' : Decl}

theorem of_eq {diagnostics : Diagnostics} {children : List Decl}
    (h : d' = { d with diagnostics, kind := d.kind.withChildren children })
    (hQ : Q d.kind.arrangement? d.diagnostics diagnostics) : d.AgreesUpTo Q d' := by
  subst h
  refine ⟨?_, hQ⟩
  have hkind : d.kind.withChildren (d.kind.withChildren children).children
      = d.kind.withChildren children := by
    rw [← Kind.withChildren_withChildren d.kind children, Kind.withChildren_children]
  exact congrArg (fun kind : Kind Decl => { d with diagnostics, kind }) hkind.symm

theorem refl (hQ : ∀ a? ds, Q a? ds ds) (d : Decl) : d.AgreesUpTo Q d where
  rest := by
    rw [children, Kind.withChildren_children]
    exact d.eta.symm
  diagnostics := hQ _ _

theorem mono {Q' : Tolerance} (hQ : ∀ {a? ds ds'}, Q a? ds ds' → Q' a? ds ds')
    (h : d.AgreesUpTo Q d') : d.AgreesUpTo Q' d' :=
  ⟨h.rest, hQ h.diagnostics⟩

theorem withDiagnostics {Q' : Tolerance} {ds ds' : Diagnostics} (h : d.AgreesUpTo Q d')
    (hQ : Q' d.kind.arrangement? ds ds') :
    AgreesUpTo Q' { d with diagnostics := ds } { d' with diagnostics := ds' } :=
  ⟨congrArg (fun e : Decl => { e with diagnostics := ds' }) h.rest, hQ⟩

variable (h : d.AgreesUpTo Q d')

include h

theorem id : d'.id = d.id := by
  rw [h.rest]

theorem name : d'.name = d.name := by
  rw [h.rest]

theorem scope : d'.scope = d.scope := by
  rw [h.rest]

theorem kind : d'.kind = d.kind.withChildren d'.children := congrArg Decl.kind h.rest

theorem form : d'.kind.form = d.kind.form := by
  rw [h.kind, Kind.form_withChildren]

theorem fills (slot : Slot) : d'.fills slot = d.fills slot := by
  rw [fills_eq, fills_eq, h.form]

theorem isSome_typedef? : d'.typedef?.isSome = d.typedef?.isSome := by
  rw [Bool.eq_iff_iff, isSome_typedef?_iff, isSome_typedef?_iff, h.form]

end AgreesUpTo

end Decl

/-! ## Libraries -/

/-- Two libraries agree, except for diagnostics. -/
structure Library.AgreesUpTo (Q : Tolerance) (L L' : Library) : Prop where
  files : L'.files = L.files
  roots : List.Forall₂ (Decl.Throughout (Decl.AgreesUpTo Q)) L.roots L'.roots
  broken : List.Forall₂ (Decl.Throughout (Decl.AgreesUpTo Q)) L.broken L'.broken
  nextId : L'.nextId = L.nextId

namespace Library.AgreesUpTo

variable {Q : Tolerance} {L L' : Library}

theorem refl (hQ : ∀ a? ds, Q a? ds ds) (L : Library) : L.AgreesUpTo Q L := by
  have hself (ds : List Decl) : List.Forall₂ (Decl.Throughout (Decl.AgreesUpTo Q)) ds ds :=
    List.forall₂_same.mpr fun d _ => .refl (.refl hQ) d
  exact ⟨rfl, hself L.roots, hself L.broken, rfl⟩

theorem mono {Q' : Tolerance} (hQ : ∀ {a? ds ds'}, Q a? ds ds' → Q' a? ds ds')
    (h : L.AgreesUpTo Q L') : L.AgreesUpTo Q' L' where
  files := h.files
  roots := h.roots.imp fun _ _ hd => hd.mono fun he => he.mono hQ
  broken := h.broken.imp fun _ _ hd => hd.mono fun he => he.mono hQ
  nextId := h.nextId

variable (h : L.AgreesUpTo Q L')

include h

theorem decls : List.Forall₂ (Decl.AgreesUpTo Q) L.decls L'.decls :=
  List.rel_flatMap h.roots fun _ _ hd => hd.subtree

theorem ids : L'.ids = L.ids := map_eq_of_forall₂ (h.decls.imp fun _ _ hd => hd.id)

theorem contains : L'.contains = L.contains :=
  contains_congr fun id => by rw [h.ids]

theorem find? (id : DeclId) : Option.Rel (Decl.AgreesUpTo Q) (L.find? id) (L'.find? id) := by
  rw [find?_eq, find?_eq]
  exact rel_find? (fun d d' hd => by rw [hd.id]) h.decls

theorem referent? : L'.referent? = L.referent? := by
  funext id
  have hfind := h.find? id
  rw [Library.referent?, Library.referent?]
  generalize L.find? id = found at hfind ⊢
  generalize L'.find? id = found' at hfind ⊢
  cases hfind with
  | none => rfl
  | some hd => rw [Option.bind_some, Option.bind_some, hd.kind, Kind.referent?_withChildren]

theorem typedefIds : L'.typedefIds = L.typedefIds := by
  have htypedefs : List.Forall₂ (Decl.AgreesUpTo Q) (L.decls.filter fun d => d.typedef?.isSome)
      (L'.decls.filter fun d => d.typedef?.isSome) :=
    forall₂_filter (fun _ _ hd => hd.isSome_typedef?) h.decls
  exact map_eq_of_forall₂ (htypedefs.imp fun _ _ hd => hd.id)

/-- **Libraries that agree judge types alike.** -/
theorem sameTypes : SameTypes L L' :=
  .of_referents (fun id => by rw [h.typedefIds]) h.referent?

theorem reduceTypedefs : L'.reduceTypedefs = L.reduceTypedefs :=
  reduceTypedefs_congr (fun id => by rw [h.typedefIds]) h.referent?

end Library.AgreesUpTo

end NativeApi
