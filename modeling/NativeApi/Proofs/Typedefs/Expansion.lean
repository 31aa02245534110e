import NativeApi.Proofs.Typedefs.Acyclic
import NativeApi.TypedefStripping

/-!
# Expansion of typedefs

The pass that strips typedefs reduces the head of a type and goes on with the outcome.  Where no
typedef mentions itself this comes to an end, and what comes out is the type with every reference
to a typedef replaced by the expansion of what the typedef names.

* `Library.ExpansionStep`: the types that the expansion of a type goes on with.
  `Library.wellFounded_expansionStep`: there is no endless sequence of such steps.
* `TypeRef.substitute`: a type with something else in the place of each reference.
* `Library.withoutTypedefs_eq`: the expansion as the pass goes about it, with no record of the
  typedefs that were expanded.
* `Library.withoutTypedefs_eq_substitute`: the expansion is the full substitution.
-/

namespace NativeApi

/-! ## Substitution -/

namespace TypeRef

mutual

/-- A type in which each reference gives way to another type. -/
def substitute (f : DeclRef → TypeRef) : TypeRef → TypeRef
  | .decl ref => f ref
  | .pointer target => .pointer (target.substitute f)
  | .function result parameters convention =>
    .function (result.substitute f) (substituteAll f parameters) convention
  | .void => .void
  | .scalar s => .scalar s
  | .native spelling => .native spelling

def substituteAll (f : DeclRef → TypeRef) : List TypeRef → List TypeRef
  | [] => []
  | type :: types => type.substitute f :: substituteAll f types

end

theorem substituteAll_eq_map (f : DeclRef → TypeRef) (types : List TypeRef) :
    substituteAll f types = types.map (substitute f) := by
  induction types with
  | nil => rfl
  | cons type types ih => rw [substituteAll, ih, List.map_cons]

theorem substitute_function (f : DeclRef → TypeRef) (result : TypeRef) (parameters : List TypeRef)
    (convention : CallingConvention) :
    (TypeRef.function result parameters convention).substitute f
      = .function (result.substitute f) (parameters.map (substitute f)) convention := by
  rw [substitute, substituteAll_eq_map]

end TypeRef

namespace Library

variable {L : Library} {ref : DeclRef} {type target : TypeRef} {ids ids' : List DeclId}

/-! ## Termination -/

/-- One type is expanded in the course of the expansion of another: it is what a reference reduces
to, or it is a part of the other type. -/
inductive ExpansionStep (L : Library) : TypeRef → TypeRef → Prop
  | reduced {ref : DeclRef} : L.reduceTypedefs (.decl ref) ≠ .decl ref →
      ExpansionStep L (L.reduceTypedefs (.decl ref)) (.decl ref)
  | target {type : TypeRef} : ExpansionStep L type (.pointer type)
  | result {type : TypeRef} {parameters : List TypeRef} {convention : CallingConvention} :
      ExpansionStep L type (.function type parameters convention)
  | parameter {result type : TypeRef} {parameters : List TypeRef}
      {convention : CallingConvention} :
      type ∈ parameters → ExpansionStep L type (.function result parameters convention)

/-- **Expansion comes to an end** where no typedef mentions itself. -/
theorem wellFounded_expansionStep (hacyclic : L.TypedefsAcyclic) :
    WellFounded L.ExpansionStep := by
  refine ⟨fun type => ?_⟩
  induction type using typedef_induction hacyclic with
  | typedef ref target htarget ih =>
    constructor
    rintro _ ⟨⟩
    -- the reference reduces to what its target reduces to, which may be the target itself
    rw [reduceTypedefs_typedef hacyclic htarget]
    by_cases hsame : L.reduceTypedefs target = target
    · rwa [hsame]
    · cases target with
      | decl ref' => exact ih.inv (.reduced hsame)
      | _ => exact absurd (reduceTypedefs_of_ne_decl (by rintro _ ⟨⟩)) hsame
  | decl ref htarget =>
    constructor
    rintro _ hstep
    cases hstep with
    | reduced hne => exact absurd (reduceTypedefs_declRef htarget) hne
  | pointer target ih =>
    constructor
    rintro _ ⟨⟩
    exact ih
  | function result parameters convention ihresult ihparameters =>
    constructor
    rintro _ hstep
    cases hstep with
    | result => exact ihresult
    | parameter htype => exact ihparameters _ htype
  | _ =>
    constructor
    rintro _ ⟨⟩

/-! ## Expansion -/

theorem expandAllTypedefs_eq_map (L : Library) (ids : List DeclId) (types : List TypeRef) :
    L.expandAllTypedefs ids types = types.map (L.expandTypedefs ids) := by
  induction types with
  | nil => rw [expandAllTypedefs, List.map_nil]
  | cons type types ih => rw [expandAllTypedefs, ih, List.map_cons]

theorem expandTypedefs_function (L : Library) (ids : List DeclId) (result : TypeRef)
    (parameters : List TypeRef) (convention : CallingConvention) :
    L.expandTypedefs ids (.function result parameters convention)
      = .function (L.expandTypedefs ids result) (parameters.map (L.expandTypedefs ids))
          convention := by
  rw [expandTypedefs, expandAllTypedefs_eq_map]

theorem expandTypedefs_of_reduced (h : L.reduceTypedefs (.decl ref) = .decl ref) :
    L.expandTypedefs ids (.decl ref) = .decl ref := by
  rw [expandTypedefs]
  dsimp only
  rw [if_pos h]
  split <;> rfl

theorem expandTypedefs_congr {L M : Library} (h : L.reduceTypedefs = M.reduceTypedefs)
    (hids : ∀ id, id ∈ ids ↔ id ∈ ids') (type : TypeRef) :
    L.expandTypedefs ids type = M.expandTypedefs ids' type := by
  induction hn : ids.length using Nat.strongRecOn generalizing ids ids' type with
  | ind n ih =>
    induction type using TypeRef.induction with
    | decl ref =>
      rw [expandTypedefs, expandTypedefs, h]
      by_cases hmem : ref.id ∈ ids
      · have hwithout : ∀ id, id ∈ without ids ref.id ↔ id ∈ without ids' ref.id := fun id => by
          rw [mem_without, mem_without, hids]
        have hreduced := ih (without ids ref.id).length (hn ▸ length_without_lt hmem) hwithout
          (M.reduceTypedefs (.decl ref)) rfl
        rw [if_pos hmem, if_pos ((hids ref.id).mp hmem)]
        dsimp only
        rw [hreduced]
      · rw [if_neg hmem, if_neg fun hmem' => hmem ((hids ref.id).mpr hmem')]
    | pointer target ihtarget => rw [expandTypedefs, expandTypedefs, ihtarget]
    | function result parameters convention ihresult ihparameters =>
      rw [expandTypedefs_function, expandTypedefs_function, ihresult,
        List.map_congr_left ihparameters]
    | _ => simp only [expandTypedefs]

theorem withoutTypedefs_congr {L M : Library} (hids : ∀ id, id ∈ L.typedefIds ↔ id ∈ M.typedefIds)
    (h : L.referent? = M.referent?) : L.withoutTypedefs = M.withoutTypedefs := by
  funext type
  exact expandTypedefs_congr (reduceTypedefs_congr hids h) hids type

theorem Covers.reduceTypedefs (hacyclic : L.TypedefsAcyclic) (h : L.Covers ids type) :
    L.Covers ids (L.reduceTypedefs type) := by
  induction type using typedef_induction hacyclic with
  | typedef ref target htarget ih =>
    rw [reduceTypedefs_typedef hacyclic htarget]
    refine ih fun ref' href' id hid hreach => ?_
    exact h ref (List.mem_singleton_self ref) id hid (.head (mentions_of_mem htarget href') hreach)
  | decl ref htarget => rwa [reduceTypedefs_declRef htarget]
  | _ => rwa [reduceTypedefs_of_ne_decl (by rintro _ ⟨⟩)]

/-- What a reference reduces to does not go through the same typedef again. -/
theorem Covers.of_reduced (hacyclic : L.TypedefsAcyclic) (h : L.Covers ids (.decl ref))
    (hne : L.reduceTypedefs (.decl ref) ≠ .decl ref) :
    ref.id ∈ ids ∧ L.Covers (without ids ref.id) (L.reduceTypedefs (.decl ref)) := by
  cases htarget : L.typedefTarget? ref.id with
  | none => exact absurd (reduceTypedefs_declRef htarget) hne
  | some target =>
    rw [reduceTypedefs_typedef hacyclic htarget]
    exact ⟨h.mem htarget, (h.of_typedef hacyclic htarget).reduceTypedefs hacyclic⟩

/-- Types are expanded alike by lists that cover them. -/
theorem expandTypedefs_of_covers (hacyclic : L.TypedefsAcyclic) (h : L.Covers ids type)
    (h' : L.Covers ids' type) : L.expandTypedefs ids type = L.expandTypedefs ids' type := by
  induction type using (wellFounded_expansionStep hacyclic).induction generalizing ids ids' with
  | _ type ih =>
    cases type with
    | decl ref =>
      by_cases hsame : L.reduceTypedefs (.decl ref) = .decl ref
      · rw [expandTypedefs_of_reduced hsame, expandTypedefs_of_reduced hsame]
      · obtain ⟨hmem, hcovers⟩ := h.of_reduced hacyclic hsame
        obtain ⟨hmem', hcovers'⟩ := h'.of_reduced hacyclic hsame
        rw [expandTypedefs, expandTypedefs, if_pos hmem, if_pos hmem']
        dsimp only
        rw [if_neg hsame, if_neg hsame]
        exact ih _ (.reduced hsame) hcovers hcovers'
    | pointer target =>
      rw [expandTypedefs, expandTypedefs, ih target .target h h']
    | function result parameters convention =>
      rw [expandTypedefs_function, expandTypedefs_function,
        ih result .result h.of_result h'.of_result]
      refine congrArg (TypeRef.function _ · _) (List.map_congr_left fun type htype => ?_)
      exact ih type (.parameter htype) (h.of_parameter htype) (h'.of_parameter htype)
    | _ => simp only [expandTypedefs]

/-! ### Equations -/

@[simp] theorem withoutTypedefs_pointer (L : Library) (target : TypeRef) :
    L.withoutTypedefs (.pointer target) = .pointer (L.withoutTypedefs target) := by
  rw [withoutTypedefs, expandTypedefs]
  rfl

@[simp] theorem withoutTypedefs_function (L : Library) (result : TypeRef)
    (parameters : List TypeRef) (convention : CallingConvention) :
    L.withoutTypedefs (.function result parameters convention)
      = .function (L.withoutTypedefs result) (parameters.map L.withoutTypedefs) convention :=
  L.expandTypedefs_function L.typedefIds result parameters convention

@[simp] theorem withoutTypedefs_void (L : Library) : L.withoutTypedefs .void = .void := by
  simp only [withoutTypedefs, expandTypedefs]

@[simp] theorem withoutTypedefs_scalar (L : Library) (s : Scalar) :
    L.withoutTypedefs (.scalar s) = .scalar s := by
  simp only [withoutTypedefs, expandTypedefs]

@[simp] theorem withoutTypedefs_native (L : Library) (spelling : String) :
    L.withoutTypedefs (.native spelling) = .native spelling := by
  simp only [withoutTypedefs, expandTypedefs]

theorem withoutTypedefs_declRef (h : L.typedefTarget? ref.id = none) :
    L.withoutTypedefs (.decl ref) = .decl ref :=
  expandTypedefs_of_reduced (reduceTypedefs_declRef h)

/-- **How the pass goes about it**: the reduced type is expanded, and nothing records which typedefs
were expanded already. -/
theorem withoutTypedefs_eq (hacyclic : L.TypedefsAcyclic) (ref : DeclRef) :
    L.withoutTypedefs (.decl ref) =
      let reduced := L.reduceTypedefs (.decl ref)
      if reduced = .decl ref then .decl ref else L.withoutTypedefs reduced := by
  have hcovers := L.covers_typedefIds (.decl ref)
  dsimp only
  split
  · next hsame => exact expandTypedefs_of_reduced hsame
  · next hne =>
    obtain ⟨hmem, hreduced⟩ := hcovers.of_reduced hacyclic hne
    rw [withoutTypedefs, expandTypedefs, if_pos hmem]
    dsimp only
    rw [if_neg hne]
    exact expandTypedefs_of_covers hacyclic hreduced (L.covers_typedefIds _)

theorem withoutTypedefs_reduceTypedefs (hacyclic : L.TypedefsAcyclic) (type : TypeRef) :
    L.withoutTypedefs (L.reduceTypedefs type) = L.withoutTypedefs type := by
  cases type with
  | decl ref =>
    rw [withoutTypedefs_eq hacyclic ref]
    dsimp only
    split
    · next hsame => rw [hsame, withoutTypedefs, expandTypedefs_of_reduced hsame]
    · rfl
  | _ => rw [reduceTypedefs_of_ne_decl (by rintro _ ⟨⟩)]

/-- A reference to a typedef expands as the type of the typedef does. -/
theorem withoutTypedefs_typedef (hacyclic : L.TypedefsAcyclic)
    (htarget : L.typedefTarget? ref.id = some target) :
    L.withoutTypedefs (.decl ref) = L.withoutTypedefs target := by
  rw [← withoutTypedefs_reduceTypedefs hacyclic, reduceTypedefs_typedef hacyclic htarget,
    withoutTypedefs_reduceTypedefs hacyclic]

/-- What takes the place of a reference: the expansion of the type of a typedef, if the reference
leads to one. -/
def expansion (L : Library) (ref : DeclRef) : TypeRef :=
  match L.typedefTarget? ref.id with
  | some target => L.withoutTypedefs target
  | none => .decl ref

/-- **Expansion is full substitution.** -/
theorem withoutTypedefs_eq_substitute (hacyclic : L.TypedefsAcyclic) (type : TypeRef) :
    L.withoutTypedefs type = type.substitute L.expansion := by
  induction type using TypeRef.induction with
  | decl ref =>
    rw [TypeRef.substitute, expansion]
    cases htarget : L.typedefTarget? ref.id with
    | none => exact withoutTypedefs_declRef htarget
    | some target => exact withoutTypedefs_typedef hacyclic htarget
  | pointer target ih => rw [withoutTypedefs_pointer, TypeRef.substitute, ih]
  | function result parameters convention ihresult ihparameters =>
    rw [withoutTypedefs_function, TypeRef.substitute_function, ihresult,
      List.map_congr_left ihparameters]
  | void => rw [withoutTypedefs_void, TypeRef.substitute]
  | scalar s => rw [withoutTypedefs_scalar, TypeRef.substitute]
  | native spelling => rw [withoutTypedefs_native, TypeRef.substitute]

theorem typedefTarget?_of_mem_declRefs (hacyclic : L.TypedefsAcyclic)
    (href : ref ∈ (L.withoutTypedefs type).declRefs) : L.typedefTarget? ref.id = none := by
  induction type using typedef_induction hacyclic with
  | typedef ref' target htarget ih =>
    rw [withoutTypedefs_typedef hacyclic htarget] at href
    exact ih href
  | decl ref' htarget =>
    rw [withoutTypedefs_declRef htarget] at href
    rw [List.mem_singleton.mp href]
    exact htarget
  | pointer target ih =>
    rw [withoutTypedefs_pointer] at href
    exact ih href
  | function result parameters convention ihresult ihparameters =>
    rw [withoutTypedefs_function, TypeRef.declRefs_function, List.flatMap_map] at href
    rcases List.mem_append.mp href with hresult | hparameters
    · exact ihresult hresult
    · obtain ⟨type, htype, href⟩ := List.mem_flatMap.mp hparameters
      exact ihparameters type htype href
  | void => rw [withoutTypedefs_void] at href; exact absurd href List.not_mem_nil
  | scalar s => rw [withoutTypedefs_scalar] at href; exact absurd href List.not_mem_nil
  | native spelling => rw [withoutTypedefs_native] at href; exact absurd href List.not_mem_nil

/-! ## Libraries without typedefs -/

theorem reduceTypedefs_of_no_typedefs (h : L.typedefIds = []) (type : TypeRef) :
    L.reduceTypedefs type = type := by
  cases type with
  | decl ref => rw [reduceTypedefs, followTypedefs, h, if_neg List.not_mem_nil]
  | _ => exact reduceTypedefs_of_ne_decl (by rintro _ ⟨⟩)

theorem withoutTypedefs_of_no_typedefs (h : L.typedefIds = []) (type : TypeRef) :
    L.withoutTypedefs type = type := by
  induction type using TypeRef.induction with
  | decl ref => exact expandTypedefs_of_reduced (reduceTypedefs_of_no_typedefs h _)
  | pointer target ih => rw [withoutTypedefs_pointer, ih]
  | function result parameters convention ihresult ihparameters =>
    rw [withoutTypedefs_function, ihresult, List.map_congr_left ihparameters, List.map_id']
  | void => exact L.withoutTypedefs_void
  | scalar s => exact L.withoutTypedefs_scalar s
  | native spelling => exact L.withoutTypedefs_native spelling

end Library

end NativeApi
