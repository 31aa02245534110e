import Mathlib.Data.Fintype.Card
import Mathlib.Data.Set.Finite.Basic
import NativeApi.Proofs.Library.Referents

/-!
# Typedefs that do not mention themselves

A typedef mentions the declarations that its type refers to, at any depth of pointers and function
pointers.  Where no typedef mentions itself, directly or through other typedefs, what a type stands
for is found in finitely many steps, and there is an induction to go with it.

* `Library.Mentions`, `Library.TypedefsAcyclic`: the condition.  `Library.typedefsAcyclic_of_rank`:
  it holds if every typedef refers only to what has a lower rank.
* `Library.typedef_induction`: a property that passes from the type of a typedef to the references
  that lead to it, and from the parts of a type to the type, holds of every type.
* `Library.Covers`: a list of ids that leaves out no typedef that a type goes through.
* `Library.reduceTypedefs_typedef`: a reference to a typedef reduces as the type of the typedef.
-/

namespace NativeApi

/-! ## Types -/

/-- A property that passes from the parts of a type to the type holds of every type. -/
theorem TypeRef.induction {motive : TypeRef → Prop} (void : motive .void)
    (scalar : ∀ s, motive (.scalar s))
    (pointer : ∀ target, motive target → motive (.pointer target))
    (function : ∀ result parameters convention, motive result →
      (∀ type ∈ parameters, motive type) → motive (.function result parameters convention))
    (decl : ∀ ref, motive (.decl ref)) (native : ∀ spelling, motive (.native spelling)) :
    ∀ type, motive type
  | .void => void
  | .scalar s => scalar s
  | .pointer target => pointer target (induction void scalar pointer function decl native target)
  | .function result parameters convention =>
    function result parameters convention
      (induction void scalar pointer function decl native result)
      fun type _ => induction void scalar pointer function decl native type
  | .decl ref => decl ref
  | .native spelling => native spelling
termination_by type => sizeOf type
decreasing_by
  · simp +arith
  · simp +arith
  · have := List.sizeOf_lt_of_mem ‹_›
    simp only [TypeRef.function.sizeOf_spec]
    omega

theorem TypeRef.declRefs_function (result : TypeRef) (parameters : List TypeRef)
    (convention : CallingConvention) :
    (TypeRef.function result parameters convention).declRefs
      = result.declRefs ++ parameters.flatMap declRefs := by
  rw [declRefs, declRefsAll_eq_flatMap]

namespace Library

variable {L : Library} {ref : DeclRef} {type target : TypeRef} {ids ids' : List DeclId}
  {id id' : DeclId}

/-! ## Mentions -/

/-- The typedef with an id refers to another id, at any depth of its type. -/
def Mentions (L : Library) (id id' : DeclId) : Prop :=
  ∃ target, L.typedefTarget? id = some target ∧ ∃ ref ∈ target.declRefs, ref.id = id'

/-- No typedef mentions itself, directly or through other typedefs. -/
def TypedefsAcyclic (L : Library) : Prop := ∀ id, ¬ Relation.TransGen L.Mentions id id

theorem mem_typedefIds_of_typedefTarget? (h : L.typedefTarget? id = some target) :
    id ∈ L.typedefIds := by
  obtain ⟨d, hfind, htype⟩ := Option.bind_eq_some_iff.mp h
  rw [find?_eq] at hfind
  refine List.mem_map.mpr ⟨d, List.mem_filter.mpr ⟨List.mem_of_find?_eq_some hfind, ?_⟩, ?_⟩
  · rw [htype]
    rfl
  · simpa using List.find?_some hfind

theorem Mentions.mem_typedefIds (h : L.Mentions id id') : id ∈ L.typedefIds := by
  obtain ⟨target, htarget, _⟩ := h
  exact mem_typedefIds_of_typedefTarget? htarget

theorem mentions_of_mem (htarget : L.typedefTarget? id = some target)
    (href : ref ∈ target.declRefs) : L.Mentions id ref.id := ⟨target, htarget, ref, href, rfl⟩

/-- Typedefs that refer only to what has a lower rank do not mention themselves. -/
theorem typedefsAcyclic_of_rank (rank : DeclId → Nat)
    (h : ∀ d ∈ L.decls, ∀ target ∈ d.typedef?, ∀ ref ∈ target.declRefs, rank ref.id < rank d.id) :
    L.TypedefsAcyclic := by
  have hstep {id id' : DeclId} (hmentions : L.Mentions id id') : rank id' < rank id := by
    obtain ⟨target, htarget, ref, href, rfl⟩ := hmentions
    obtain ⟨d, hfind, htype⟩ := Option.bind_eq_some_iff.mp htarget
    rw [find?_eq] at hfind
    have hid : d.id = id := by simpa using List.find?_some hfind
    exact hid ▸ h d (List.mem_of_find?_eq_some hfind) target htype ref href
  have hrun {id id' : DeclId} (hmentions : Relation.TransGen L.Mentions id id') :
      rank id' < rank id := by
    induction hmentions with
    | single hmentions => exact hstep hmentions
    | tail _ hmentions ih => exact Nat.lt_trans (hstep hmentions) ih
  exact fun id hcycle => Nat.lt_irrefl _ (hrun hcycle)

/-- Without cycles there is no endless descent, as there are only finitely many typedefs. -/
theorem wellFounded_mentions (h : L.TypedefsAcyclic) :
    WellFounded fun id' id => L.Mentions id id' := by
  let below : { id // id ∈ L.typedefIds } → { id // id ∈ L.typedefIds } → Prop :=
    fun id' id => Relation.TransGen L.Mentions id.1 id'.1
  have hbelow : WellFounded below := by
    have : Finite { id // id ∈ L.typedefIds } := L.typedefIds.finite_toSet
    have : IsTrans _ below := ⟨fun _ _ _ hab hbc => hbc.trans hab⟩
    have : Std.Irrefl below := ⟨fun id => h id.1⟩
    exact Finite.wellFounded_of_trans_of_irrefl below
  -- what is no typedef mentions nothing
  have hother {id : DeclId} (hid : id ∉ L.typedefIds) : Acc (fun id' id => L.Mentions id id') id :=
    ⟨id, fun _ hmentions => absurd hmentions.mem_typedefIds hid⟩
  have htypedef (id : { id // id ∈ L.typedefIds }) :
      Acc (fun id' id => L.Mentions id id') id.1 := by
    induction id using hbelow.induction with
    | _ id ih =>
      refine ⟨id.1, fun id' hmentions => ?_⟩
      by_cases hid' : id' ∈ L.typedefIds
      · exact ih ⟨id', hid'⟩ (.single hmentions)
      · exact hother hid'
  refine ⟨fun id => ?_⟩
  by_cases hid : id ∈ L.typedefIds
  · exact htypedef ⟨id, hid⟩
  · exact hother hid

/-- **Induction over what types stand for.** -/
theorem typedef_induction (hacyclic : L.TypedefsAcyclic) {motive : TypeRef → Prop}
    (typedef : ∀ ref target, L.typedefTarget? ref.id = some target → motive target →
      motive (.decl ref))
    (decl : ∀ ref, L.typedefTarget? ref.id = none → motive (.decl ref)) (void : motive .void)
    (scalar : ∀ s, motive (.scalar s))
    (pointer : ∀ target, motive target → motive (.pointer target))
    (function : ∀ result parameters convention, motive result →
      (∀ type ∈ parameters, motive type) → motive (.function result parameters convention))
    (native : ∀ spelling, motive (.native spelling)) (type : TypeRef) : motive type := by
  -- a type has the property if its references have it
  have hparts (type : TypeRef) :
      (∀ ref ∈ type.declRefs, motive (.decl ref)) → motive type := by
    induction type using TypeRef.induction with
    | void => exact fun _ => void
    | scalar s => exact fun _ => scalar s
    | pointer target ih => exact fun hrefs => pointer target (ih hrefs)
    | function result parameters convention ihresult ihparameters =>
      intro hrefs
      rw [TypeRef.declRefs_function] at hrefs
      refine function result parameters convention
        (ihresult fun ref href => hrefs ref (List.mem_append_left _ href)) fun type htype => ?_
      exact ihparameters type htype fun ref href =>
        hrefs ref (List.mem_append_right _ (List.mem_flatMap.mpr ⟨type, htype, href⟩))
    | decl ref => exact fun hrefs => hrefs ref (List.mem_singleton_self ref)
    | native spelling => exact fun _ => native spelling
  have hrefs (id : DeclId) : ∀ ref : DeclRef, ref.id = id → motive (.decl ref) := by
    induction id using (wellFounded_mentions hacyclic).induction with
    | _ id ih =>
      rintro ref rfl
      cases htarget : L.typedefTarget? ref.id with
      | none => exact decl ref htarget
      | some target =>
        refine typedef ref target htarget (hparts target fun ref' href' => ?_)
        exact ih ref'.id (mentions_of_mem htarget href') ref' rfl
  exact hparts type fun ref _ => hrefs ref.id ref rfl

/-! ## Typedefs that a type goes through -/

/-- A list of ids has every typedef that a type refers to, directly or through other typedefs. -/
def Covers (L : Library) (ids : List DeclId) (type : TypeRef) : Prop :=
  ∀ ref ∈ type.declRefs, ∀ id ∈ L.typedefIds, Relation.ReflTransGen L.Mentions ref.id id → id ∈ ids

theorem covers_typedefIds (L : Library) (type : TypeRef) : L.Covers L.typedefIds type :=
  fun _ _ _ hid _ => hid

theorem Covers.mem (h : L.Covers ids (.decl ref))
    (htarget : L.typedefTarget? ref.id = some target) : ref.id ∈ ids :=
  h ref (List.mem_singleton_self ref) ref.id (mem_typedefIds_of_typedefTarget? htarget) .refl

/-- The type of a typedef does not go through the typedef again. -/
theorem Covers.of_typedef (hacyclic : L.TypedefsAcyclic) (h : L.Covers ids (.decl ref))
    (htarget : L.typedefTarget? ref.id = some target) : L.Covers (without ids ref.id) target := by
  intro ref' href' id hid hreach
  have hmentions := mentions_of_mem htarget href'
  refine mem_without.mpr ⟨h ref (List.mem_singleton_self ref) id hid (.head hmentions hreach), ?_⟩
  rintro rfl
  exact hacyclic _ (.head' hmentions hreach)

theorem Covers.of_result {result : TypeRef} {parameters : List TypeRef}
    {convention : CallingConvention} (h : L.Covers ids (.function result parameters convention)) :
    L.Covers ids result := by
  intro ref href
  refine h ref ?_
  rw [TypeRef.declRefs_function]
  exact List.mem_append_left _ href

theorem Covers.of_parameter {result : TypeRef} {parameters : List TypeRef}
    {convention : CallingConvention} (h : L.Covers ids (.function result parameters convention))
    (htype : type ∈ parameters) : L.Covers ids type := by
  intro ref href
  refine h ref ?_
  rw [TypeRef.declRefs_function]
  exact List.mem_append_right _ (List.mem_flatMap.mpr ⟨type, htype, href⟩)

/-! ## Reduction -/

theorem followTypedefs_of_declRef (h : L.typedefTarget? ref.id = none) :
    L.followTypedefs ids (.decl ref) = .decl ref := by
  rw [followTypedefs, h]
  split <;> rfl

theorem followTypedefs_of_covers (hacyclic : L.TypedefsAcyclic) (h : L.Covers ids type)
    (h' : L.Covers ids' type) : L.followTypedefs ids type = L.followTypedefs ids' type := by
  induction type using typedef_induction hacyclic generalizing ids ids' with
  | typedef ref target htarget ih =>
    rw [followTypedefs, followTypedefs, if_pos (h.mem htarget), if_pos (h'.mem htarget), htarget]
    exact ih (h.of_typedef hacyclic htarget) (h'.of_typedef hacyclic htarget)
  | decl ref htarget => rw [followTypedefs_of_declRef htarget, followTypedefs_of_declRef htarget]
  | _ => simp only [followTypedefs]

theorem reduceTypedefs_of_ne_decl (h : ∀ ref, type ≠ .decl ref) : L.reduceTypedefs type = type := by
  rw [reduceTypedefs, followTypedefs]
  exact h

theorem reduceTypedefs_declRef (h : L.typedefTarget? ref.id = none) :
    L.reduceTypedefs (.decl ref) = .decl ref := followTypedefs_of_declRef h

/-- **A reference to a typedef reduces as the type of the typedef does.** -/
theorem reduceTypedefs_typedef (hacyclic : L.TypedefsAcyclic)
    (htarget : L.typedefTarget? ref.id = some target) :
    L.reduceTypedefs (.decl ref) = L.reduceTypedefs target := by
  have hcovers := L.covers_typedefIds (.decl ref)
  rw [reduceTypedefs, followTypedefs, if_pos (hcovers.mem htarget), htarget]
  exact followTypedefs_of_covers hacyclic (hcovers.of_typedef hacyclic htarget)
    (L.covers_typedefIds target)

theorem typedefTarget?_of_reduceTypedefs (hacyclic : L.TypedefsAcyclic)
    (h : L.reduceTypedefs type = .decl ref) : L.typedefTarget? ref.id = none := by
  induction type using typedef_induction hacyclic with
  | typedef ref' target htarget ih =>
    rw [reduceTypedefs_typedef hacyclic htarget] at h
    exact ih h
  | decl ref' htarget =>
    rw [reduceTypedefs_declRef htarget] at h
    obtain rfl := TypeRef.decl.inj h
    exact htarget
  | _ =>
    rw [reduceTypedefs_of_ne_decl (by rintro _ ⟨⟩)] at h
    cases h

end Library

end NativeApi
