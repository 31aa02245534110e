import NativeApi.Proofs.Typedefs.Substitution

/-!
# Representable types without typedefs

Whether a type may be used somewhere is asked in two ways: verification follows the typedefs of the
library as it is, and after typedefs are stripped there are none to follow.  The answers are the
same (`typedefStripping_keeps_representable`).

* `Library.withoutTypedefs_eq_reduceTypedefs`: the expansion of a type is what the type reduces to,
  with its parts expanded.
* `Library.find?_typedefStripping`: an id leads to what became of the declaration that it led to.
* `Library.referent?_typedefStripping`: what types see there is the same, with its type expanded.
-/

namespace NativeApi

/-! ## Referents -/

/-- What is seen of a declaration whose type is changed by `f`. -/
def Referent.mapType (f : TypeRef → TypeRef) : Referent → Referent
  | typedef type => typedef (f type)
  | enumeration type => enumeration (f type)
  | standIn => standIn

theorem Kind.referent?_mapType {δ : Type} (f : TypeRef → TypeRef) (k : Kind δ) :
    (k.mapType f).referent? = k.referent?.map (Referent.mapType f) := by
  cases k with
  | field offset content => cases content <;> rfl
  | container role members => cases role <;> rfl
  | _ => rfl

namespace Library

variable {L : Library} {id : DeclId}

theorem referent?_stripped (L : Library) (d : Decl) :
    (L.stripped d).kind.referent? = d.kind.referent?.map (Referent.mapType L.withoutTypedefs) := by
  rw [stripped_eq, Kind.referent?_withChildren, Kind.referent?_mapHandles, Kind.referent?_mapType]

/-! ## Lookups -/

theorem nodup_ids_typedefStripping (h : L.ids.Nodup) :
    (typedefStripping.run L ()).1.ids.Nodup := by
  have hids : (typedefStripping.run L ()).1.ids
      = (L.decls.filter fun d => d.typedef?.isNone).map Decl.id := by
    rw [ids, decls_typedefStripping, strippedAll, List.map_map]
    exact List.map_congr_left fun d _ => (L.continues_stripped d).id
  rw [hids]
  exact h.sublist (List.filter_sublist.map _)

/-- **An id leads to what became of the declaration that it led to**, wherever that is now. -/
theorem find?_typedefStripping (h : L.ids.Nodup) (id : DeclId) :
    (typedefStripping.run L ()).1.find? id
      = ((L.find? id).filter fun d => d.typedef?.isNone).map L.stripped := by
  refine Option.ext fun d => ?_
  rw [find?_eq_some_iff (nodup_ids_typedefStripping h), mem_decls_typedefStripping,
    Option.map_eq_some_iff]
  simp only [Option.filter_eq_some_iff, find?_eq_some_iff h, Option.isNone_iff_eq_none]
  constructor
  · rintro ⟨⟨e, he, hother, rfl⟩, hid⟩
    exact ⟨e, ⟨⟨he, (L.continues_stripped e).id.symm.trans hid⟩, hother⟩, rfl⟩
  · rintro ⟨e, ⟨⟨he, hid⟩, hother⟩, rfl⟩
    exact ⟨⟨e, he, hother, rfl⟩, (L.continues_stripped e).id.trans hid⟩

theorem referent?_typedefStripping (h : L.ids.Nodup) (hnone : L.typedefTarget? id = none) :
    (typedefStripping.run L ()).1.referent? id
      = (L.referent? id).map (Referent.mapType L.withoutTypedefs) := by
  rw [typedefTarget?] at hnone
  rw [referent?, referent?, find?_typedefStripping h]
  cases hfind : L.find? id with
  | none => rfl
  | some d =>
    rw [hfind, Option.bind_some] at hnone
    rw [Option.filter_some_pos (by rw [hnone]; rfl), Option.map_some, Option.bind_some,
      Option.bind_some, referent?_stripped]

/-! ## Types -/

theorem withoutTypedefs_eq_reduceTypedefs (hacyclic : L.TypedefsAcyclic) (type : TypeRef) :
    L.withoutTypedefs type =
      match L.reduceTypedefs type with
      | .pointer target => .pointer (L.withoutTypedefs target)
      | .function result parameters convention =>
        .function (L.withoutTypedefs result) (parameters.map L.withoutTypedefs) convention
      | reduced => reduced := by
  rw [← withoutTypedefs_reduceTypedefs hacyclic]
  cases h : L.reduceTypedefs type with
  | pointer target => exact L.withoutTypedefs_pointer target
  | function result parameters convention =>
    exact L.withoutTypedefs_function result parameters convention
  | decl ref => exact withoutTypedefs_declRef (typedefTarget?_of_reduceTypedefs hacyclic h)
  | void => exact L.withoutTypedefs_void
  | scalar s => exact L.withoutTypedefs_scalar s
  | native spelling => exact L.withoutTypedefs_native spelling

theorem reduceTypedefs_typedefStripping (L : Library) (type : TypeRef) :
    (typedefStripping.run L ()).1.reduceTypedefs type = type :=
  reduceTypedefs_of_no_typedefs (typedefIds_eq_nil typedef?_of_mem_typedefStripping) type

theorem isEnumType_typedefStripping (hacyclic : L.TypedefsAcyclic) (type : TypeRef) :
    (typedefStripping.run L ()).1.isEnumType (L.withoutTypedefs type) = L.isEnumType type := by
  rw [isEnumType, isEnumType, reduceTypedefs_typedefStripping,
    withoutTypedefs_eq_reduceTypedefs hacyclic]
  cases L.reduceTypedefs type <;> rfl

theorem isIntegerType_typedefStripping (hacyclic : L.TypedefsAcyclic) (type : TypeRef) :
    (typedefStripping.run L ()).1.isIntegerType (L.withoutTypedefs type)
      = L.isIntegerType type := by
  rw [isIntegerType, isIntegerType, reduceTypedefs_typedefStripping,
    withoutTypedefs_eq_reduceTypedefs hacyclic]
  cases L.reduceTypedefs type <;> rfl

theorem isBitFieldType_typedefStripping (hsound : L.TreeIdsSound) (hacyclic : L.TypedefsAcyclic)
    (type : TypeRef) :
    (typedefStripping.run L ()).1.isBitFieldType (L.withoutTypedefs type)
      = L.isBitFieldType type := by
  rw [isBitFieldType_eq, isBitFieldType_eq, reduceTypedefs_typedefStripping,
    withoutTypedefs_eq_reduceTypedefs hacyclic]
  cases h : L.reduceTypedefs type with
  | decl ref =>
    dsimp only
    have hnone := typedefTarget?_of_reduceTypedefs hacyclic h
    rw [referent?_typedefStripping hsound.distinct hnone]
    -- an enum is judged by its underlying type, which is expanded too
    cases L.referent? ref.id with
    | none => rfl
    | some referent =>
      cases referent with
      | enumeration underlying => exact isIntegerType_typedefStripping hacyclic underlying
      | _ => rfl
  | _ => rfl

theorem allowsDefault_typedefStripping (hsound : L.TreeIdsSound) (hacyclic : L.TypedefsAcyclic)
    (type : TypeRef) :
    (typedefStripping.run L ()).1.allowsDefault (L.withoutTypedefs type)
      = L.allowsDefault type := by
  rw [allowsDefault_eq, allowsDefault_eq, reduceTypedefs_typedefStripping,
    withoutTypedefs_eq_reduceTypedefs hacyclic]
  cases h : L.reduceTypedefs type with
  | decl ref =>
    dsimp only
    have hnone := typedefTarget?_of_reduceTypedefs hacyclic h
    rw [referent?_typedefStripping hsound.distinct hnone]
    cases L.referent? ref.id with
    | none => rfl
    | some referent => cases referent <;> rfl
  | _ => rfl

end Library

/-- **Stripping typedefs changes nothing about where types may be used**, where no typedef mentions
itself: each type in the old library is judged as what the pass makes of it is judged in the new
one. -/
theorem typedefStripping_keeps_representable {L : Library} (hsound : L.TreeIdsSound)
    (hacyclic : L.TypedefsAcyclic) (above : List Decl) (type : TypeRef) (s : Progress Unit) :
    let S := (typedefStripping.run L ()).1
    let type' := (typedefStripping.applyType ⟨L, above⟩ type s).1
    S.isEnumType type' = L.isEnumType type ∧ S.isBitFieldType type' = L.isBitFieldType type ∧
      S.allowsDefault type' = L.allowsDefault type := by
  intro S type'
  have htype : type' = L.withoutTypedefs type :=
    congrArg Prod.fst (applyType_typedefStripping ⟨L, above⟩ type s)
  rw [htype]
  exact ⟨Library.isEnumType_typedefStripping hacyclic type,
    Library.isBitFieldType_typedefStripping hsound hacyclic type,
    Library.allowsDefault_typedefStripping hsound hacyclic type⟩

/-- A typedef of an enum, the type of which is a typedef as well, may be the type of a bitfield, and
so may what the pass makes of it. -/
theorem typedefStripping_keeps_representable_aliases :
    Sample.aliases.TreeIdsSound ∧ Sample.aliases.TypedefsAcyclic ∧
    let S := (typedefStripping.run Sample.aliases ()).1
    let type := TypeRef.decl ⟨4, "Mask"⟩
    let type' := (typedefStripping.applyType (.root Sample.aliases) type ⟨⟨9⟩, ()⟩).1
    type' = .decl ⟨3, "Flags"⟩ ∧ S.isBitFieldType type' = true ∧ S.isEnumType type' = false ∧
      S.allowsDefault type' = true := by
  refine ⟨Sample.treeIdsSound_aliases, Sample.typedefsAcyclic_aliases, ?_⟩
  intro S type type'
  obtain ⟨henum, hbits, hdefault⟩ := typedefStripping_keeps_representable
    Sample.treeIdsSound_aliases Sample.typedefsAcyclic_aliases [] type ⟨⟨9⟩, ()⟩
  refine ⟨?_, hbits.trans ?_, henum.trans ?_, hdefault.trans ?_⟩
  · rw [show type' = Sample.aliases.withoutTypedefs type from
      congrArg Prod.fst (applyType_typedefStripping _ _ _)]
    cbv
  · decide +kernel
  · decide +kernel
  · decide +kernel

end NativeApi
