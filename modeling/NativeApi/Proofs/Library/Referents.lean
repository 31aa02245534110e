import NativeApi.Proofs.Decl.Form
import NativeApi.Proofs.Library.Lookup
import NativeApi.Verify.Representable

/-!
# What types see of a library

Whether a type may be used somewhere depends on the typedefs that it goes through and on the
declaration at their end.  Of a declaration a type sees little: what a typedef names, the
underlying type of an enum, and whether a container stands in for a native type.  That is its
referent, and libraries in which every id has the same referent judge types alike
(`Library.isEnumType_congr` and its companions).
-/

namespace NativeApi

/-! ## Referents -/

/-- What a type sees of a declaration that it refers to. -/
inductive Referent where
  | typedef (type : TypeRef)
  | enumeration (type : TypeRef)
  | standIn

namespace Kind

variable {δ : Type}

/-- What a type sees of a kind; most kinds are nothing to it. -/
def referent? : Kind δ → Option Referent
  | typedef type => some (.typedef type)
  | enumeration e => some (.enumeration e.type)
  | container .nativeBoolean _ | container .nativeChar _ => some .standIn
  | _ => none

@[simp] theorem referent?_withChildren (k : Kind δ) (children : List δ) :
    (k.withChildren children).referent? = k.referent? := by
  cases k with
  | container role members => cases role <;> rfl
  | _ => rfl

@[simp] theorem referent?_mapHandles (f : Option DeclId → Slot → Option DeclId) (k : Kind δ) :
    (k.mapHandles f).referent? = k.referent? := by
  cases k <;> rfl

end Kind

namespace Library

/-- What a type sees under an id. -/
def referent? (L : Library) (id : DeclId) : Option Referent :=
  (L.find? id).bind fun d => d.kind.referent?

theorem typedefTarget?_eq_some_iff {L : Library} {id : DeclId} {type : TypeRef} :
    L.typedefTarget? id = some type ↔ L.referent? id = some (.typedef type) := by
  rw [typedefTarget?, referent?, Option.bind_eq_some_iff, Option.bind_eq_some_iff]
  refine exists_congr fun d => and_congr_right fun _ => ?_
  unfold Decl.typedef? Kind.referent?
  cases d.kind with
  | container role members => cases role <;> simp
  | _ => simp

theorem mem_typedefIds_iff {L : Library} (h : L.ids.Nodup) {id : DeclId} :
    id ∈ L.typedefIds ↔ ∃ type, L.typedefTarget? id = some type := by
  rw [typedefIds, List.mem_map]
  constructor
  · rintro ⟨d, hd, rfl⟩
    obtain ⟨hmem, htypedef⟩ := List.mem_filter.mp hd
    obtain ⟨type, htype⟩ := Option.isSome_iff_exists.mp htypedef
    refine ⟨type, ?_⟩
    rw [typedefTarget?, (find?_eq_some_iff h).mpr ⟨hmem, rfl⟩]
    exact htype
  · rintro ⟨type, htarget⟩
    obtain ⟨d, hfind, htype⟩ := Option.bind_eq_some_iff.mp htarget
    obtain ⟨hmem, hid⟩ := (find?_eq_some_iff h).mp hfind
    exact ⟨d, List.mem_filter.mpr ⟨hmem, by rw [htype]; rfl⟩, hid⟩

/-! ## Libraries with the same referents -/

theorem mem_without {ids : List DeclId} {id id' : DeclId} :
    id' ∈ without ids id ↔ id' ∈ ids ∧ id' ≠ id := by
  rw [without, List.mem_filter, decide_eq_true_iff]

theorem followTypedefs_congr {L M : Library} (htarget : L.typedefTarget? = M.typedefTarget?)
    {unseen unseen' : List DeclId} (h : ∀ id, id ∈ unseen ↔ id ∈ unseen') (type : TypeRef) :
    L.followTypedefs unseen type = M.followTypedefs unseen' type := by
  induction hn : unseen.length using Nat.strongRecOn generalizing unseen unseen' type with
  | ind n ih =>
    cases type with
    | decl ref =>
      rw [followTypedefs, followTypedefs, htarget]
      by_cases hmem : ref.id ∈ unseen
      · rw [if_pos hmem, if_pos ((h ref.id).mp hmem)]
        cases M.typedefTarget? ref.id with
        | none => rfl
        | some target =>
          refine ih (without unseen ref.id).length (hn ▸ length_without_lt hmem) ?_ target rfl
          intro id
          rw [mem_without, mem_without, h]
      · rw [if_neg hmem, if_neg fun hmem' => hmem ((h ref.id).mpr hmem')]
    | _ =>
      rw [followTypedefs, followTypedefs]
      all_goals
        intro ref href
        cases href

/-- The type of a bitfield may be an enum, and then it is the underlying type that counts. -/
theorem isBitFieldType_eq (L : Library) (type : TypeRef) :
    L.isBitFieldType type = match L.reduceTypedefs type with
      | .scalar s => s.isInteger || s = .bool
      | .decl ref =>
        match L.referent? ref.id with
        | some (.enumeration underlying) => L.isIntegerType underlying
        | _ => false
      | _ => false := by
  rw [isBitFieldType]
  cases L.reduceTypedefs type with
  | decl ref =>
    dsimp only
    rw [referent?]
    cases L.find? ref.id with
    | none => rfl
    | some d =>
      rw [Option.map_some, Option.bind_some]
      cases d.kind with
      | container role members => cases role <;> rfl
      | _ => rfl
  | _ => rfl

/-- A default is allowed on an enum and on a stand-in. -/
theorem allowsDefault_eq (L : Library) (type : TypeRef) :
    L.allowsDefault type = match L.reduceTypedefs type with
      | .pointer _ | .scalar _ | .function .. => true
      | .decl ref =>
        match L.referent? ref.id with
        | some (.enumeration _) | some .standIn => true
        | _ => false
      | .void | .native _ => false := by
  rw [allowsDefault]
  cases L.reduceTypedefs type with
  | decl ref =>
    dsimp only
    rw [referent?]
    cases L.find? ref.id with
    | none => rfl
    | some d =>
      rw [Option.map_some, Option.bind_some]
      cases d.kind with
      | container role members => cases role <;> rfl
      | _ => rfl
  | _ => rfl

section

variable {L M : Library} (hids : ∀ id, id ∈ L.typedefIds ↔ id ∈ M.typedefIds)
  (h : L.referent? = M.referent?)

include h

theorem typedefTarget?_congr : L.typedefTarget? = M.typedefTarget? := by
  funext id
  refine Option.ext fun type => ?_
  rw [typedefTarget?_eq_some_iff, typedefTarget?_eq_some_iff, h]

/-- Where ids are distinct, the referents tell which ids are those of typedefs. -/
theorem mem_typedefIds_congr (hL : L.ids.Nodup) (hM : M.ids.Nodup) (id : DeclId) :
    id ∈ L.typedefIds ↔ id ∈ M.typedefIds := by
  rw [mem_typedefIds_iff hL, mem_typedefIds_iff hM, typedefTarget?_congr h]

include hids

/-- **Typedefs reduce alike** where every id has the same referent. -/
theorem reduceTypedefs_congr : L.reduceTypedefs = M.reduceTypedefs := by
  funext type
  exact followTypedefs_congr (typedefTarget?_congr h) hids type

theorem isEnumType_congr : L.isEnumType = M.isEnumType := by
  funext type
  rw [isEnumType, isEnumType, reduceTypedefs_congr hids h]

theorem isIntegerType_congr : L.isIntegerType = M.isIntegerType := by
  funext type
  rw [isIntegerType, isIntegerType, reduceTypedefs_congr hids h]

theorem isBitFieldType_congr : L.isBitFieldType = M.isBitFieldType := by
  funext type
  rw [isBitFieldType_eq, isBitFieldType_eq, reduceTypedefs_congr hids h,
    isIntegerType_congr hids h, h]

theorem allowsDefault_congr : L.allowsDefault = M.allowsDefault := by
  funext type
  rw [allowsDefault_eq, allowsDefault_eq, reduceTypedefs_congr hids h, h]

end

end Library

/-! ## Judgements about types -/

/-- Two libraries judge types alike. -/
structure SameTypes (L M : Library) : Prop where
  isEnumType : M.isEnumType = L.isEnumType
  isBitFieldType : M.isBitFieldType = L.isBitFieldType
  allowsDefault : M.allowsDefault = L.allowsDefault

/-- **Libraries with the same referents judge types alike.** -/
theorem SameTypes.of_referents {L M : Library}
    (hids : ∀ id, id ∈ M.typedefIds ↔ id ∈ L.typedefIds) (h : M.referent? = L.referent?) :
    SameTypes L M :=
  ⟨Library.isEnumType_congr hids h, Library.isBitFieldType_congr hids h,
    Library.allowsDefault_congr hids h⟩

end NativeApi
