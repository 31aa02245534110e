import NativeApi.Proofs.Decl.Form

/-!
# Types of kinds

The one type that a kind mentions itself, apart from its children, and what a change of it leaves
alone.

* `Kind.withType`: the kind with another type in the place of its own.
* `Kind.mapType`: the kind with its own type changed.
-/

namespace NativeApi.Kind

variable {δ : Type}

/-- The kind with another type of its own; a kind without one stays as it is. -/
def withType (k : Kind δ) (type : TypeRef) : Kind δ :=
  match k with
  | enumeration e => enumeration { e with type }
  | function f => function { f with result := type }
  | parameter _ value => parameter type value
  | field offset (.normal _) => field offset (.normal type)
  | field offset (.base _) => field offset (.base type)
  | field offset (.bits start width _) => field offset (.bits start width type)
  | staticField mangledName _ => staticField mangledName type
  | typedef _ => typedef type
  | record _ | enumConstant .. | field _ .vtablePointer | field _ (.unimplemented ..) | vtable _
  | undefinedRecord | unsupported _ | container .. => k

@[simp] theorem form_withType (k : Kind δ) (type : TypeRef) : (k.withType type).form = k.form := by
  cases k with
  | field offset content => cases content <;> rfl
  | _ => rfl

@[simp] theorem children_withType (k : Kind δ) (type : TypeRef) :
    (k.withType type).children = k.children := by
  cases k with
  | field offset content => cases content <;> rfl
  | _ => rfl

/-- Putting a kind's own type back changes nothing. -/
theorem withType_of_type? {k : Kind δ} {type : TypeRef} (h : k.type? = some type) :
    k.withType type = k := by
  cases k with
  | field offset content => cases content <;> simp_all [type?, withType]
  | enumeration e => obtain rfl := Option.some.inj h; rfl
  | function f => obtain rfl := Option.some.inj h; rfl
  | _ => simp_all [type?, withType]

theorem type?_withType {k : Kind δ} {old : TypeRef} (h : k.type? = some old) (type : TypeRef) :
    (k.withType type).type? = some type := by
  cases k with
  | field offset content => cases content <;> first | rfl | exact absurd h nofun
  | enumeration e => rfl
  | function f => rfl
  | parameter _ value => rfl
  | staticField mangledName _ => rfl
  | typedef _ => rfl
  | _ => exact absurd h nofun

/-- The kind with its own type changed by `f`; a kind without one stays as it is. -/
def mapType (f : TypeRef → TypeRef) (k : Kind δ) : Kind δ :=
  match k.type? with
  | some type => k.withType (f type)
  | none => k

theorem type?_mapType (f : TypeRef → TypeRef) (k : Kind δ) :
    (k.mapType f).type? = k.type?.map f := by
  rw [mapType]
  split
  · next type h => rw [type?_withType h, h, Option.map_some]
  · next h => rw [h, Option.map_none]

@[simp] theorem form_mapType (f : TypeRef → TypeRef) (k : Kind δ) :
    (k.mapType f).form = k.form := by
  rw [mapType]
  split
  · rw [form_withType]
  · rfl

@[simp] theorem children_mapType (f : TypeRef → TypeRef) (k : Kind δ) :
    (k.mapType f).children = k.children := by
  rw [mapType]
  split
  · rw [children_withType]
  · rfl

theorem mapType_eq_self {f : TypeRef → TypeRef} (h : ∀ type, f type = type) (k : Kind δ) :
    k.mapType f = k := by
  rw [mapType]
  split
  · next type htype => rw [h, withType_of_type? htype]
  · rfl

end NativeApi.Kind
