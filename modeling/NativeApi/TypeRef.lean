import NativeApi.Identity
import NativeApi.Arrangement

/-!
# Types

The types that declarations mention.  A type is built from scalars and from references to
declarations by pointers and function pointers; a spelling that the front end did not reduce is
carried as it is.

* `TypeRef.declRefs` lists the references of a type from left to right, the result type of a
  function pointer before its parameters.
* `TypeRef.text` is the printed form.
-/

namespace NativeApi

/-! ## Scalars -/

inductive Scalar where
  | bool
  | i8
  | u8
  | i16
  | u16
  | i32
  | u32
  | i64
  | u64
  /-- A signed integer as wide as a pointer. -/
  | nint
  /-- An unsigned integer as wide as a pointer. -/
  | nuint
  /-- A UTF-16 code unit. -/
  | char16
  | f32
  | f64
  deriving DecidableEq

namespace Scalar

def name : Scalar → String
  | bool => "bool"
  | i8 => "i8"
  | u8 => "u8"
  | i16 => "i16"
  | u16 => "u16"
  | i32 => "i32"
  | u32 => "u32"
  | i64 => "i64"
  | u64 => "u64"
  | nint => "nint"
  | nuint => "nuint"
  | char16 => "char16"
  | f32 => "f32"
  | f64 => "f64"

def all : List Scalar :=
  [bool, i8, u8, i16, u16, i32, u32, i64, u64, nint, nuint, char16, f32, f64]

def ofName? (s : String) : Option Scalar := all.find? (·.name = s)

/-- The integers of a width that does not depend on the platform. -/
def isFixedWidthInteger : Scalar → Bool
  | i8 | u8 | i16 | u16 | i32 | u32 | i64 | u64 => true
  | _ => false

def isInteger : Scalar → Bool
  | nint | nuint => true
  | s => s.isFixedWidthInteger

theorem ofName?_name (s : Scalar) : ofName? s.name = some s := by
  cases s <;> rfl

end Scalar

/-! ## References and types -/

/-- A reference to a declaration, with the name that the declaration had when the reference was
made: messages need it when the id no longer leads anywhere. -/
structure DeclRef where
  id : DeclId
  name : String
  deriving DecidableEq

inductive TypeRef where
  | void
  | scalar (s : Scalar)
  | pointer (target : TypeRef)
  | function (result : TypeRef) (parameters : List TypeRef) (convention : CallingConvention)
  | decl (ref : DeclRef)
  /-- A spelling that the front end did not reduce to another form. -/
  | native (spelling : String)

namespace TypeRef

instance : Inhabited TypeRef := ⟨void⟩

mutual

def decEq : (a b : TypeRef) → Decidable (a = b)
  | .void, .void => isTrue rfl
  | .scalar s, .scalar t => decidable_of_iff (s = t) (by simp)
  | .pointer a, .pointer b =>
    have := decEq a b
    decidable_of_iff (a = b) (by simp)
  | .function r ps conv, .function r' ps' conv' =>
    have := decEq r r'
    have := decEqAll ps ps'
    decidable_of_iff (r = r' ∧ ps = ps' ∧ conv = conv') (by simp)
  | .decl a, .decl b => decidable_of_iff (a = b) (by simp)
  | .native a, .native b => decidable_of_iff (a = b) (by simp)
  | .void, .scalar _ | .void, .pointer _ | .void, .function .. | .void, .decl _
  | .void, .native _ | .scalar _, .void | .scalar _, .pointer _ | .scalar _, .function ..
  | .scalar _, .decl _ | .scalar _, .native _ | .pointer _, .void | .pointer _, .scalar _
  | .pointer _, .function .. | .pointer _, .decl _ | .pointer _, .native _
  | .function .., .void | .function .., .scalar _ | .function .., .pointer _
  | .function .., .decl _ | .function .., .native _ | .decl _, .void | .decl _, .scalar _
  | .decl _, .pointer _ | .decl _, .function .. | .decl _, .native _ | .native _, .void
  | .native _, .scalar _ | .native _, .pointer _ | .native _, .function ..
  | .native _, .decl _ => isFalse nofun

def decEqAll : (as bs : List TypeRef) → Decidable (as = bs)
  | [], [] => isTrue rfl
  | a :: as, b :: bs =>
    have := decEq a b
    have := decEqAll as bs
    decidable_of_iff (a = b ∧ as = bs) (by simp)
  | [], _ :: _ | _ :: _, [] => isFalse nofun

end

instance : DecidableEq TypeRef := decEq

mutual

def declRefs : TypeRef → List DeclRef
  | .decl ref => [ref]
  | .pointer target => target.declRefs
  | .function result parameters _ => result.declRefs ++ declRefsAll parameters
  | .void | .scalar _ | .native _ => []

def declRefsAll : List TypeRef → List DeclRef
  | [] => []
  | type :: types => type.declRefs ++ declRefsAll types

end

theorem declRefsAll_eq_flatMap (types : List TypeRef) :
    declRefsAll types = types.flatMap declRefs := by
  induction types with
  | nil => rfl
  | cons type types ih => rw [declRefsAll, ih, List.flatMap_cons]

mutual

def text : TypeRef → String
  | .void => "void"
  | .scalar s => s.name
  | .pointer target => "*" ++ target.text
  | .function result parameters convention =>
    "fn " ++ convention.text ++ "(" ++ ", ".intercalate (textAll parameters) ++ ") -> "
      ++ result.text
  | .decl ref => ref.name ++ "#" ++ toString ref.id
  | .native spelling => "native `" ++ spelling ++ "`"

def textAll : List TypeRef → List String
  | [] => []
  | type :: types => type.text :: textAll types

end

theorem textAll_eq_map (types : List TypeRef) : textAll types = types.map text := by
  induction types with
  | nil => rfl
  | cons type types ih => rw [textAll, ih, List.map_cons]

end TypeRef

end NativeApi
