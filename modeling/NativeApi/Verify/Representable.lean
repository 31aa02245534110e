import NativeApi.Library.Typedefs

/-!
# Representable types

Where a type may be used in the target.  Each predicate looks through typedefs first.

* `Library.isEnumType`: as the underlying type of a real enum.
* `Library.isBitFieldType`: as the type of a bitfield.
* `Library.allowsDefault`: as the type of a parameter with a constant default.
-/

namespace NativeApi.Library

/-- The underlying type of an enum is an integer of fixed width. -/
def isEnumType (L : Library) (type : TypeRef) : Bool :=
  match L.reduceTypedefs type with
  | .scalar s => s.isFixedWidthInteger
  | _ => false

def isIntegerType (L : Library) (type : TypeRef) : Bool :=
  match L.reduceTypedefs type with
  | .scalar s => s.isInteger
  | _ => false

/-- The type of a bitfield is an integer, a boolean or an enum of integers. -/
def isBitFieldType (L : Library) (type : TypeRef) : Bool :=
  match L.reduceTypedefs type with
  | .scalar s => s.isInteger || s = .bool
  | .decl ref =>
    match (L.find? ref.id).map Decl.kind with
    | some (.enumeration e) => L.isIntegerType e.type
    | _ => false
  | _ => false

/-- A parameter with a default is a scalar, a pointer, an enum or a stand-in for a native
boolean or character. -/
def allowsDefault (L : Library) (type : TypeRef) : Bool :=
  match L.reduceTypedefs type with
  | .pointer _ | .scalar _ | .function .. => true
  | .decl ref =>
    match (L.find? ref.id).map Decl.kind with
    | some (.enumeration _) => true
    | some (.container role _) => role = .nativeBoolean || role = .nativeChar
    | _ => false
  | .void | .native _ => false

end NativeApi.Library
