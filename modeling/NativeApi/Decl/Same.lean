import NativeApi.Decl.Basic

/-!
# Sameness of declarations

Two declarations are the same if they agree in every part, where floating point numbers compare
as numbers and metadata without regard to order.  So a declaration that holds NaN is not the same
as itself, and one with `0.0` is the same as one with `-0.0`: sameness is coarser and finer than
equality.

* `Decl.same`: sameness of declarations with everything inside them, the members that a record
  carries outside the tree included.
-/

namespace NativeApi

namespace Kind

/-- Whether two kinds agree in everything but the declarations they contain. -/
def sameHead {δ : Type} : Kind δ → Kind δ → Bool
  | record a, record b =>
    a.size = b.size && a.alignment = b.alignment && a.vtable = b.vtable
      && a.vtableField = b.vtableField && a.baseField = b.baseField
  | enumeration a, enumeration b => a.type = b.type && a.isLoose = b.isLoose
  | enumConstant value isExplicit, enumConstant value' isExplicit' =>
    value = value' && isExplicit = isExplicit'
  | function a, function b =>
    a.mangledName = b.mangledName && a.result = b.result && a.isVirtual = b.isVirtual
      && a.isInstance = b.isInstance && a.arrangement = b.arrangement
  | parameter type none, parameter type' none => type = type'
  | parameter type (some value), parameter type' (some value') =>
    type = type' && value.same value'
  | field offset content, field offset' content' => offset = offset' && content = content'
  | staticField mangledName type, staticField mangledName' type' =>
    mangledName = mangledName' && type = type'
  | vtable entries, vtable entries' => entries = entries'
  | typedef type, typedef type' => type = type'
  | undefinedRecord, undefinedRecord => true
  | unsupported what, unsupported what' => what = what'
  | container role _, container role' _ => role = role'
  | _, _ => false

end Kind

namespace Decl

def sameHead (a b : Decl) : Bool :=
  a.id = b.id && a.name = b.name && a.scope = b.scope && a.accessibility = b.accessibility
    && a.file = b.file && a.diagnostics = b.diagnostics && a.metadata.same b.metadata
    && a.kind.sameHead b.kind

mutual

def same (a b : Decl) : Bool :=
  a.sameHead b && sameAll a.children b.children
    && sameAll a.kind.unrepresented b.kind.unrepresented
termination_by sizeOf a
decreasing_by
  · exact sizeOf_children_lt a
  · exact sizeOf_unrepresented_lt a

def sameAll : List Decl → List Decl → Bool
  | [], [] => true
  | a :: as, b :: bs => a.same b && sameAll as bs
  | _, _ => false
termination_by as => sizeOf as

end

end Decl

end NativeApi
