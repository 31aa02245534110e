import NativeApi.Library.Lookup

/-!
# Typedef reduction

A type that refers to a typedef stands for the type that the typedef names.
`Library.reduceTypedefs` follows such references at the head of a type until it meets a type
that is no reference, a reference that leads to no typedef, or a typedef that it has followed
before; so it ends also on cycles.
-/

namespace NativeApi.Library

/-- The type that the typedef with an id names, if the id leads to a typedef. -/
def typedefTarget? (L : Library) (id : DeclId) : Option TypeRef :=
  (L.find? id).bind Decl.typedef?

def typedefIds (L : Library) : List DeclId :=
  (L.decls.filter fun d => d.typedef?.isSome).map Decl.id

def without (ids : List DeclId) (id : DeclId) : List DeclId := ids.filter (· ≠ id)

theorem length_without_lt {id : DeclId} {ids : List DeclId} (h : id ∈ ids) :
    (without ids id).length < ids.length :=
  List.length_filter_lt_length_iff_exists.2 ⟨id, h, by simp⟩

/-- Follows typedefs whose ids are in the list, each at most once. -/
def followTypedefs (L : Library) (unseen : List DeclId) (type : TypeRef) : TypeRef :=
  match type with
  | .decl ref =>
    if ref.id ∈ unseen then
      match L.typedefTarget? ref.id with
      | some target => L.followTypedefs (without unseen ref.id) target
      | none => .decl ref
    else .decl ref
  | type => type
termination_by unseen.length
decreasing_by exact length_without_lt ‹_›

/-- The type that remains when the typedefs at the head of a type are followed. -/
def reduceTypedefs (L : Library) (type : TypeRef) : TypeRef :=
  L.followTypedefs L.typedefIds type

/-- The declaration that a type refers to, typedefs followed. -/
def resolveThroughTypedefs? (L : Library) (type : TypeRef) : Option Decl :=
  match L.reduceTypedefs type with
  | .decl ref => L.find? ref.id
  | _ => none

end NativeApi.Library
