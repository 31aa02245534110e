import NativeApi.Pass.Basic
import NativeApi.Library.Typedefs

/-!
# Typedef stripping

Every reference to a typedef gives way to what the typedef finally names, at every depth of a
type, and the typedefs themselves are dropped.

* `Library.expandTypedefs`: a type without references to typedefs.  A typedef is expanded at most
  once on the way down into a type, which is no restriction unless a typedef mentions itself.
* `typedefStripping`: the pass.
-/

namespace NativeApi

namespace Library

mutual

/-- A type with the references to the listed typedefs expanded.  A reference that typedef
reduction leaves as it is, because it leads to no typedef or around a cycle, stays. -/
def expandTypedefs (L : Library) (unused : List DeclId) (type : TypeRef) : TypeRef :=
  match type with
  | .decl ref =>
    if ref.id ∈ unused then
      let reduced := L.reduceTypedefs (.decl ref)
      if reduced = .decl ref then .decl ref
      else L.expandTypedefs (without unused ref.id) reduced
    else .decl ref
  | .pointer target => .pointer (L.expandTypedefs unused target)
  | .function result parameters convention =>
    .function (L.expandTypedefs unused result) (L.expandAllTypedefs unused parameters) convention
  | other => other
termination_by (unused.length, sizeOf type)
decreasing_by
  · exact Prod.Lex.left _ _ (length_without_lt ‹_›)
  all_goals exact Prod.Lex.right _ (by simp +arith)

def expandAllTypedefs (L : Library) (unused : List DeclId) (types : List TypeRef) :
    List TypeRef :=
  match types with
  | [] => []
  | type :: rest => L.expandTypedefs unused type :: L.expandAllTypedefs unused rest
termination_by (unused.length, sizeOf types)
decreasing_by all_goals exact Prod.Lex.right _ (by simp +arith)

end

def withoutTypedefs (L : Library) (type : TypeRef) : TypeRef :=
  L.expandTypedefs L.typedefIds type

end Library

/-- The pass that strips typedefs. -/
def typedefStripping : Pass Unit where
  name := "strip-typedefs"
  type? ctx type :=
    match type with
    | .decl _ => return some (ctx.library.withoutTypedefs type)
    | _ => return none
  hook
    | .typedef _ => fun _ _ => return .delete
    | _ => .keep

theorem typedefStripping_decl (ctx : Context) (d : Decl) (s : Progress Unit) :
    typedefStripping.decl ctx d s
      = (if d.typedef?.isSome then .delete else .unchanged, s) := by
  have hhook : typedefStripping.decl ctx d = typedefStripping.hook d.kind ctx d :=
    dispatch_eq typedefStripping.hook ctx d
  rw [hhook, Decl.typedef?]
  cases d.kind <;> rfl

end NativeApi
