import NativeApi.Library.Basic

/-!
# Lookup by id

The place of a declaration in the trees is a path of child positions, the first of which counts
the roots.  An id leads to the first place, in pre-order, of a declaration with that id.

* `Library.pathOf?`: the path of an id.
* `Library.declAt?`: the declaration at a path.
* `Library.find?`, `Library.parentOf?`: the declaration with an id, and the one around it.
-/

namespace NativeApi

mutual

/-- The path from a declaration down to the first one with an id. -/
def Decl.pathTo? (id : DeclId) (d : Decl) : Option (List Nat) :=
  if d.id = id then some [] else Decl.pathIn? id d.children
termination_by sizeOf d
decreasing_by exact Decl.sizeOf_children_lt d

def Decl.pathIn? (id : DeclId) : List Decl → Option (List Nat)
  | [] => none
  | d :: ds =>
    match d.pathTo? id with
    | some path => some (0 :: path)
    | none =>
      match Decl.pathIn? id ds with
      | some (i :: path) => some ((i + 1) :: path)
      | _ => none
termination_by ds => sizeOf ds

end

namespace Library

def pathOf? (L : Library) (id : DeclId) : Option (List Nat) := Decl.pathIn? id L.roots

def declBelow? : List Decl → List Nat → Option Decl
  | _, [] => none
  | ds, [i] => ds[i]?
  | ds, i :: j :: path =>
    match ds[i]? with
    | some d => declBelow? d.children (j :: path)
    | none => none

def declAt? (L : Library) (path : List Nat) : Option Decl := declBelow? L.roots path

def contains (L : Library) (id : DeclId) : Bool := (L.pathOf? id).isSome

def find? (L : Library) (id : DeclId) : Option Decl := (L.pathOf? id).bind L.declAt?

/-- The declaration around the first one with an id; a root has none. -/
def parentOf? (L : Library) (id : DeclId) : Option Decl :=
  (L.pathOf? id).bind fun path => L.declAt? path.dropLast

end Library

end NativeApi
