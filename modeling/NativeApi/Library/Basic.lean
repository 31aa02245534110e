import NativeApi.Decl.Same
import NativeApi.Decl.Tree
import NativeApi.SourcePath

/-!
# Libraries

Every declaration of one native library: the trees that are still in use, the declarations that
were taken out because they are broken, the source files, and the first id that is unused.

* `Library.visits` walks the trees in pre-order, each declaration with its ancestors.
* `Library.diagnostics` lists what is attached to them, and to the broken declarations.
* `Library.same` compares two libraries, as `Decl.same` compares declarations.
-/

namespace NativeApi

structure Library where
  files : List String
  roots : List Decl
  /-- The declarations that were taken out of the trees. -/
  broken : List Decl
  /-- The first id that was not handed out. -/
  nextId : DeclId

namespace Library

def ofRoots (files : List String) (roots : List Decl) (nextId : DeclId) : Library :=
  ⟨files, roots, [], nextId⟩

def withRoots (L : Library) (roots : List Decl) : Library := { L with roots }

def withBroken (L : Library) (broken : List Decl) : Library := { L with broken }

/-- The library in which no id below the given one is unused.  The first unused id never
decreases. -/
def withNextId (L : Library) (nextId : DeclId) : Library :=
  { L with nextId := max nextId L.nextId }

def filePath? (L : Library) (file : FileIndex) : Option String := L.files[file]?

/-! ## Walks -/

def visitsOf (roots : List Decl) : List Visit := roots.flatMap (Decl.visits [])

/-- The visits of every declaration in the trees, a parent before its children. -/
def visits (L : Library) : List Visit := visitsOf L.roots

def brokenVisits (L : Library) : List Visit := visitsOf L.broken

def decls (L : Library) : List Decl := L.roots.flatMap Decl.subtree

def ids (L : Library) : List DeclId := L.decls.map Decl.id

/-- The number of distinct ids in the trees. -/
def declCount (L : Library) : Nat := L.ids.eraseDups.length

theorem map_decl_visits (L : Library) : L.visits.map Visit.decl = L.decls := by
  simp only [visits, visitsOf, decls, List.map_flatMap, Decl.map_decl_visits]

/-! ## Diagnostics -/

def errorCount (L : Library) : Nat :=
  Diagnostics.errorCount (L.decls.flatMap Decl.diagnostics)

def hasErrors (L : Library) : Bool := 0 < L.errorCount

/-- Every diagnostic of the trees and then of the broken declarations, with its place. -/
def diagnostics (L : Library) : List AttachedDiagnostic :=
  (L.visits ++ L.brokenVisits).flatMap Visit.diagnostics

/-! ## Sameness -/

def same (L M : Library) : Bool :=
  SourcePath.sameAll L.files M.files && Decl.sameAll L.roots M.roots
    && Decl.sameAll L.broken M.broken && L.nextId = M.nextId

end Library

end NativeApi
