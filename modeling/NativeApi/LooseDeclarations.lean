import NativeApi.Pass.Basic

/-!
# Loose declarations

A function or a static field at the root cannot stand alone in the target.  Those of one source
file and namespace are gathered in one container, named after the file; the containers follow the
roots that remain.

* `gather`: one more element among groups by a key.
* `looseGroups`: the loose roots by file and namespace, in the order in which these first occur.
* `Library.wrapLoose`: the library with the groups in containers.
* `looseWrapping`: the pass.
-/

namespace NativeApi

/-- Whether a root cannot stand alone. -/
def Decl.isLoose (d : Decl) : Bool :=
  match d.kind with
  | .function _ | .staticField .. => true
  | _ => false

/-- What the members of one container have in common: file and namespace. -/
abbrev LooseKey := FileIndex × Option String

def Decl.looseKey (d : Decl) : LooseKey := (d.file, d.scope)

/-- The groups after one more element, which joins the group with its key, or else begins a new
group behind the others. -/
def gather {α κ : Type} [DecidableEq κ] (key : α → κ) (groups : List (κ × List α)) (a : α) :
    List (κ × List α) :=
  match groups with
  | [] => [(key a, [a])]
  | (k, members) :: rest =>
    if k = key a then (k, members ++ [a]) :: rest else (k, members) :: gather key rest a

/-- The loose declarations of a list by file and namespace. -/
def looseGroups (ds : List Decl) : List (LooseKey × List Decl) :=
  ds.foldl (fun groups d => if d.isLoose then gather Decl.looseKey groups d else groups) []

namespace Library

def containerName (L : Library) (file : FileIndex) : String :=
  match (L.filePath? file).bind SourcePath.fileStem? with
  | some stem => if stem = "" ∨ stem.startsWith "<" then "Globals" else stem
  | none => "Globals"

def looseContainer (L : Library) (id : DeclId) (key : LooseKey) (members : List Decl) : Decl :=
  { Decl.ofKind id (L.containerName key.1) key.1 (.container .looseDeclarations members) with
    scope := key.2 }

def looseContainers (L : Library) (first : DeclId) (groups : List (LooseKey × List Decl)) :
    List Decl :=
  groups.zipIdx.map fun ((key, members), i) => L.looseContainer (first + i) key members

/-- The library in which no root is loose. -/
def wrapLoose (L : Library) : Library :=
  match looseGroups L.roots with
  | [] => L
  | groups =>
    let first := (IdSource.startingAt L.nextId).next
    let kept := L.roots.filter fun d => !d.isLoose
    (L.withRoots (kept ++ L.looseContainers first groups)).withNextId (first + groups.length)

end Library

/-- The pass that wraps loose declarations.  Its state is the number of declarations that the run
wrapped. -/
def looseWrapping : Pass Nat where
  name := "wrap-loose-declarations"
  before _ _ := 0
  after L _ := (L.wrapLoose, L.roots.countP Decl.isLoose)

theorem looseWrapping_decl (ctx : Context) (d : Decl) (s : Progress Nat) :
    looseWrapping.decl ctx d s = (.unchanged, s) :=
  congrFun (dispatch_keep ctx d) s

end NativeApi
