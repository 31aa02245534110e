import NativeApi.Pass.Context
import NativeApi.Pass.Handles

/-!
# Passes

A pass changes a library from the leaves up.  It has a hook for types, hooks for declarations and
a last step for the library as a whole, and it may keep a state `σ`.

For each declaration the pass is applied first to the type that the declaration mentions itself,
then to the children from left to right; then its hook is called with the rebuilt declaration.
What the hook answers takes the place of the declaration and is not visited again.

There is a hook for each kind.  A declaration comes to it through the entry for all declarations,
and a field through the entry for all fields besides; a pass may put something else in the place of
either entry.

* `dispatch`: what the entry for all declarations does if a pass has none of its own.
* `Pass.applyType`: one type.  The hook for types is called with a type before the types inside
  it, which are visited only if the hook has no answer.
* `Pass.applyDecl`, `Pass.applyAll`: one declaration, and a list of siblings.
* `Pass.run`: a whole library.
-/

namespace NativeApi

/-! ## Answers -/

inductive Answer where
  /-- Keep the declaration that the hook was given. -/
  | unchanged
  | replace (d : Decl)
  /-- Put any number of declarations in its place. -/
  | replaceMany (ds : List Decl)

namespace Answer

def delete : Answer := replaceMany []

/-- Keep a declaration if its updated form is the same, and replace it otherwise. -/
def ofUpdate (d updated : Decl) : Answer := if updated.same d then unchanged else replace updated

def orReplace (d : Decl) : Answer → Answer
  | unchanged => replace d
  | answer => answer

def isUnchanged : Answer → Bool
  | unchanged => true
  | _ => false

def decls (d : Decl) : Answer → List Decl
  | unchanged => [d]
  | replace new => [new]
  | replaceMany news => news

end Answer

/-! ## The interface of a pass -/

/-- How far a run is: the ids that are left, and the state of the pass. -/
structure Progress (σ : Type) where
  ids : IdSource
  state : σ

abbrev PassM (σ : Type) := StateM (Progress σ)

namespace PassM

variable {σ : Type}

def freshId : PassM σ DeclId := fun s =>
  let (id, ids) := s.ids.take
  (id, { s with ids })

def update (f : σ → σ) : PassM σ Unit := fun s => ((), { s with state := f s.state })

end PassM

/-- What a hook does with a declaration whose children are done. -/
abbrev Handler (σ : Type) := Context → Decl → PassM σ Answer

def Handler.keep {σ : Type} : Handler σ := fun _ _ => pure .unchanged

/-- Hands a declaration on to the hook for its kind, but a field to the entry for fields. -/
def dispatch {σ : Type} (hook : Kind Decl → Handler σ) (field : Nat → FieldContent → Handler σ) :
    Handler σ := fun ctx d =>
  match d.kind with
  | .field offset content => field offset content ctx d
  | kind => hook kind ctx d

structure Pass (σ : Type) where
  name : String
  /-- The state in which a run over a library starts. -/
  before : Library → σ → σ := fun _ state => state
  /-- What takes the place of a type; without an answer the types inside it are visited. -/
  type? : Context → TypeRef → PassM σ (Option TypeRef) := fun _ _ => pure none
  /-- The hook for each kind, which is given what the kind holds. -/
  hook : Kind Decl → Handler σ := fun _ => .keep
  /-- The entry for fields, which is given what the field holds. -/
  field : Nat → FieldContent → Handler σ := fun offset content => hook (.field offset content)
  /-- The entry for declarations: what takes the place of one whose children are done. -/
  decl : Handler σ := dispatch hook field
  /-- The last step, on the library whose declarations are done. -/
  after : Library → σ → Library × σ := fun L state => (L, state)

section

variable {σ : Type} {hook : Kind Decl → Handler σ} {field : Nat → FieldContent → Handler σ}

/-- What holds of every hook holds of dispatching. -/
theorem dispatch_induction {P : PassM σ Answer → Prop} {ctx : Context} {d : Decl}
    (hhook : ∀ kind, P (hook kind ctx d))
    (hfield : ∀ offset content, P (field offset content ctx d)) :
    P (dispatch hook field ctx d) := by
  rw [dispatch]
  split
  · exact hfield _ _
  · exact hhook _

theorem dispatch_eq (hook : Kind Decl → Handler σ) (ctx : Context) (d : Decl) :
    dispatch hook (fun offset content => hook (.field offset content)) ctx d
      = hook d.kind ctx d := by
  rw [dispatch]
  split
  · next h => rw [h]
  · rfl

theorem dispatch_keep (ctx : Context) (d : Decl) :
    dispatch (fun _ => .keep) (fun _ _ => .keep) ctx d = (pure .unchanged : PassM σ Answer) :=
  dispatch_eq (fun _ => .keep) ctx d

end

namespace Pass

/-- The pass whose hooks answer nothing. -/
def identity : Pass Unit where
  name := "identity"

variable {σ : Type}

/-! ## The engine -/

mutual

def applyType (p : Pass σ) (ctx : Context) (type : TypeRef) : PassM σ TypeRef := do
  match ← p.type? ctx type with
  | some answer => return answer
  | none =>
    match type with
    | .pointer target => return .pointer (← p.applyType ctx target)
    | .function result parameters convention =>
      let result ← p.applyType ctx result
      let parameters ← p.applyTypes ctx parameters
      return .function result parameters convention
    | other => return other

def applyTypes (p : Pass σ) (ctx : Context) (types : List TypeRef) :
    PassM σ (List TypeRef) := do
  match types with
  | [] => return []
  | type :: rest =>
    let type ← p.applyType ctx type
    let rest ← p.applyTypes ctx rest
    return type :: rest

end

def applyFieldType (p : Pass σ) (ctx : Context) (content : FieldContent) :
    PassM σ FieldContent := do
  match content with
  | .normal type => return .normal (← p.applyType ctx type)
  | .base type => return .base (← p.applyType ctx type)
  | .bits offset width type => return .bits offset width (← p.applyType ctx type)
  | .vtablePointer | .unimplemented .. => return content

/-- Applies a pass to the type that a kind mentions itself. -/
def applyOwnType (p : Pass σ) (ctx : Context) (k : Kind Decl) : PassM σ (Kind Decl) := do
  match k with
  | .enumeration e => return .enumeration { e with type := ← p.applyType ctx e.type }
  | .function f => return .function { f with result := ← p.applyType ctx f.result }
  | .parameter type value => return .parameter (← p.applyType ctx type) value
  | .field offset content => return .field offset (← p.applyFieldType ctx content)
  | .staticField mangledName type => return .staticField mangledName (← p.applyType ctx type)
  | .typedef type => return .typedef (← p.applyType ctx type)
  | .record _ | .enumConstant .. | .vtable _ | .undefinedRecord | .unsupported _
  | .container .. => return k

mutual

def applyDecl (p : Pass σ) (ctx : Context) (d : Decl) : PassM σ (List Decl) := do
  let kind ← p.applyOwnType ctx d.kind
  let replacements ← p.applyAll (ctx.enter d) d.children
  let rebuilt := { d with kind := kind.rebuild replacements }
  let answer ← p.decl ctx rebuilt
  return answer.decls rebuilt
termination_by sizeOf d
decreasing_by exact Decl.sizeOf_children_lt d

def applyAll (p : Pass σ) (ctx : Context) (ds : List Decl) :
    PassM σ (List Replacement) := do
  match ds with
  | [] => return []
  | d :: rest =>
    let news ← p.applyDecl ctx d
    let rest ← p.applyAll ctx rest
    return (d, news) :: rest
termination_by sizeOf ds

end

def run (p : Pass σ) (L : Library) (state : σ) : Library × σ :=
  let start : Progress σ := ⟨IdSource.startingAt L.nextId, p.before L state⟩
  let (replacements, done) := (p.applyAll (Context.root L) L.roots).run start
  let changed := L.withRoots (replacements.flatMap (·.2))
  p.after (changed.withNextId done.ids.next) done.state

end Pass

end NativeApi
