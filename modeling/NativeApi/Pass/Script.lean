import NativeApi.Pass.Basic
import NativeApi.Decl.Edit

/-!
# Scripted passes

A pass given by data: rules for declarations and pairs of types.  The pass keeps a trace of the
calls of its hooks, so that a script also shows in which order and with what the engine calls.

The rules are asked at both entries and at the hook for the kind (`Kind.hook`), until the first rule
answers.
-/

namespace NativeApi

/-! ## Hooks -/

/-- The points at which a script can answer for a declaration. -/
inductive Hook where
  | declaration
  | record
  | enumeration
  | enumConstant
  | function
  | parameter
  | anyField
  | normalField
  | baseField
  | vtableField
  | bitField
  | unimplementedField
  | staticField
  | vtable
  | typedef
  | undefinedRecord
  | unsupported
  | container
  deriving DecidableEq

def Kind.hook {δ : Type} : Kind δ → Hook
  | record _ => .record
  | enumeration _ => .enumeration
  | enumConstant .. => .enumConstant
  | function _ => .function
  | parameter .. => .parameter
  | field _ (.normal _) => .normalField
  | field _ (.base _) => .baseField
  | field _ .vtablePointer => .vtableField
  | field _ (.bits ..) => .bitField
  | field _ (.unimplemented ..) => .unimplementedField
  | staticField .. => .staticField
  | vtable _ => .vtable
  | typedef _ => .typedef
  | undefinedRecord => .undefinedRecord
  | unsupported _ => .unsupported
  | container .. => .container

/-! ## Rules -/

/-- An edit of a script, which may ask for an id that no declaration has. -/
inductive ScriptEdit where
  | edit (e : Edit)
  | freshId

inductive ScriptAction where
  | unchanged
  | delete
  | replace (edits : List ScriptEdit)
  /-- Replace the declaration only if the edits make it another one. -/
  | update (edits : List ScriptEdit)
  /-- Replace the declaration by one edited copy for each list of edits. -/
  | many (copies : List (List ScriptEdit))
  /-- Put the declaration into a container. -/
  | wrap (role : ContainerRole)

/-- A rule: the calls that it applies to, and what it does. -/
structure ScriptRule where
  hook : Hook
  id : Option DeclId
  name : Option String
  /-- Whether the declaration has to be a root, or has to be none. -/
  isRoot : Option Bool
  /-- The id of the declaration directly around. -/
  parent : Option DeclId
  action : ScriptAction

def ScriptRule.applies (rule : ScriptRule) (hook : Hook) (ctx : Context) (d : Decl) : Bool :=
  rule.hook = hook && rule.id.all (· = d.id) && rule.name.all (· = d.name)
    && rule.isRoot.all (· = ctx.isRoot) && rule.parent.all (ctx.parent?.map Decl.id = some ·)

/-- The calls of a script that its trace records. -/
inductive ScriptEvent where
  | before (declCount : Nat) (nextId : DeclId)
  | after (declCount : Nat) (nextId : DeclId)
  | type (text : String) (ancestors : List DeclId)
  | decl (hook : Hook) (id : DeclId) (name : String) (ancestors : List DeclId)
      (children : List DeclId) (hostsMembers : Bool)

structure Script where
  rules : List ScriptRule
  /-- Types that are replaced, with what takes their place; the first pair counts. -/
  types : List (TypeRef × TypeRef)

namespace Script

/-- Steps of a script, which keep the trace, the latest event first. -/
abbrev ScriptM := PassM (List ScriptEvent)

def record (event : ScriptEvent) : ScriptM Unit := PassM.update (event :: ·)

def applyEdits (d : Decl) : List ScriptEdit → ScriptM Decl
  | [] => return d
  | .edit e :: edits => applyEdits (e.apply d) edits
  | .freshId :: edits => do
    let id ← PassM.freshId
    applyEdits { d with id } edits

def applyCopies (d : Decl) : List (List ScriptEdit) → ScriptM (List Decl)
  | [] => return []
  | edits :: copies => do
    let copy ← applyEdits d edits
    let rest ← applyCopies d copies
    return copy :: rest

def perform (d : Decl) : ScriptAction → ScriptM Answer
  | .unchanged => return .unchanged
  | .delete => return .delete
  | .replace edits => return .replace (← applyEdits d edits)
  | .update edits => return .ofUpdate d (← applyEdits d edits)
  | .many copies => return .replaceMany (← applyCopies d copies)
  | .wrap role => do
    let id ← PassM.freshId
    return .replace (Decl.ofKind id d.name d.file (.container role [d]))

/-- Asks the rules at a point; without an answer the declaration goes on. -/
def askAt (script : Script) (hook : Hook) (next : Handler (List ScriptEvent)) :
    Handler (List ScriptEvent) := fun ctx d => do
  record (.decl hook d.id d.name (ctx.ancestors.map Decl.id) (d.children.map Decl.id)
    ctx.hostsMembers)
  match script.rules.find? (·.applies hook ctx d) with
  | some rule => perform d rule.action
  | none => next ctx d

def atKind (script : Script) (kind : Kind Decl) : Handler (List ScriptEvent) :=
  script.askAt kind.hook .keep

def atField (script : Script) (offset : Nat) (content : FieldContent) :
    Handler (List ScriptEvent) :=
  script.askAt .anyField (script.atKind (.field offset content))

def pass (script : Script) : Pass (List ScriptEvent) where
  name := "script"
  before L trace := .before L.declCount L.nextId :: trace
  type? ctx type := do
    record (.type type.text (ctx.ancestors.map Decl.id))
    return (script.types.find? (·.1 = type)).map (·.2)
  hook := script.atKind
  field := script.atField
  decl := script.askAt .declaration (dispatch script.atKind script.atField)
  after L trace := (L, .after L.declCount L.nextId :: trace)

/-- Runs a script; the trace has the first event first. -/
def run (script : Script) (L : Library) : Library × List ScriptEvent :=
  let (result, trace) := script.pass.run L []
  (result, trace.reverse)

end Script

end NativeApi
