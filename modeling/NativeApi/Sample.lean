import NativeApi.Library.Builder

/-!
# A sample library

The declarations of a small header, which between them meet most rules of verification.
-/

namespace NativeApi.Sample

/-- The virtual method `Draw` asks for the platform error code. -/
def virtualWithErrorCode (d : Decl) : Decl :=
  { d with
    metadata := d.metadata.insert .setLastError
    kind :=
      match d.kind with
      | .function f => .function { f with isVirtual := true }
      | k => k }

/-- The receiver of `Resize` is split across registers, and the method is protected. -/
def splitReceiver (d : Decl) : Decl :=
  { d with
    accessibility := .protectedAccess
    kind :=
      match d.kind with
      | .function f =>
        .function { f with
          arrangement := f.arrangement.map fun a =>
            { a with arguments := a.arguments.set 0 .expand } }
      | k => k }

abbrev Build := StateM Builder

def make (name : String) (kind : Kind Decl) : Build Decl := fun b => b.make name kind

def build : Build Unit := do
  modify fun b => (b.addFile "include/widget.h").2
  let read ← make "Read" (.enumConstant 1 true)
  let write ← make "Write" (.enumConstant 2 true)
  let flags ← make "Flags" (.enumeration ⟨.scalar .nuint, false, [read, write]⟩)
  let handle ← make "Handle" (.typedef (.pointer .void))
  let vtableField ← make "VirtualMethodTablePointer" (.field 0 .vtablePointer)
  let draw := virtualWithErrorCode (← make "Draw" (.newMethod "Draw" []))
  let vtable ← make "VirtualMethodTable" (.vtable [⟨"Draw", .functionPointer, some draw.id⟩])
  let widgetField ← make "Widget" (.field 8 (.normal (.scalar .i32)))
  let mode ← make "Mode" (.field 12 (.bits 0 3 (.decl ⟨flags.id, "Flags"⟩)))
  let width ← make "width" (.parameter (.scalar .i32) none)
  let label ← make "label"
    (.parameter (.pointer (.scalar .char16)) (some (.string "untitled")))
  let resize := splitReceiver (← make "Resize" (.newMethod "Resize" [width, label]))
  let widget ← make "Widget"
    (.newRecord [vtableField, vtable, draw, widgetField, mode, resize])
  let parent ← make "parent" (.parameter (.decl ⟨handle.id, "Handle"⟩) none)
  let create ← make "CreateWidget" (.newFunction "CreateWidget" [parent])
  let template ← make "Container" (.unsupported "ClassTemplate")
  let template := template.append ⟨.error, "ClassTemplate declarations are not supported"⟩
  for root in [flags, handle, widget, create, template] do
    modify fun b => (b.push root).2

def library : Library := (build.run .empty).2.library

end NativeApi.Sample
