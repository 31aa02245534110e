import NativeApi.Decl.Basic

/-!
# Edits

Single changes of a declaration, as data.  `Edit.isPrefix_diagnostics_apply`: no edit removes or
reorders diagnostics.
-/

namespace NativeApi

inductive Edit where
  | name (new : String)
  | accessibility (new : Accessibility)
  | kind (new : Kind Decl)
  | insertMetadata (item : MetadataItem)
  | eraseMetadata (tag : MetadataTag)
  | append (diagnostic : Diagnostic)
  | ensure (diagnostic : Diagnostic)
  | ensureAnyError (message : String)
  | scope (new : Option String)
  | file (new : FileIndex)
  | id (new : DeclId)

namespace Edit

def apply (d : Decl) : Edit → Decl
  | .name new => { d with name := new }
  | .accessibility new => { d with accessibility := new }
  | .kind new => { d with kind := new }
  | .insertMetadata item => { d with metadata := d.metadata.insert item }
  | .eraseMetadata tag => { d with metadata := d.metadata.erase tag }
  | .append diagnostic => d.append diagnostic
  | .ensure diagnostic => d.ensure diagnostic
  | .ensureAnyError message => d.ensureAnyError message
  | .scope new => { d with scope := new }
  | .file new => { d with file := new }
  | .id new => { d with id := new }

theorem isPrefix_diagnostics_apply (d : Decl) (e : Edit) :
    d.diagnostics <+: (e.apply d).diagnostics := by
  cases e with
  | append diagnostic => exact List.prefix_append _ _
  | ensure diagnostic => exact Diagnostics.isPrefix_ensure _ _
  | ensureAnyError message => exact Diagnostics.isPrefix_ensureAnyError _ _
  | _ => exact List.prefix_refl _

end Edit

end NativeApi
