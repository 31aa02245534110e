import NativeApi.Pass.Basic
import NativeApi.Verify.Issue

/-!
# Dangling references

After the rules for single declarations have changed the library, every reference in the type
that a declaration mentions itself has to lead to a declaration.
-/

namespace NativeApi

/-- The names of the references of a declaration that lead nowhere, each once. -/
def Library.danglingNames (L : Library) (d : Decl) : List String :=
  ((d.kind.declRefs.filter fun ref => !L.contains ref.id).map DeclRef.name).eraseDups

def danglingReferences : Pass Unit where
  name := "verify-type-references"
  decl ctx d :=
    let issues := (ctx.library.danglingNames d).map Issue.unresolvedReference
    return .replace { d with diagnostics := Issue.attachAll d.diagnostics issues }

end NativeApi
