import NativeApi.Pass.Basic
import NativeApi.Verify.Issue

/-!
# Extraction of broken declarations

A declaration with an error leaves the trees together with everything inside it and joins the
list of broken declarations.  What is broken inside a broken declaration stays there.

A record that lost its vtable or its vtable pointer field, but not both, is broken as well: code
generation relies on the pair.

* `Decl.checkPairing`: the error of such a record.
* `extraction`: the pass.
-/

namespace NativeApi

def Decl.isUnpaired (d : Decl) : Bool := d.record?.any fun r => !r.isPaired

/-- A declaration, with an error if it is a record with only one of the pair. -/
def Decl.checkPairing (d : Decl) : Decl :=
  if d.isUnpaired then d.ensure Issue.unpairedVTable.diagnostic else d

/-- The pass that extracts broken declarations.  Its state holds what the run has extracted. -/
def extraction : Pass (List Decl) where
  name := "extract-broken-declarations"
  before _ _ := []
  decl ctx d := do
    let checked := d.checkPairing
    if checked.hasErrors && !ctx.above.any Decl.hasErrors then
      PassM.update (· ++ [checked])
      return .delete
    else return .replace checked
  after L extracted := (L.withBroken (L.broken ++ extracted), [])

end NativeApi
