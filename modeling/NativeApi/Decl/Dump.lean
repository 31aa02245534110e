import NativeApi.Decl.Basic

/-!
# Textual form of declarations

A declaration is dumped as a header line, a line for each diagnostic and the dump of its
children, two columns further in.  A header begins with the name of the kind, and a line for a
diagnostic with `!`, so the two cannot be confused.
-/

namespace NativeApi

/-- The details of a kind that the dump shows after the name of a declaration. -/
def Kind.details {δ : Type} : Kind δ → String
  | .record r =>
    (if r.vtable.isSome then " [vtable]" else "")
      ++ if r.unsupported.isEmpty then ""
        else " [" ++ toString r.unsupported.length ++ " unsupported]"
  | .enumeration e => ": " ++ e.type.text ++ if e.isLoose then " [loose]" else ""
  | .enumConstant value _ => " = " ++ toString value
  | .function f =>
    " -> " ++ f.result.text ++ (if f.isVirtual then " [virtual]" else "")
      ++ (if f.isInstance then " [instance]" else "")
      ++ if f.arrangement.isNone then " [no abi]" else ""
  | .parameter type none => ": " ++ type.text
  | .parameter type (some value) => ": " ++ type.text ++ " = " ++ value.text
  | .field offset (.normal type) | .field offset (.base type) =>
    ": " ++ type.text ++ " @" ++ toString offset
  | .field offset .vtablePointer => " @" ++ toString offset
  | .field offset (.bits start width type) =>
    ": " ++ type.text ++ " @" ++ toString offset ++ "." ++ toString start ++ ":"
      ++ toString width
  | .field offset (.unimplemented what _) => " (" ++ what ++ ") @" ++ toString offset
  | .staticField _ type => ": " ++ type.text
  | .vtable entries => " (" ++ toString entries.length ++ " entries)"
  | .typedef type => " = " ++ type.text
  | .unsupported what => " (" ++ what ++ ")"
  | .undefinedRecord | .container .. => ""

namespace Decl

def indent (depth : Nat) : String := String.ofList (List.replicate (2 * depth) ' ')

def header (d : Decl) : String :=
  d.kind.name ++ " " ++ (if d.name = "" then "<anonymous>" else d.name) ++ d.kind.details
    ++ if d.accessibility = .publicAccess then "" else " (" ++ d.accessibility.text ++ ")"

def lines (depth : Nat) (d : Decl) : List String :=
  (indent depth ++ d.header)
    :: d.diagnostics.map (fun diagnostic => indent depth ++ "  ! " ++ diagnostic.text)
    ++ d.children.attach.flatMap fun ⟨c, _⟩ => c.lines (depth + 1)
termination_by sizeOf d
decreasing_by exact sizeOf_lt_of_mem_children ‹_›

theorem lines_eq (depth : Nat) (d : Decl) :
    d.lines depth = (indent depth ++ d.header)
      :: d.diagnostics.map (fun diagnostic => indent depth ++ "  ! " ++ diagnostic.text)
      ++ d.children.flatMap (lines (depth + 1)) := by
  rw [lines]
  simp

def textOfLines (lines : List String) : String := String.join (lines.map (· ++ "\n"))

def dump (d : Decl) : String := textOfLines (d.lines 0)

end Decl

end NativeApi
