import NativeApi.Identity

/-!
# Diagnostics

A diagnostic is a severity with a message.  Declarations carry a list of them, and a pass only
ever appends to that list: `Diagnostics.ensure` and `Diagnostics.ensureAnyError` are the two ways
to append without repeating an entry.

* `Diagnostics.hasErrors_iff`: a list has errors iff one of its entries is an error.
* `Diagnostics.isPrefix_ensure`, `Diagnostics.isPrefix_ensureAnyError`: both keep what was there.
* `Diagnostics.mem_ensure`: afterwards the entry is present.
-/

namespace NativeApi

/-! ## Severities -/

/-- How serious a diagnostic is, from the least to the most. -/
inductive Severity where
  | info
  | warning
  | error
  deriving DecidableEq

namespace Severity

def rank : Severity → Nat
  | info => 0
  | warning => 1
  | error => 2

def text : Severity → String
  | info => "info"
  | warning => "warning"
  | error => "error"

instance : LE Severity := ⟨fun a b => a.rank ≤ b.rank⟩

instance (a b : Severity) : Decidable (a ≤ b) := inferInstanceAs (Decidable (a.rank ≤ b.rank))

def sort (severities : List Severity) : List Severity :=
  severities.mergeSort fun a b => decide (a ≤ b)

def worst? : List Severity → Option Severity
  | [] => none
  | s :: rest => some (rest.foldl (fun a b => if a ≤ b then b else a) s)

theorem rank_injective {a b : Severity} (h : a.rank = b.rank) : a = b := by
  cases a <;> cases b <;> first | rfl | simp [rank] at h

end Severity

/-! ## Single diagnostics -/

structure Diagnostic where
  severity : Severity
  message : String
  deriving DecidableEq

namespace Diagnostic

/-- An error keeps its declaration from being emitted. -/
def isError (d : Diagnostic) : Bool := d.severity = .error

def text (d : Diagnostic) : String := d.severity.text ++ ": " ++ d.message

end Diagnostic

/-! ## Lists of diagnostics -/

/-- The diagnostics of one declaration, oldest first. -/
abbrev Diagnostics := List Diagnostic

namespace Diagnostics

def hasErrors (ds : Diagnostics) : Bool := ds.any Diagnostic.isError

def errorCount (ds : Diagnostics) : Nat := ds.countP Diagnostic.isError

/-- Whether a list starts with every entry of an earlier list, in order. -/
def extends? (ds earlier : Diagnostics) : Bool := earlier.isPrefixOf ds

def ensure (ds : Diagnostics) (d : Diagnostic) : Diagnostics :=
  if d ∈ ds then ds else ds ++ [d]

/-- Appends an error with the given message unless there is an error already. -/
def ensureAnyError (ds : Diagnostics) (message : String) : Diagnostics :=
  if ds.hasErrors then ds else ds ++ [⟨.error, message⟩]

theorem hasErrors_iff {ds : Diagnostics} :
    ds.hasErrors = true ↔ ∃ d ∈ ds, d.severity = .error := by
  simp [hasErrors, Diagnostic.isError]

theorem hasErrors_eq_decide_errorCount (ds : Diagnostics) :
    ds.hasErrors = decide (0 < ds.errorCount) := by
  rw [Bool.eq_iff_iff]
  simp [hasErrors, errorCount, List.countP_pos_iff]

theorem isPrefix_ensure (ds : Diagnostics) (d : Diagnostic) : ds <+: ds.ensure d := by
  unfold ensure
  split
  · exact List.prefix_refl ds
  · exact List.prefix_append ds [d]

theorem isPrefix_ensureAnyError (ds : Diagnostics) (message : String) :
    ds <+: ds.ensureAnyError message := by
  unfold ensureAnyError
  split
  · exact List.prefix_refl ds
  · exact List.prefix_append ds _

theorem mem_ensure (ds : Diagnostics) (d : Diagnostic) : d ∈ ds.ensure d := by
  unfold ensure
  split <;> simp_all

theorem ensure_of_mem {ds : Diagnostics} {d : Diagnostic} (h : d ∈ ds) : ds.ensure d = ds := by
  simp [ensure, h]

theorem hasErrors_ensureAnyError (ds : Diagnostics) (message : String) :
    (ds.ensureAnyError message).hasErrors = true := by
  unfold ensureAnyError
  split
  · assumption
  · simp [hasErrors_iff]

end Diagnostics

/-! ## Diagnostics with their place -/

structure AttachedDiagnostic where
  decl : DeclId
  /-- The qualified name of the declaration, such as `Outer::Inner`. -/
  path : String
  diagnostic : Diagnostic
  deriving DecidableEq

def AttachedDiagnostic.text (a : AttachedDiagnostic) : String :=
  let path := if a.path = "" then "<anonymous>" else a.path
  a.diagnostic.severity.text ++ ": " ++ path ++ ": " ++ a.diagnostic.message

end NativeApi
