/-!
# Identity

A declaration is identified by its `DeclId`, never by its content.  `IdSource` hands out ids
one after the other; id 0 is never handed out.
-/

namespace NativeApi

abbrev DeclId := Nat

/-- The position of a source file in the file list of a library. -/
abbrev FileIndex := Nat

/-- A supply of unused ids: every id from `next` on is unused. -/
structure IdSource where
  next : DeclId
  deriving DecidableEq

namespace IdSource

/-- A supply that starts at the given id, or at 1 in place of the reserved id 0. -/
def startingAt (first : DeclId) : IdSource := ⟨max first 1⟩

def fresh : IdSource := startingAt 1

def take (s : IdSource) : DeclId × IdSource := (s.next, ⟨s.next + 1⟩)

def takeMany (s : IdSource) : Nat → List DeclId × IdSource
  | 0 => ([], s)
  | n + 1 =>
    let (id, s) := s.take
    let (ids, s) := s.takeMany n
    (id :: ids, s)

theorem one_le_next_startingAt (first : DeclId) : 1 ≤ (startingAt first).next :=
  Nat.le_max_right first 1

theorem startingAt_of_one_le {first : DeclId} (h : 1 ≤ first) :
    startingAt first = ⟨first⟩ := by
  simp [startingAt, Nat.max_eq_left h]

theorem takeMany_eq (s : IdSource) (n : Nat) :
    s.takeMany n = (List.range' s.next n, ⟨s.next + n⟩) := by
  induction n generalizing s with
  | zero => rfl
  | succ n ih => simp [takeMany, take, ih, List.range'_succ, Nat.add_comm, Nat.add_left_comm]

end IdSource

end NativeApi
