/-!
# Call arrangements

How a native function is called: its calling convention, as classified by the front end and as
written in the source, and how each physical argument and the result are passed.
-/

namespace NativeApi

/-! ## Calling conventions -/

inductive CallingConvention where
  | c
  | stdCall
  | fastCall
  | thisCall
  | vectorCall
  | win64
  | sysV64
  | swift
  | preserveMost
  | preserveAll
  deriving DecidableEq

namespace CallingConvention

def text : CallingConvention → String
  | c => "cdecl"
  | stdCall => "stdcall"
  | fastCall => "fastcall"
  | thisCall => "thiscall"
  | vectorCall => "vectorcall"
  | win64 => "win64"
  | sysV64 => "sysv64"
  | swift => "swiftcall"
  | preserveMost => "preserve_most"
  | preserveAll => "preserve_all"

def identifier : CallingConvention → String
  | c => "C"
  | stdCall => "StdCall"
  | fastCall => "FastCall"
  | thisCall => "ThisCall"
  | vectorCall => "VectorCall"
  | win64 => "Win64"
  | sysV64 => "SysV64"
  | swift => "Swift"
  | preserveMost => "PreserveMost"
  | preserveAll => "PreserveAll"

/-- Every convention, in the order in which messages list them. -/
def all : List CallingConvention :=
  [c, stdCall, fastCall, thisCall, vectorCall, win64, sysV64, swift, preserveMost, preserveAll]

def ofIdentifier? (s : String) : Option CallingConvention := all.find? (·.identifier = s)

theorem mem_all (convention : CallingConvention) : convention ∈ all := by
  cases convention <;> decide

theorem ofIdentifier?_identifier (convention : CallingConvention) :
    ofIdentifier? convention.identifier = some convention := by
  cases convention <;> rfl

end CallingConvention

/-- The calling convention that the source of a declaration asks for. -/
inductive DeclaredConvention where
  | known (convention : CallingConvention)
  /-- A convention that the front end does not know, as it is spelled. -/
  | unrecognized (spelling : String)
  deriving DecidableEq

/-! ## Arguments -/

/-- How one argument or result is passed. -/
inductive ArgumentClass where
  | direct
  | extend
  | indirect
  | indirectAliased
  | ignore
  | expand
  | coerceAndExpand
  | inAlloca
  deriving DecidableEq

namespace ArgumentClass

def text : ArgumentClass → String
  | direct => "Direct"
  | extend => "Extend"
  | indirect => "Indirect"
  | indirectAliased => "IndirectAliased"
  | ignore => "Ignore"
  | expand => "Expand"
  | coerceAndExpand => "CoerceAndExpand"
  | inAlloca => "InAlloca"

/-- Whether an aggregate is split across several registers or slots. -/
def isExpanded : ArgumentClass → Bool
  | expand | coerceAndExpand => true
  | _ => false

def all : List ArgumentClass :=
  [direct, extend, indirect, indirectAliased, ignore, expand, coerceAndExpand, inAlloca]

end ArgumentClass

/-- The arrangement that the front end computed for a function. -/
structure Arrangement where
  convention : CallingConvention
  effective : CallingConvention
  declared : DeclaredConvention
  result : ArgumentClass
  /-- One entry per physical argument; entry 0 of an instance method is the receiver. -/
  arguments : List ArgumentClass
  /-- Arguments are passed through an implicit stack allocation. -/
  usesInAlloca : Bool
  /-- There are details per parameter beyond the classes of the arguments. -/
  hasExtendedInfo : Bool
  deriving DecidableEq

/-- A plain arrangement of `n` arguments, all passed directly. -/
def Arrangement.direct (n : Nat) : Arrangement :=
  { convention := .c
    effective := .c
    declared := .known .c
    result := .direct
    arguments := List.replicate n .direct
    usesInAlloca := false
    hasExtendedInfo := false }

end NativeApi
