/-!
# Binary64 numbers

A floating point number of 64 bits: a sign, 11 bits of exponent and 52 bits of fraction.  The
bits are the identity of a number, so two numbers are equal iff their bits are; `Binary64.same`
is the comparison of the IEEE standard, for which NaN differs from itself and the two zeros agree.

* `Binary64.magnitude?` reads a finite number as `m · 2 ^ q`.
* `Binary64.ofRatio?` rounds a quotient of natural numbers to the nearest number, a tie going to
  the even significand.
-/

namespace NativeApi

/-- A floating point number, given by its bits. -/
structure Binary64 where
  bits : UInt64
  deriving DecidableEq

/-- The natural number `m` with a binary exponent: `m · 2 ^ q`. -/
structure Dyadic where
  m : Nat
  q : Int
  deriving DecidableEq

namespace Binary64

/-! ## Fields -/

def isNegative (x : Binary64) : Bool := x.bits >>> 63 = 1

def exponentField (x : Binary64) : Nat := (x.bits >>> 52 &&& 0x7ff).toNat

def fractionField (x : Binary64) : Nat := (x.bits &&& 0xfffffffffffff).toNat

/-- The highest bit of the significand of a number that is not tiny, which the fraction leaves
out. -/
def leadingBit : Nat := 1 <<< 52

def isNaN (x : Binary64) : Bool := x.exponentField = 2047 && x.fractionField ≠ 0

def isInfinite (x : Binary64) : Bool := x.exponentField = 2047 && x.fractionField = 0

def isZero (x : Binary64) : Bool := x.exponentField = 0 && x.fractionField = 0

def magnitude? (x : Binary64) : Option Dyadic :=
  if x.exponentField = 2047 then none
  else if x.exponentField = 0 then some ⟨x.fractionField, -1074⟩
  else some ⟨leadingBit + x.fractionField, x.exponentField - 1075⟩

/-- The comparison of the IEEE standard. -/
def same (x y : Binary64) : Bool :=
  !x.isNaN && !y.isNaN && (x.bits = y.bits || x.isZero && y.isZero)

theorem same_self (x : Binary64) : x.same x = !x.isNaN := by
  simp [same]

/-! ## Rounding -/

/-- The quotient rounded to the nearest natural number, a tie going to the even one. -/
def roundDiv (num den : Nat) : Nat :=
  let down := num / den
  let twice := 2 * (num % den)
  if twice < den then down
  else if den < twice then down + 1
  else if down % 2 = 0 then down else down + 1

/-- The exponent `e` with `2 ^ e ≤ num / den < 2 ^ (e + 1)`, for positive arguments. -/
def log2Ratio (num den : Nat) : Int :=
  let e : Int := (num.log2 : Int) - den.log2
  if num <<< (-e).toNat < den <<< e.toNat then e - 1 else e

/-- The number that `num / den` rounds to, for a positive `den`; `none` if it is too large. -/
def ofRatio? (num den : Nat) : Option Binary64 :=
  if num = 0 then some ⟨0⟩
  else
    let q := max (-1074) (log2Ratio num den - 52)
    let m := roundDiv (num <<< (-q).toNat) (den <<< q.toNat)
    let bits := (q + 1074).toNat <<< 52 + m
    if bits < 2047 <<< 52 then some ⟨bits.toUInt64⟩ else none

/-- The number that `a · b` rounds to, for dyadic `a` and `b`. -/
def ofProduct? (a b : Dyadic) : Option Binary64 :=
  let q := a.q + b.q
  ofRatio? ((a.m * b.m) <<< q.toNat) (1 <<< (-q).toNat)

/-- The number that `a / b` rounds to, for dyadic `a` and positive dyadic `b`. -/
def ofQuotient? (a b : Dyadic) : Option Binary64 :=
  let q := a.q - b.q
  ofRatio? (a.m <<< q.toNat) (b.m <<< (-q).toNat)

def negate (x : Binary64) : Binary64 := ⟨x.bits ^^^ 0x8000000000000000⟩

example : ofRatio? 1 10 = some ⟨0x3fb999999999999a⟩ := by decide +kernel
example : ofRatio? 1 3 = some ⟨0x3fd5555555555555⟩ := by decide +kernel
example : ofRatio? (1 <<< 53 + 1) 1 = some ⟨0x4340000000000000⟩ := by decide +kernel
example : ofRatio? 1 (1 <<< 1074) = some ⟨1⟩ := by decide +kernel
example : ofRatio? (Nat.pow 10 308) 1 = some ⟨0x7fe1ccf385ebc8a0⟩ := by decide +kernel
example : ofRatio? (1 <<< 1024) 1 = none := by decide +kernel

end Binary64

end NativeApi
