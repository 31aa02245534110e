import NativeApi.Json.Malformed
import NativeApi.Number.Binary64

/-!
# JSON numbers

Reading a number.  A number without fraction and exponent is an integer while it fits into 64
bits; any other is a floating point number.

The digits of a floating point number are gathered in a 64 bit significand; those that do not fit
any more are dropped, in the integer part at the price of a larger exponent.  The significand is
rounded to binary64 and then multiplied by or divided by a power of ten, so that a number is
rounded more than once.

* `number`: an unsigned number at the start of a text.
-/

namespace NativeApi.Json

inductive Number where
  | integer (value : Int)
  | float (value : Binary64)

def digitValue (c : Char) : Nat := c.toNat - '0'.toNat

def maxSignificand : Nat := UInt64.size - 1

/-- Appends digits to a significand while they fit; also how many did. -/
def absorb (significand : Nat) : List Char → Nat × Nat
  | [] => (significand, 0)
  | c :: rest =>
    let next := significand * 10 + digitValue c
    if maxSignificand < next then (significand, 0)
    else
      let (final, count) := absorb next rest
      (final, count + 1)

def powerOfTen (exponent : Nat) : Dyadic :=
  ((Binary64.ofRatio? (Nat.pow 10 exponent) 1).bind Binary64.magnitude?).getD ⟨1, 0⟩

/-- A number as a dyadic one; finite by construction wherever this is used. -/
def dyadic (x : Binary64) : Dyadic := x.magnitude?.getD ⟨0, 0⟩

/-- A positive number times a power of ten, in steps of at most `10 ^ 308`; `none` if it is too
large. -/
def scale (x : Binary64) (exponent : Int) : Option Binary64 :=
  if exponent.natAbs ≤ 308 then
    if 0 ≤ exponent then Binary64.ofProduct? (dyadic x) (powerOfTen exponent.natAbs)
    else Binary64.ofQuotient? (dyadic x) (powerOfTen exponent.natAbs)
  else if x.isZero then some x
  else if 0 ≤ exponent then none
  else (Binary64.ofQuotient? (dyadic x) (powerOfTen 308)).bind (scale · (exponent + 308))
termination_by exponent.natAbs

def assemble (negative : Bool) (significand : Nat) (exponent : Int) :
    Except Malformed Number :=
  match (Binary64.ofRatio? significand 1).bind (scale · exponent) with
  | some x => .ok (.float (if negative then x.negate else x))
  | none => .error .numberOutOfRange

def maxExponent : Nat := 0x7fffffff

/-- The exponent that begins after `e`, and what follows it, for a number whose digits are read. -/
def exponentPart (negative : Bool) (significand : Nat) (exponent : Int) (cs : List Char) :
    Except Malformed (Number × List Char) :=
  let (isDown, cs) :=
    match cs with
    | '+' :: rest => (false, rest)
    | '-' :: rest => (true, rest)
    | rest => (false, rest)
  let digits := cs.takeWhile Char.isDigit
  let rest := cs.dropWhile Char.isDigit
  if digits = [] then
    .error (if cs = [] then .endInValue else .invalidNumber)
  else
    let written := digits.foldl (fun n c => n * 10 + digitValue c) 0
    if maxExponent < written then
      if significand ≠ 0 ∧ !isDown then .error .numberOutOfRange
      else .ok (.float (if negative then (⟨0⟩ : Binary64).negate else ⟨0⟩), rest)
    else
      let final := if isDown then exponent - written else exponent + written
      (assemble negative significand final).map (·, rest)

def floatEnd (negative : Bool) (significand : Nat) (exponent : Int) (cs : List Char) :
    Except Malformed (Number × List Char) :=
  match cs with
  | 'e' :: rest | 'E' :: rest => exponentPart negative significand exponent rest
  | rest => (assemble negative significand exponent).map (·, rest)

def fractionPart (negative : Bool) (significand : Nat) (exponent : Int) (cs : List Char) :
    Except Malformed (Number × List Char) :=
  let digits := cs.takeWhile Char.isDigit
  if digits = [] then
    .error (if cs = [] then .endInValue else .invalidNumber)
  else
    let (significand, count) := absorb significand digits
    floatEnd negative significand (exponent - count) (cs.dropWhile Char.isDigit)

/-- The number that an integer without fraction and exponent stands for: negative zero and what
does not fit into 64 bits are floating point numbers. -/
def wholeNumber (negative : Bool) (significand : Nat) : Number :=
  if negative then
    if significand = 0 ∨ 0x8000000000000000 < significand then
      .float ((Binary64.ofRatio? significand 1).getD ⟨0⟩).negate
    else .integer (-significand)
  else .integer significand

/-- A number whose sign was read, and what follows it. -/
def number (negative : Bool) (cs : List Char) : Except Malformed (Number × List Char) :=
  let digits := cs.takeWhile Char.isDigit
  let rest := cs.dropWhile Char.isDigit
  match digits with
  | [] => .error (if cs = [] then .endInValue else .invalidNumber)
  | '0' :: _ :: _ => .error .invalidNumber
  | digits =>
    let (significand, count) := absorb 0 digits
    let dropped := digits.length - count
    match rest with
    | '.' :: rest => fractionPart negative significand dropped rest
    | rest =>
      if dropped = 0 ∧ rest.head? ≠ some 'e' ∧ rest.head? ≠ some 'E' then
        .ok (wholeNumber negative significand, rest)
      else floatEnd negative significand dropped rest

end NativeApi.Json
