import NativeApi.Number.Binary64

/-!
# Shortest decimal text

The decimal text of a binary64 number with the fewest digits that still reads back as the same
number.  A positive finite number is the middle of an interval of reals that round to it; the
text is the point of that interval on the coarsest decimal grid that has one, and of several
such points the nearest to the number.  A number halfway between two points needs a rule for ties.

* `Interval.grid?` finds the point of one grid.
* `Binary64.shortest?` tries the grids from the coarsest to the finest.
* `FloatStyle` says where ties go, which exponents are written positionally and whether the others
  have a plus sign; `FloatStyle.text` writes a number.
-/

namespace NativeApi

structure Decimal where
  digits : Nat
  exponent : Int
  deriving DecidableEq

/-- The point that a number halfway between two points goes to. -/
inductive Tie where
  | up
  | even
  deriving DecidableEq

/-- Whether the lower of the two neighbours `down` and `down + 1` is preferred, when the number
lies `rest / unit` above it. -/
def Tie.prefersDown (tie : Tie) (down rest unit : Nat) : Bool :=
  2 * rest < unit || 2 * rest = unit && tie = .even && down % 2 = 0

/-- A number with the ends of the interval of reals that round to it, all as multiples of
`2 ^ unit`. -/
structure Interval where
  low : Nat
  value : Nat
  high : Nat
  unit : Int
  /-- Whether the ends belong to the interval. -/
  closed : Bool

namespace Interval

/-- The interval of a positive number `m · 2 ^ q`.  The numbers below a power of two are twice as
dense as those above it, and the ends round to the even significand. -/
def ofDyadic (d : Dyadic) : Interval :=
  { low := if d.m = Binary64.leadingBit ∧ -1074 < d.q then 4 * d.m - 1 else 4 * d.m - 2
    value := 4 * d.m
    high := 4 * d.m + 2
    unit := d.q - 2
    closed := d.m % 2 = 0 }

/-- The point of the grid of multiples of `10 ^ k` that lies in the interval and is nearest to
the value, if there is one.  With `p / r = 10 ^ k / 2 ^ unit` only the two neighbours of the value
have to be tried. -/
def grid? (tie : Tie) (i : Interval) (k : Int) : Option Decimal :=
  let p := Nat.pow 10 k.toNat <<< (-i.unit).toNat
  let r := Nat.pow 10 (-k).toNat <<< i.unit.toNat
  let within (d : Nat) : Bool :=
    if i.closed then i.low * r ≤ d * p && d * p ≤ i.high * r
    else i.low * r < d * p && d * p < i.high * r
  let down := i.value * r / p
  let nearest :=
    if tie.prefersDown down (i.value * r % p) p then [down, down + 1] else [down + 1, down]
  (nearest.find? within).map (⟨·, k⟩)

end Interval

/-- The exponents of the decimal grids, the coarsest first: no finite number reaches `10 ^ 309`,
and each lies on the grid of `10 ^ (-1074)`. -/
def gridExponents : List Int := (List.range 1384).map fun (i : Nat) => 309 - (i : Int)

/-- The shortest decimal that rounds to the absolute value of a finite number other than zero. -/
def Binary64.shortest? (tie : Tie) (x : Binary64) : Option Decimal :=
  match x.magnitude? with
  | none => none
  | some d => if d.m = 0 then none else gridExponents.findSome? ((Interval.ofDyadic d).grid? tie)

/-! ## Text -/

/-- How a number is written: where ties go, the exponents, in scientific form, of the numbers that
are written without an exponent, and whether an exponent that is not negative has a plus sign. -/
structure FloatStyle where
  tie : Tie
  positionalFrom : Int
  positionalTo : Int
  plusSign : Bool

namespace FloatStyle

/-- A decimal number in positional form, with at least one digit on each side of the point. -/
def positional (digits : String) (exponent : Int) : String :=
  if 0 ≤ exponent then digits ++ String.ofList (List.replicate exponent.toNat '0') ++ ".0"
  else
    let places := (-exponent).toNat
    let zeros := List.replicate (places + 1 - digits.length) '0'
    let padded := zeros ++ digits.toList
    String.ofList (padded.take (padded.length - places)) ++ "."
      ++ String.ofList (padded.drop (padded.length - places))

/-- A decimal number in scientific form: a point follows the first of several digits. -/
def scientific (plusSign : Bool) (digits : String) (exponent : Int) : String :=
  let shifted := exponent + ((digits.length : Int) - 1)
  let mantissa :=
    match digits.toList with
    | first :: second :: rest => String.ofList (first :: '.' :: second :: rest)
    | _ => digits
  let sign := if plusSign && 0 ≤ shifted then "+" else ""
  mantissa ++ "e" ++ sign ++ toString shifted

def decimal (style : FloatStyle) (d : Decimal) : String :=
  let digits := toString d.digits
  let shifted := d.exponent + ((digits.length : Int) - 1)
  if style.positionalFrom ≤ shifted ∧ shifted ≤ style.positionalTo then
    positional digits d.exponent
  else scientific style.plusSign digits d.exponent

/-- The text of a number.  Zero keeps its sign. -/
def text (style : FloatStyle) (x : Binary64) : String :=
  if x.isNaN then "NaN"
  else
    let unsigned :=
      if x.isInfinite then "inf"
      else match x.shortest? style.tie with
        | some d => style.decimal d
        | none => "0.0"
    if x.isNegative then "-" ++ unsigned else unsigned

end FloatStyle

example : (⟨1⟩ : Binary64).shortest? .up = some ⟨5, -324⟩ := by decide +kernel
example : (⟨0x3fb999999999999a⟩ : Binary64).shortest? .up = some ⟨1, -1⟩ := by decide +kernel
example : (⟨0x44b52d02c7e14af6⟩ : Binary64).shortest? .up = some ⟨1, 23⟩ := by decide +kernel
example : (⟨0x7fefffffffffffff⟩ : Binary64).shortest? .up = some ⟨17976931348623157, 292⟩ := by
  decide +kernel
example : (⟨0x43030a59a84e6b82⟩ : Binary64).shortest? .up = some ⟨6699255936976483, -1⟩ := by
  decide +kernel
example : (⟨0x43030a59a84e6b82⟩ : Binary64).shortest? .even = some ⟨6699255936976482, -1⟩ := by
  decide +kernel

end NativeApi
