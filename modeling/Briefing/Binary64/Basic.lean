namespace Briefing

/-- A double: its sign, and the 63 bits of exponent and fraction, whose order is that of absolute values. -/
structure Binary64 where
  negative : Bool
  magnitude : Nat
  magnitude_lt : magnitude < 1 <<< 63
  deriving DecidableEq, Repr

namespace Binary64

def fractionCount : Nat := 1 <<< 52

def infiniteMagnitude : Nat := 2047 <<< 52

def zero : Binary64 := ⟨false, 0, by decide⟩

def one : Binary64 := ⟨false, 1023 <<< 52, by decide⟩

def infinity (negative : Bool) : Binary64 := ⟨negative, infiniteMagnitude, by decide⟩

def invalid : Binary64 := ⟨true, infiniteMagnitude + (1 <<< 51), by decide⟩

def isNaN (x : Binary64) : Bool := infiniteMagnitude < x.magnitude

def isInfinite (x : Binary64) : Bool := x.magnitude == infiniteMagnitude

def isZero (x : Binary64) : Bool := x.magnitude == 0

-- Absolute values are counted in units of `2 ^ (-1074)`.
def units (magnitude : Nat) : Nat :=
  if magnitude < fractionCount then magnitude
  else (fractionCount + magnitude % fractionCount) <<< (magnitude / fractionCount - 1)

def unit : Nat := 1 <<< 1074

def divEven (num den : Nat) : Nat :=
  let q := num / den
  let r := num % den
  if 2 * r < den ∨ 2 * r = den ∧ q % 2 = 0 then q else q + 1

/-- The nearest magnitude to `num / den` units. The quotient keeps 53 significant bits, and what
rounds up into the next power of two carries into the exponent. -/
def nearest (num den : Nat) : Nat :=
  let shift := (num / den).log2 - 52
  shift * fractionCount + divEven num (den <<< shift)

def ofUnits (negative : Bool) (num den : Nat) : Binary64 :=
  ⟨negative, min (nearest num den) infiniteMagnitude,
    Nat.lt_of_le_of_lt (Nat.min_le_right _ _) (by decide)⟩

def ofRatio (num den : Nat) : Binary64 := ofUnits false (num * unit) den

def ofNat (n : Nat) : Binary64 := ofRatio n 1

def neg (x : Binary64) : Binary64 := { x with negative := !x.negative }

def ofInt (n : Int) : Binary64 :=
  if n < 0 then (ofNat n.natAbs).neg else ofNat n.natAbs

def signedUnits (x : Binary64) : Int :=
  if x.negative then -(units x.magnitude : Int) else units x.magnitude

def quiet (x : Binary64) : Binary64 :=
  if x.magnitude < infiniteMagnitude + (1 <<< 51) then
    ⟨x.negative, min (x.magnitude + (1 <<< 51)) ((1 <<< 63) - 1), by omega⟩
  else x

/-- The nearest double to the sum. A sum of zero is positive unless both parts are negative. -/
def add (x y : Binary64) : Binary64 :=
  if x.isNaN then x.quiet
  else if y.isNaN then y.quiet
  else if x.isInfinite then
    if y.isInfinite && x.negative != y.negative then invalid else x
  else if y.isInfinite then y
  else
    let sum := x.signedUnits + y.signedUnits
    ofUnits (if sum = 0 then x.negative && y.negative else sum < 0) sum.natAbs 1

def divPositive (x y : Binary64) : Binary64 :=
  ofRatio (units x.magnitude) (units y.magnitude)

def place (x : Binary64) : Int := if x.negative then -(x.magnitude : Int) else x.magnitude

def lt (x y : Binary64) : Bool := !x.isNaN && !y.isNaN && x.place < y.place

def le (x y : Binary64) : Bool := !x.isNaN && !y.isNaN && x.place ≤ y.place

def lesser (x y : Binary64) : Binary64 := if y.lt x then y else x

/-- The place of a double in the total order: negative zero comes right before zero, and what is
no number lies beyond the infinities, on the side of its sign. -/
def rank (x : Binary64) : Int :=
  if x.negative then -(x.magnitude : Int) - 1 else x.magnitude

theorem rank_inj {x y : Binary64} (h : x.rank = y.rank) : x = y := by
  cases x with
  | mk s m hm =>
    cases y with
    | mk t n hn =>
      cases s <;> cases t <;> simp [rank] at h ⊢ <;> omega

def ofBits (bits : UInt64) : Binary64 :=
  ⟨(1 <<< 63) ≤ bits.toNat, bits.toNat % (1 <<< 63), Nat.mod_lt _ (by decide)⟩

def toBits (x : Binary64) : UInt64 :=
  UInt64.ofNat ((if x.negative then 1 <<< 63 else 0) + x.magnitude)

end Binary64

end Briefing
