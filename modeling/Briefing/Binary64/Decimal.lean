import Briefing.Binary64.Basic

namespace Briefing

structure Decimal where
  digits : Nat
  exponent : Int
  deriving DecidableEq, Repr

namespace Decimal

def width (d : Decimal) : Int := (Nat.toDigits 10 d.digits).length + d.exponent

def positional (d : Decimal) : List Char × List Char :=
  let ds := Nat.toDigits 10 d.digits
  if 0 ≤ d.exponent then (ds ++ List.replicate d.exponent.toNat '0', [])
  else
    let places := d.exponent.natAbs
    let all := ds.leftpad (places + 1) '0'
    all.splitAt (all.length - places)

end Decimal

namespace Binary64

/-- The nearest double. Numbers far outside the range are settled by their width alone, so that a
huge exponent costs nothing. -/
def ofDecimal (d : Decimal) : Binary64 :=
  if d.digits = 0 ∨ d.width < -340 then zero
  else if 310 < d.width then infinity false
  else if 0 ≤ d.exponent then ofRatio (d.digits * Nat.pow 10 d.exponent.toNat) 1
  else ofRatio d.digits (Nat.pow 10 d.exponent.natAbs)

def steps (count : Nat) (exponent : Int) : Nat × Nat :=
  if 0 ≤ exponent then (count, unit * Nat.pow 10 exponent.toNat)
  else (count * Nat.pow 10 exponent.natAbs, unit)

-- One of the two neighbours, if it reads back: of two that do the nearer, a half going up.
def onGrid (x : Binary64) (exponent : Int) : Option Decimal :=
  let (num, den) := steps (units x.magnitude) exponent
  let below : Decimal := ⟨num / den, exponent⟩
  let above : Decimal := ⟨num / den + 1, exponent⟩
  if ofDecimal below = x then
    if ofDecimal above = x ∧ (2 * below.digits + 1) * den ≤ 2 * num then some above else some below
  else if ofDecimal above = x then some above else none

-- A double above zero lies on the last grid, that of its own units.
def shortestFrom (x : Binary64) (exponent : Int) : Nat → Decimal
  | 0 => ⟨units x.magnitude * Nat.pow 5 1074, -1074⟩
  | fuel + 1 => (onGrid x exponent).getD (shortestFrom x (exponent - 1) fuel)

def shortest (x : Binary64) : Decimal :=
  shortestFrom x (((units x.magnitude).log2 - 1074) * 31 / 100 + 24) 64

end Binary64

end Briefing
