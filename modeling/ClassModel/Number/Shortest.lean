import ClassModel.Number.Binary64

/-!
# `Number.Shortest` — the fewest digits that read back

A finite value stands for an interval of real numbers: those that round to it. Its text shows the
decimal with the fewest digits in that interval, of several such the nearest to the value. The
search tries one digit, two digits and so on; on each decimal grid only the two neighbours of the
value can be the nearest in the interval.
-/

set_option autoImplicit false

namespace ClassModel
namespace Number

/-- The decimal `digits * 10 ^ exponent`. -/
structure Decimal where
  digits : Nat
  exponent : Int
  deriving DecidableEq, Repr

namespace Shortest

/-- The order of `a * 10 ^ i` and `b * 2 ^ j`. -/
def compareBases (a : Nat) (i : Int) (b : Nat) (j : Int) : Ordering :=
  compare (a * Nat.pow 10 i.toNat * Nat.pow 2 (-j).toNat)
    (b * Nat.pow 2 j.toNat * Nat.pow 10 (-i).toNat)

/-- Does the decimal round to `m * 2 ^ q`? The interval ends half-way to the neighbours; its ends
belong to it when `m` is even. Below a power of two the neighbour is half as far. -/
def readsBack (m : Nat) (q : Int) (d : Decimal) : Bool :=
  let low := if m = Nat.pow 2 52 ∧ Binary64.leastExponent < q then 4 * m - 1 else 4 * m - 2
  let above := compareBases d.digits d.exponent low (q - 2)
  let below := compareBases d.digits d.exponent (4 * m + 2) (q - 2)
  (above == .gt || (above == .eq && m % 2 == 0)) && (below == .lt || (below == .eq && m % 2 == 0))

/-- The whole number of steps of `10 ^ e` in `m * 2 ^ q`. -/
def steps (m : Nat) (q e : Int) : Nat :=
  (m * Nat.pow 2 q.toNat * Nat.pow 10 (-e).toNat) /
    (Nat.pow 2 (-q).toNat * Nat.pow 10 e.toNat)

/-- The nearest decimal with this exponent that reads back, if a neighbour of the value does. -/
def onGrid (m : Nat) (q e : Int) : Option Decimal :=
  let n := steps m q e
  let lower : Decimal := ⟨n, e⟩
  let upper : Decimal := ⟨n + 1, e⟩
  match readsBack m q lower, readsBack m q upper with
  | false, false => none
  | true, false => some lower
  | false, true => some upper
  | true, true =>
    match compareBases (2 * n + 1) e (2 * m) q with
    | .gt => some lower
    | .lt => some upper
    | .eq => some (if n % 2 = 0 then lower else upper)

/-- The least `k` with `m * 2 ^ q < 10 ^ k`, searched upwards from `k`. -/
def scaleFrom : Nat → Nat → Int → Int → Int
  | 0, _, _, k => k
  | fuel + 1, m, q, k =>
    if compareBases 1 k m q = .gt then k else scaleFrom fuel m q (k + 1)

/-- The number of decimal places before the point; at most zero for a value below one. -/
def scale (m : Nat) (q : Int) : Int :=
  -- three tenths of the binary logarithm, two steps below it
  scaleFrom 16 m q (((m.log2 : Int) + q) * 3 / 10 - 10)

/-- The first decimal that reads back among those with `n`, `n + 1`, … digits. -/
def search : Nat → Nat → Int → Int → Option Decimal
  | 0, _, _, _ => none
  | tries + 1, m, q, e =>
    match onGrid m q e with
    | some d => some d
    | none => search tries m q (e - 1)

/-- The value as a decimal without loss. -/
def exact (m : Nat) (q : Int) : Decimal :=
  if 0 ≤ q then ⟨m * Nat.pow 2 q.toNat, 0⟩ else ⟨m * Nat.pow 5 (-q).toNat, q⟩

/-- The shortest decimal that reads back as `m * 2 ^ q`. -/
def decimal (m : Nat) (q : Int) : Decimal :=
  (search 17 m q (scale m q - 1)).getD (exact m q)

end Shortest
end Number
end ClassModel
