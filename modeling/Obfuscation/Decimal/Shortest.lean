/-!
The shortest decimal of a binary floating-point value: of the decimals that round to it, the one
with the fewest significant digits, and of two such the one nearer the value, a tie going to the
even last digit.
-/

namespace Obfuscation.Decimal

/-- A finite non-negative double as `m · 2^q`, with a flag for a power of two whose neighbour
below is half as far as its neighbour above. -/
structure Binary where
  m : Nat
  q : Int
  narrowBelow : Bool
  deriving Repr, DecidableEq

def Binary.ofBits (b : UInt64) : Binary :=
  let e := ((b >>> 52) &&& 0x7FF).toNat
  let f := (b &&& 0xFFFFFFFFFFFFF).toNat
  if e == 0 then ⟨f, -1074, false⟩ else ⟨Nat.pow 2 52 + f, (e : Int) - 1075, f == 0 && e > 1⟩

structure Dec where
  digits : Nat
  exp : Int
  deriving Repr, DecidableEq

def compareScaled (a : Nat) (i : Int) (n : Nat) (j : Int) : Ordering :=
  compare (a * Nat.pow 10 i.toNat * Nat.pow 2 (-j).toNat)
    (n * Nat.pow 2 j.toNat * Nat.pow 10 (-i).toNat)

/-- Whether a decimal lies among the reals that round to the value (to nearest, ties to even). -/
def Binary.readsBack (x : Binary) (d : Dec) : Bool :=
  let lo := if x.narrowBelow then 4 * x.m - 1 else 4 * x.m - 2
  let hi := 4 * x.m + 2
  let inclusive := x.m % 2 == 0
  let cl := compareScaled d.digits d.exp lo (x.q - 2)
  let ch := compareScaled d.digits d.exp hi (x.q - 2)
  (cl == .gt || (inclusive && cl == .eq)) && (ch == .lt || (inclusive && ch == .eq))

def Binary.floorScaled (x : Binary) (g : Int) : Nat :=
  x.m * Nat.pow 2 x.q.toNat * Nat.pow 10 (-g).toNat /
    (Nat.pow 2 (-x.q).toNat * Nat.pow 10 g.toNat)

def Binary.scale (x : Binary) : Int :=
  let below (k : Int) : Bool := compareScaled 1 k x.m x.q == .gt
  let start : Int := (x.q * 30103) / 100000 + (Nat.log2 x.m * 30103 : Nat) / 100000 - 2
  let rec up : Nat → Int → Int
    | 0, k => k
    | fuel + 1, k => if below k then k else up fuel (k + 1)
  up 12 start

def Dec.strip (d : Dec) : Dec :=
  let rec go : Nat → Dec → Dec
    | 0, d => d
    | fuel + 1, d => if d.digits ≠ 0 && d.digits % 10 == 0 then go fuel ⟨d.digits / 10, d.exp + 1⟩
      else d
  go 20 d

/-- The nearer of two neighbouring decimals on a grid `10^g` around the value, a tie going to
the even one. -/
def Binary.nearer (x : Binary) (low : Nat) (g : Int) : Dec :=
  match compareScaled (2 * low + 1) g (2 * x.m) x.q with
  | .gt => ⟨low, g⟩
  | .lt => ⟨low + 1, g⟩
  | .eq => if low % 2 == 0 then ⟨low, g⟩ else ⟨low + 1, g⟩

def Binary.shortest (x : Binary) : Dec :=
  let k := x.scale
  let attempt (n : Nat) : Option Dec :=
    let g := k - n
    let low := x.floorScaled g
    let a : Dec := ⟨low, g⟩
    let b : Dec := ⟨low + 1, g⟩
    match x.readsBack a, x.readsBack b with
    | true, true => some (x.nearer low g)
    | true, false => some a
    | false, true => some b
    | false, false => none
  match (List.range 17).findSome? (fun i => attempt (i + 1)) with
  | some d => d.strip
  | none =>
    (⟨x.m * Nat.pow 5 (-x.q).toNat * Nat.pow 2 x.q.toNat, -((-x.q).toNat : Int)⟩ : Dec).strip

example : (Binary.ofBits 0x3FB999999999999A).shortest = ⟨1, -1⟩ := by decide +kernel
example : (Binary.ofBits 0x3FF0000000000000).shortest = ⟨1, 0⟩ := by decide +kernel

end Obfuscation.Decimal
