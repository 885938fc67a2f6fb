import Obfuscation.Decimal.Shortest
/-!
Writing a selected decimal: positionally or with an exponent, by a record of layout decisions.
-/

namespace Obfuscation.Decimal

/-- Layout decisions. A decimal whose leading digit has exponent `e` is written positionally
when `plainFrom ≤ e < plainBelow`; `pointZero` writes an integral value with `.0`; the exponent
has a sign always and at least `expWidth` digits. -/
structure Notation where
  plainFrom : Int
  plainBelow : Int
  pointZero : Bool
  expWidth : Nat

def digitsOf (n : Nat) : List Char := Nat.toDigits 10 n

def Notation.layout (nt : Notation) (d : Dec) : String :=
  let ds := digitsOf d.digits
  let len : Int := ds.length
  let lead : Int := d.exp + len - 1
  if nt.plainFrom ≤ lead && lead < nt.plainBelow then
    if d.exp ≥ 0 then
      String.ofList (ds ++ List.replicate d.exp.toNat '0') ++ (if nt.pointZero then ".0" else "")
    else if lead ≥ 0 then
      let whole := (lead + 1).toNat
      String.ofList (ds.take whole) ++ "." ++ String.ofList (ds.drop whole)
    else "0." ++ String.ofList (List.replicate (-lead - 1).toNat '0' ++ ds)
  else
    let mantissa := match ds with
      | [c] => String.singleton c
      | c :: rest => String.singleton c ++ "." ++ String.ofList rest
      | [] => "0"
    let e := digitsOf lead.natAbs
    let padded := String.ofList (List.replicate (nt.expWidth - e.length) '0' ++ e)
    mantissa ++ "e" ++ (if lead < 0 then "-" else "+") ++ padded

def Notation.render (nt : Notation) (x : Float) : String :=
  let bits := x.toBits
  let magnitude := bits &&& 0x7FFFFFFFFFFFFFFF
  let sign := if bits >>> 63 == 1 then "-" else ""
  if magnitude == 0x7FF0000000000000 then sign ++ "inf"
  else if magnitude > 0x7FF0000000000000 then "nan"
  else if magnitude == 0 then sign ++ (if nt.pointZero then "0.0" else "0")
  else sign ++ nt.layout (Binary.ofBits magnitude).shortest

end Obfuscation.Decimal
