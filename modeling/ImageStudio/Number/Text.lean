import ImageStudio.Number.Shortest

/-!
# Number · Text: the two ways a double is written

Both printers start from the shortest digits of `Double.shortest` and differ only in where
the decimal point goes.

* **Plain** text, used inside messages ("must be at most 20"), never uses an exponent: the
  digits are padded with zeros on either side of the point, and an integral value has no
  fraction (`512`, `0.0000001`, `1000000000000000000000`, `-0`).
* **Data** text, used where a number is serialised, keeps a point so that the value reads
  back as a floating-point number (`3.0`), and switches to an exponent outside the range
  where the point falls between seventeen places to the left and sixteen to the right of
  the first digit (`1e-7`, `1.2345678901234568e+29`).
-/

namespace ImageStudio.Double

/-- `n` zero characters. -/
def zeros (n : Nat) : String := String.ofList (List.replicate n '0')

/-- The decimal digits of a natural number. -/
def digitString (n : Nat) : String := String.ofList (Nat.toDigits 10 n)

/-- Writes `digits · 10^p` without exponent, with a fraction only when one is needed. -/
def placeDigits (ds : String) (p : Int) : String :=
  if 0 ≤ p then ds ++ zeros p.toNat
  else
    let k : Int := (ds.length : Int) + p
    if 0 < k then
      String.ofList (ds.toList.take k.toNat) ++ "." ++ String.ofList (ds.toList.drop k.toNat)
    else "0." ++ zeros (-k).toNat ++ ds

/-- The plain text of a double: shortest digits, never an exponent, no fraction for an
integral value, and a minus sign whenever the sign bit is set. -/
def toPlainString (x : Double) : String :=
  let sign := if x.neg then "-" else ""
  if x.man = 0 then sign ++ "0" else
  let (c, p) := x.shortest
  sign ++ placeDigits (digitString c) p

/-- The data text of a double: it always reads back as a floating-point number. -/
def toDataString (x : Double) : String :=
  let sign := if x.neg then "-" else ""
  if x.man = 0 then sign ++ "0.0" else
  let (c, p) := x.shortest
  let ds := digitString c
  let len : Int := ds.length
  let k := len + p
  let body :=
    if 0 ≤ p ∧ k ≤ 16 then ds ++ zeros p.toNat ++ ".0"
    else if 0 < k ∧ k ≤ 16 then placeDigits ds p
    else if -5 < k ∧ k ≤ 0 then "0." ++ zeros (-k).toNat ++ ds
    else
      let e := k - 1
      let mant := match ds.toList with
        | [d] => String.singleton d
        | d :: rest => String.singleton d ++ "." ++ String.ofList rest
        | [] => "0"
      let expText := if e < 0 then "-" ++ digitString e.natAbs else "+" ++ digitString e.natAbs
      mant ++ "e" ++ expText
  sign ++ body

end ImageStudio.Double
