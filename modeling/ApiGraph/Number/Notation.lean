import ApiGraph.Number.Digits
import ApiGraph.Number.Shortest

/-!
# Written numbers

How a selected decimal is laid out: positionally or with an exponent, by the decisions of a
`NumberStyle`.
-/

namespace ApiGraph

structure NumberStyle where
  /-- The exponents of the leading digit that are written positionally. -/
  positional : Int → Bool
  /-- Whether a whole number ends in `.0`. -/
  pointZero : Bool
  tie : Tie

namespace NumberStyle

/-- The digits and the power of ten, without an exponent mark. -/
def layPositional (style : NumberStyle) (digits : List Char) (exponent : Int) : List Char :=
  if 0 ≤ exponent then
    digits ++ List.replicate exponent.toNat '0' ++ (if style.pointZero then ['.', '0'] else [])
  else
    let places := (-exponent).toNat
    if places < digits.length then
      digits.take (digits.length - places) ++ '.' :: digits.drop (digits.length - places)
    else '0' :: '.' :: (List.replicate (places - digits.length) '0' ++ digits)

def layScientific (digits : List Char) (lead : Int) : List Char :=
  let mantissa := match digits with
    | d :: r :: rest => d :: '.' :: r :: rest
    | ds => ds
  mantissa ++ 'e' :: (if lead < 0 then '-' else '+') :: Digits.ofNat lead.natAbs

def write (style : NumberStyle) (x : Binary64) : String :=
  let d := x.shortest style.tie
  let digits := Digits.ofNat d.digits
  let lead : Int := d.exponent + digits.length - 1
  let body := if style.positional lead then style.layPositional digits d.exponent
    else layScientific digits lead
  String.ofList (if x.negative then '-' :: body else body)

end NumberStyle

end ApiGraph
