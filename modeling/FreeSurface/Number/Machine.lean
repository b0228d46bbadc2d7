import FreeSurface.Number.Scalar

/-!
# Machine numbers

Single and double precision as `Scalar`s.  Every operation is one the kernel can evaluate, so a
closed statement about a run of the solver on machine numbers can be decided.  Where the standard
library leaves a conversion open it is defined here on the bits or by exact steps:

* `Machine.floorSingle`, `Machine.floorDouble` — through the whole part of the magnitude; above
  `2 ^ 23` (`2 ^ 52`) every number is whole.
* `Machine.widen` — exact: the exponent is shifted to the wide bias and the fraction padded.
* `Machine.narrow` — the fraction is cut to the narrow width, to nearest, ties to the even
  neighbour; a carry runs into the exponent and from there into infinity, as the format intends.
-/

namespace FreeSurface

namespace Machine

/-- The largest whole number not above, in single precision. -/
def floorSingle (x : Float32) : Float32 :=
  if x.abs < 8388608 then
    if x < 0 then
      let whole := (-x).toUInt64.toFloat32
      if whole == -x then x else -(whole + 1)
    else x.toUInt64.toFloat32
  else x

/-- The largest whole number not above, in double precision. -/
def floorDouble (x : Float) : Float :=
  if x.abs < 4503599627370496 then
    if x < 0 then
      let whole := (-x).toUInt64.toFloat
      if whole == -x then x else -(whole + 1)
    else x.toUInt64.toFloat
  else x

/-- The double of the same value.  The smallest single is `2 ^ -149`, an ordinary double. -/
def widen (x : Float32) : Float :=
  let bits := x.toBits
  let exponent := (bits >>> 23) &&& 0xff
  let fraction := (bits &&& 0x7fffff).toUInt64
  let sign := (bits >>> 31).toUInt64 <<< 63
  if exponent == 0xff then
    if fraction == 0 then Float.ofBits (sign ||| 0x7ff0000000000000) else 0 / 0
  else if exponent == 0 then
    let magnitude := fraction.toFloat * Float.ofBits 0x36a0000000000000
    if sign == 0 then magnitude else -magnitude
  else Float.ofBits (sign ||| ((exponent.toUInt64 + 896) <<< 52) ||| (fraction <<< 29))

/-- Drops the low `shift` bits, to nearest, ties to even. -/
def dropBits (bits shift : UInt64) : UInt64 :=
  let quotient := bits >>> shift
  let rest := bits - (quotient <<< shift)
  let half := (1 : UInt64) <<< (shift - 1)
  if half < rest || (rest == half && quotient &&& 1 == 1) then quotient + 1 else quotient

/-- The single nearest to a double, ties to even. -/
def narrow (x : Float) : Float32 :=
  let bits := x.toBits
  let exponent := (bits >>> 52) &&& 0x7ff
  let fraction := bits &&& 0xfffffffffffff
  let sign := ((bits >>> 63) <<< 31).toUInt32
  if exponent == 0x7ff then
    if fraction == 0 then Float32.ofBits (sign ||| 0x7f800000) else 0 / 0
  else if exponent ≥ 1151 then Float32.ofBits (sign ||| 0x7f800000)
  else if exponent ≥ 897 then
    Float32.ofBits (sign ||| (dropBits (((exponent - 896) <<< 52) ||| fraction) 29).toUInt32)
  else if exponent ≥ 872 then
    Float32.ofBits (sign ||| (dropBits (fraction ||| 0x10000000000000) (926 - exponent)).toUInt32)
  else Float32.ofBits sign

end Machine

instance : Scalar Float32 where
  decLt := inferInstance
  decLe := inferInstance
  ofNat n := if n < UInt64.size then n.toUInt64.toFloat32 else Float32.ofScientific n false 0
  ofDecimal mantissa places := Float32.ofScientific mantissa true places
  infinity := Float32.ofBits 0x7f800000
  sqrt := Float32.sqrt
  abs := Float32.abs
  floor := Machine.floorSingle
  toNat x := x.toUInt64.toNat
  isFinite := Float32.isFinite
  isNaN := Float32.isNaN
  vanishes x := x.abs < Float32.ofBits 0x00800000

instance : Scalar Float where
  decLt := inferInstance
  decLe := inferInstance
  ofNat n := if n < UInt64.size then n.toUInt64.toFloat else Float.ofScientific n false 0
  ofDecimal mantissa places := Float.ofScientific mantissa true places
  infinity := Float.ofBits 0x7ff0000000000000
  sqrt := Float.sqrt
  abs := Float.abs
  floor := Machine.floorDouble
  toNat x := x.toUInt64.toNat
  isFinite := Float.isFinite
  isNaN := Float.isNaN
  vanishes x := x.abs < Float.ofBits 0x0010000000000000

instance : Precision Float32 Float where
  widen := Machine.widen
  narrow := Machine.narrow

end FreeSurface
