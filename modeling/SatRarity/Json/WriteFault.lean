import SatRarity.Json.Writer
import SatRarity.Text.Numeral

set_option autoImplicit false

/-! # Values that cannot be sent

A value is sent as the bytes of its compact form. It cannot be if a number in it has no written
form, which is so of an integer with more digits than a decimal may have and of a number that is not
finite; nor if a text in it holds a surrogate, as UTF-8 has none. The numbers are looked at first,
and the first of them that has no written form is the fault. Of the surrogates the first run is
reported, with its place in the compact form.
-/

namespace SatRarity.Json

open Text

/-- Why a value cannot be sent. -/
inductive WriteFault
  | notFinite
  | tooLong
  /-- This surrogate is the first of so many in a run that begins at this place. -/
  | surrogates (first place count : Nat)
  deriving DecidableEq

def WriteFault.message : WriteFault → String
  | notFinite => "Out of range float values are not JSON compliant"
  | tooLong => limitMessage ""
  | surrogates first place count =>
    "'utf-8' codec can't encode character"
      ++ (if count = 1 then
          " '" ++ String.ofList (codePointEscape first) ++ "' in position " ++ toString place
        else "s in position " ++ toString place ++ "-" ++ toString (place + count - 1))
      ++ ": surrogates not allowed"

mutual

/-- What is wrong with the first number in the value that cannot be written. -/
def numberFault? : Json → Option WriteFault
  | int n => if WithinLimit n then none else some .tooLong
  | decimal negative mantissa exponent =>
    if (Binary64.ofDecimal negative mantissa exponent).isFinite then none else some .notFinite
  | special _ => some .notFinite
  | list items => numberFaultOfItems? items
  | object fields => numberFaultOfFields? fields
  | null | bool _ | text _ => none

/-- What is wrong with the first number in the items that cannot be written. -/
def numberFaultOfItems? : List Json → Option WriteFault
  | [] => none
  | item :: items => (numberFault? item).or (numberFaultOfItems? items)

/-- What is wrong with the first number in the values of the fields that cannot be written. -/
def numberFaultOfFields? : List (LooseText × Json) → Option WriteFault
  | [] => none
  | (_, value) :: fields => (numberFault? value).or (numberFaultOfFields? fields)

end

/-- The first run of surrogates in a text, if it has some. -/
def surrogateFault? (t : LooseText) : Option WriteFault :=
  match t.points.dropWhile CodePoint.isChar with
  | .surrogate first :: rest =>
    some (.surrogates first (t.points.takeWhile CodePoint.isChar).length
      ((rest.takeWhile fun p => !p.isChar).length + 1))
  | _ => none

/-- Why the value cannot be sent, if it cannot. -/
def writeFault? (v : Json) : Option WriteFault :=
  v.numberFault?.or (surrogateFault? (write .compact v))

end SatRarity.Json
