import SatRarity.Json.Reader

set_option autoImplicit false

/-! # The encodings of a JSON text

JSON comes as bytes in UTF-8, UTF-16 or UTF-32, and its first two characters are ASCII, or it is no
JSON at all. So the zeros among the first bytes tell the encoding. A byte order mark at the start
of UTF-8 is no part of the text.
-/

namespace SatRarity.Json

open Text

/-- An encoding, with the more significant byte first or last. -/
inductive Encoding
  | utf8
  | utf16 (bigEndian : Bool)
  | utf32 (bigEndian : Bool)
  deriving DecidableEq

namespace Encoding

/-- The encoding that the first bytes tell. -/
def detect : List UInt8 → Encoding
  | 0 :: 0 :: _ :: _ :: _ => .utf32 true
  | 0 :: _ :: _ :: _ :: _ => .utf16 true
  | _ :: 0 :: 0 :: 0 :: _ => .utf32 false
  | _ :: 0 :: _ :: _ :: _ => .utf16 false
  | [0, _] => .utf16 true
  | [_, 0] => .utf16 false
  | _ => .utf8

/-- The number that a group of bytes denotes. -/
def groupValue (bigEndian : Bool) (bytes : List UInt8) : Nat :=
  (if bigEndian then bytes else bytes.reverse).foldl (fun n b => 256 * n + b.toNat) 0

/-- The code units of two bytes each, if the number of bytes is even. -/
def units16? (bigEndian : Bool) : List UInt8 → Option (List Nat)
  | [] => some []
  | a :: b :: rest => (units16? bigEndian rest).map (groupValue bigEndian [a, b] :: ·)
  | _ => none

/-- The code points of four bytes each, if all bytes belong to one and none is out of range. -/
def units32? (bigEndian : Bool) : List UInt8 → Option (List Nat)
  | [] => some []
  | a :: b :: c :: d :: rest =>
    let n := groupValue bigEndian [a, b, c, d]
    if n < 0x110000 then (units32? bigEndian rest).map (n :: ·) else none
  | _ => none

end Encoding

/-- The JSON text whose bytes are those of a text in UTF-8, if its encoding admits them. A surrogate
on its own stays one. Only a text that holds U+0000 can be taken for another encoding. -/
def decode? (s : String) : Option LooseText :=
  match s.toList with
  | '\uFEFF' :: rest => some ⟨rest.map .char⟩
  | t =>
    if t.contains '\x00' then
      let bytes := s.toUTF8.data.toList
      match Encoding.detect bytes with
      | .utf8 => some (LooseText.ofString s)
      | .utf16 bigEndian =>
        (Encoding.units16? bigEndian bytes).map fun units => ⟨joinPairs (units.map .unit)⟩
      | .utf32 bigEndian =>
        (Encoding.units32? bigEndian bytes).map fun numbers => ⟨numbers.map CodePoint.ofNat⟩
    else some (LooseText.ofString s)

end SatRarity.Json
