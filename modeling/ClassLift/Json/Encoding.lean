/-
  How a document is encoded.

  A document comes as bytes, and nothing beside them says how they encode its text.  Its first
  characters are ASCII, so the zeros among the first four bytes tell units of 16 and of 32 bits, and
  the order of their bytes, apart; no zeros tell UTF-8, perhaps with a mark of the byte order in
  front.  Two bytes alone can be one unit of 16 bits.

  Decoding fails if the bytes do not come out even, or if a unit of 32 bits is no code point.  Half
  a surrogate pair is no failure: the mark that strings have for it stands in its place.
-/
import ClassLift.Json
import ClassLift.Text.Utf8

namespace ClassLift.Json

/-- Which byte of a unit comes first. -/
inductive ByteOrder
  | big
  | little
  deriving DecidableEq, Repr

/-- How text is written as bytes. -/
inductive Encoding
  | utf8
  | utf16 (order : ByteOrder)
  | utf32 (order : ByteOrder)
  deriving DecidableEq, Repr

/-- The number that the bytes of a unit stand for. -/
def ByteOrder.unit (order : ByteOrder) (bytes : List Nat) : Nat :=
  let bigFirst := match order with
    | big => bytes
    | little => bytes.reverse
  bigFirst.foldl (fun n b => n * 256 + b) 0

namespace Encoding

/-- The encoding that the first bytes of a document tell. -/
def ofBytes : List Nat → Encoding
  | 0 :: 0 :: _ :: _ :: _ => utf32 .big
  | 0 :: _ :: _ :: _ :: _ => utf16 .big
  | _ :: 0 :: 0 :: 0 :: _ => utf32 .little
  | _ :: 0 :: _ :: _ :: _ => utf16 .little
  | [0, _] => utf16 .big
  | [_, 0] => utf16 .little
  | _ => utf8

def units16? (order : ByteOrder) : List Nat → Option (List Nat)
  | [] => some []
  | a :: b :: rest => (units16? order rest).map (order.unit [a, b] :: ·)
  | _ => none

def units32? (order : ByteOrder) : List Nat → Option (List Nat)
  | [] => some []
  | a :: b :: c :: d :: rest => (units32? order rest).map (order.unit [a, b, c, d] :: ·)
  | _ => none

/-- The character of a code point that is no half of a pair, else the mark for one. -/
def charOf (n : Nat) : Char :=
  if isHigh n || isLow n then halfMark n else Char.ofNat n

/-- The text that units of 16 bits spell. -/
def text16 : List Nat → Text
  | high :: low :: rest =>
    if isHigh high && isLow low then paired high low :: text16 rest
    else charOf high :: text16 (low :: rest)
  | [unit] => [charOf unit]
  | [] => []

/-- The text that units of 32 bits spell. -/
def text32? (units : List Nat) : Option Text :=
  if units.any fun n => 0x10FFFF < n then none else some (units.map charOf)

end Encoding

/-- The text of a document that was sent as the bytes of a raw text. -/
def documentText? (raw : Text) : Option Text :=
  let bytes := (utf8 raw).toList.map UInt8.toNat
  match Encoding.ofBytes bytes with
  | .utf8 => some (match raw with
      | '\ufeff' :: rest => rest
      | _ => raw)
  | .utf16 order => (Encoding.units16? order bytes).map Encoding.text16
  | .utf32 order => (Encoding.units32? order bytes).bind Encoding.text32?

end ClassLift.Json
