/-!
# UTF-8

Bytes to text, strictly (`Utf8.decode?`) and with a replacement character for what is not UTF-8
(`Utf8.decodeLossy`).  Paths are bytes and are shown with replacements; documents are refused.

A character is written with the fewest bytes that hold it, up to U+10FFFF and without the
surrogates.  The allowed second bytes depend on the first one; `secondByte` is that table.
-/

namespace ConfigCheck.Utf8

/-- The bytes of a text. -/
def encode (s : String) : List UInt8 := s.toUTF8.toList

/-- The number of bytes that follow a first byte and the bounds of the second byte. -/
def secondByte (first : Nat) : Option (Nat × Nat × Nat) :=
  if 0xc2 ≤ first && first ≤ 0xdf then some (1, 0x80, 0xbf)
  else if first = 0xe0 then some (2, 0xa0, 0xbf)
  else if first = 0xed then some (2, 0x80, 0x9f)
  else if 0xe1 ≤ first && first ≤ 0xef then some (2, 0x80, 0xbf)
  else if first = 0xf0 then some (3, 0x90, 0xbf)
  else if 0xf1 ≤ first && first ≤ 0xf3 then some (3, 0x80, 0xbf)
  else if first = 0xf4 then some (3, 0x80, 0x8f)
  else none

/-- Takes the bytes of one character behind its first byte: `need` of them are left, the next one
between `low` and `high`.  Gives the code point, if all are there, and how many were taken. -/
def takeContinuation (value : Nat) : (need low high : Nat) → List UInt8 → Option Nat × Nat
  | 0, _, _, _ => (some value, 0)
  | _ + 1, _, _, [] => (none, 0)
  | need + 1, low, high, b :: rest =>
    if low ≤ b.toNat && b.toNat ≤ high then
      let (result, taken) := takeContinuation (value * 64 + b.toNat % 64) need 0x80 0xbf rest
      (result, taken + 1)
    else (none, 0)

/-- The character at the front, or nothing where the bytes are not UTF-8, and the number of bytes
behind the first one that belong to it. -/
def first (b : UInt8) (rest : List UInt8) : Option Char × Nat :=
  let n := b.toNat
  if n < 0x80 then (some (Char.ofNat n), 0)
  else
    match secondByte n with
    | none => (none, 0)
    | some (need, low, high) =>
      let lead := if need = 1 then n % 32 else if need = 2 then n % 16 else n % 8
      let (result, taken) := takeContinuation lead need low high rest
      (result.map Char.ofNat, taken)

/-- The characters of a text and, where the bytes are not UTF-8, each shortest faulty piece.
`skip` bytes belong to the character before. -/
def pieces : (skip : Nat) → List UInt8 → List (Except (List UInt8) Char)
  | _, [] => []
  | skip + 1, _ :: rest => pieces skip rest
  | 0, b :: rest =>
    match first b rest with
    | (some c, taken) => .ok c :: pieces taken rest
    | (none, taken) => .error (b :: rest.take taken) :: pieces taken rest

/-- The text of the bytes if they are UTF-8. -/
def decode? (bytes : List UInt8) : Option String :=
  ((pieces 0 bytes).mapM Except.toOption).map String.ofList

/-- The first place where the bytes are not UTF-8: its index and, unless the bytes end there too
early, the number of faulty bytes. -/
def firstFault (index : Nat) : (skip : Nat) → List UInt8 → Option (Nat × Option Nat)
  | _, [] => none
  | skip + 1, _ :: rest => firstFault (index + 1) skip rest
  | 0, b :: rest =>
    match first b rest with
    | (some _, taken) => firstFault (index + 1) taken rest
    | (none, taken) =>
      if (secondByte b.toNat).isSome && taken = rest.length then some (index, none)
      else some (index, some (taken + 1))

/-- What is wrong with bytes that are not UTF-8. -/
def faultMessage (bytes : List UInt8) : String :=
  match firstFault 0 0 bytes with
  | some (index, some count) => s!"invalid utf-8 sequence of {count} bytes from index {index}"
  | some (index, none) => s!"incomplete utf-8 byte sequence from index {index}"
  | none => ""

/-- The text of the bytes, with U+FFFD for each shortest piece that is not UTF-8. -/
def decodeLossy (bytes : List UInt8) : String :=
  String.ofList ((pieces 0 bytes).map fun piece => piece.toOption.getD '\ufffd')

end ConfigCheck.Utf8
