/-!
# UTF-8

A character is one to four bytes.  The first byte tells how many follow and
narrows what the second may be, so that no character has two forms and nothing
stands for a surrogate.

`decode` reads any bytes.  Where they are no UTF-8 it gives U+FFFD: once for a
byte that starts no character, and once for the start of a character that is
not finished.  `decode?` reads UTF-8 only.  Both go byte by byte and remember
the character they are in.
-/

namespace PageExtract.Charset

/-- The character that stands for bytes that are none. -/
def replacement : Char := '\uFFFD'

namespace Utf8

/-- A character of which some bytes are still to come. -/
structure Pending where
  /-- The number of bytes to come after the next one. -/
  more : Nat
  /-- The least next byte. -/
  low : Nat
  /-- The greatest next byte. -/
  high : Nat
  /-- The bits so far. -/
  bits : Nat
  deriving DecidableEq, Repr

/-- What a byte leads to. -/
inductive Step where
  /-- The character is there. -/
  | done (c : Char)
  /-- The character goes on. -/
  | goesOn (p : Pending)
  /-- The byte cannot stand here. -/
  | refused
  deriving DecidableEq, Repr

/-- What the first byte of a character leads to. -/
def first (b : Nat) : Step :=
  if b < 0x80 then .done (Char.ofNat b)
  else if b < 0xC2 then .refused
  else if b < 0xE0 then .goesOn ⟨0, 0x80, 0xBF, b - 0xC0⟩
  else if b < 0xF0 then
    .goesOn ⟨1, if b = 0xE0 then 0xA0 else 0x80, if b = 0xED then 0x9F else 0xBF, b - 0xE0⟩
  else if b < 0xF5 then
    .goesOn ⟨2, if b = 0xF0 then 0x90 else 0x80, if b = 0xF4 then 0x8F else 0xBF, b - 0xF0⟩
  else .refused

/-- What a further byte of a character leads to. -/
def Pending.next (p : Pending) (b : Nat) : Step :=
  if p.low ≤ b ∧ b ≤ p.high then
    let bits := p.bits * 64 + (b - 0x80)
    match p.more with
    | 0 => .done (Char.ofNat bits)
    | more + 1 => .goesOn ⟨more, 0x80, 0xBF, bits⟩
  else .refused

/-- The characters from the first byte of one on, when `rest` reads the bytes after it. -/
def decodeFirst (rest : Option Pending → List Char) (b : Nat) : List Char :=
  match first b with
  | .done c => c :: rest none
  | .goesOn p => rest (some p)
  | .refused => replacement :: rest none

/-- The characters that some bytes stand for, in the middle of a character or not. -/
def decodeFrom : Option Pending → List UInt8 → List Char
  | none, [] => []
  | some _, [] => [replacement]
  | none, b :: rest => decodeFirst (fun p => decodeFrom p rest) b.toNat
  | some p, b :: rest =>
      match p.next b.toNat with
      | .done c => c :: decodeFrom none rest
      | .goesOn p => decodeFrom (some p) rest
      | .refused => replacement :: decodeFirst (fun p => decodeFrom p rest) b.toNat

/-- The characters that some bytes stand for. -/
def decode (bytes : List UInt8) : List Char := decodeFrom none bytes

/-- The characters that some bytes stand for, if they are UTF-8, in the middle
of a character or not. -/
def decodeFrom? : Option Pending → List UInt8 → Option (List Char)
  | none, [] => some []
  | some _, [] => none
  | p, b :: rest =>
      let step := match p with
        | none => first b.toNat
        | some p => p.next b.toNat
      match step with
      | .done c => (decodeFrom? none rest).map (c :: ·)
      | .goesOn p => decodeFrom? (some p) rest
      | .refused => none

/-- The characters that some bytes stand for, if they are UTF-8. -/
def decode? (bytes : List UInt8) : Option (List Char) := decodeFrom? none bytes

/-- The bytes of a character. -/
def encodeChar (c : Char) : List UInt8 :=
  let n := c.toNat
  let tail (unit : Nat) : UInt8 := UInt8.ofNat (0x80 + n / unit % 64)
  if n < 0x80 then [UInt8.ofNat n]
  else if n < 0x800 then [UInt8.ofNat (0xC0 + n / 64), tail 1]
  else if n < 0x10000 then [UInt8.ofNat (0xE0 + n / 4096), tail 64, tail 1]
  else [UInt8.ofNat (0xF0 + n / 262144), tail 4096, tail 64, tail 1]

/-- The bytes of some characters. -/
def encode (cs : List Char) : List UInt8 := cs.flatMap encodeChar

end Utf8

end PageExtract.Charset
