import PageExtract.Charset.Utf8

/-!
# Reading characters of several bytes

In East Asian character sets one or more bytes stand for a character, mostly the
first of them from the upper half.  `decodeBy` reads such bytes, if it is told
how to take the first character off them.  `decodeWith` does the same where it
depends on what came before.

If bytes stand for no character, U+FFFD is read.  The first of them is then used
up, and so is the next unless it is ASCII, which might be markup.
-/

namespace PageExtract.Charset

/-- What is read at the start of some bytes. -/
structure Taking where
  /-- The characters. -/
  chars : List Char
  /-- How many bytes they take beyond the first. -/
  more : Nat
  deriving DecidableEq, Repr

namespace Taking

/-- A character of one byte. -/
def one (c : Char) : Taking := ⟨[c], 0⟩

/-- Bytes that stand for no character, `more` beyond the first. -/
def wrong (more : Nat) : Taking := ⟨[replacement], more⟩

/-- A character that takes some bytes beyond the first, or U+FFFD if there is
none.  `last` is the last of these bytes. -/
def orWrong (more : Nat) (last : UInt8) : Option Char → Taking
  | some c => ⟨[c], more⟩
  | none => wrong (if last < 0x80 then more - 1 else more)

end Taking

/-- The characters of some bytes, when `take` reads those at their start.  It may
keep something in mind of what came before. -/
def decodeWith {State : Type} (take : State → UInt8 → List UInt8 → Taking × State) :
    State → List UInt8 → List Char
  | _, [] => []
  | state, b :: rest =>
      let (taking, state) := take state b rest
      taking.chars ++ decodeWith take state (rest.drop taking.more)
termination_by _ bytes => bytes.length
decreasing_by simp only [List.length_drop, List.length_cons]; omega

/-- The characters of some bytes, when `take` reads those at their start. -/
def decodeBy (take : UInt8 → List UInt8 → Taking) (bytes : List UInt8) : List Char :=
  decodeWith (fun (_ : Unit) b rest => (take b rest, ())) () bytes

/-- Reads a character of two bytes, when `pair` gives what they stand for. -/
def takePair (pair : Nat → Nat → Option Char) (a : UInt8) : List UInt8 → Taking
  | [] => .wrong 0
  | b :: _ => .orWrong 1 b (pair a.toNat b.toNat)

end PageExtract.Charset
