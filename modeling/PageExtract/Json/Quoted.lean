import PageExtract.Json.Cursor

/-!
# Strings

A string stands between quotation marks.  Inside it a backslash starts an
escape: one of eight short ones, or `u` and the four hexadecimal digits of a
UTF-16 unit.  A unit of the high half of a surrogate pair must be followed by
an escape for one of the low half, and no unit of the low half stands alone.
Characters below U+0020 must be escaped.

The four places after `u` are looked at together, as four bytes, whatever they
hold.  So a fault in them is placed after the fourth.

`readString` gives the text that a string stands for.  `skipString` only passes
it and asks nothing of its units.  `quoteChars` writes a text as a string,
escaping no more than it must.
-/

namespace PageExtract.Json

/-- The value of a hexadecimal digit. -/
def hexDigit? (c : Char) : Option Nat :=
  if '0' ≤ c ∧ c ≤ '9' then some (c.toNat - '0'.toNat)
  else if 'a' ≤ c ∧ c ≤ 'f' then some (c.toNat - 'a'.toNat + 10)
  else if 'A' ≤ c ∧ c ≤ 'F' then some (c.toNat - 'A'.toNat + 10)
  else none

/-- The number that four hexadecimal digits stand for. -/
def hexUnit? (a b c d : Char) : Option Nat := do
  let a ← hexDigit? a
  let b ← hexDigit? b
  let c ← hexDigit? c
  let d ← hexDigit? d
  return ((a * 16 + b) * 16 + c) * 16 + d

/-- The character that a short escape stands for. -/
def shortEscape? : Char → Option Char
  | '"' => some '"'
  | '\\' => some '\\'
  | '/' => some '/'
  | 'b' => some '\x08'
  | 'f' => some '\x0c'
  | 'n' => some '\n'
  | 'r' => some '\r'
  | 't' => some '\t'
  | _ => none

/-- Whether a list of characters is shorter than `n` bytes. -/
def fewerBytes : Nat → List Char → Bool
  | 0, _ => false
  | _ + 1, [] => true
  | n + 1, c :: rest => fewerBytes (n + 1 - c.utf8Size) rest
termination_by _ cs => cs.length

/-- The fault of four places that hold no unit. -/
def unitFault (p : Position) (rest : List Char) : Fault :=
  if fewerBytes 4 rest then ⟨.endInString, p.afterBytes 4 rest⟩
  else ⟨.invalidEscape, p.afterBytes 4 rest⟩

/-- A unit that is half of a surrogate pair, by its half. -/
def isHighHalf (n : Nat) : Bool := 0xD800 ≤ n && n ≤ 0xDBFF

/-- A unit of the low half of a surrogate pair. -/
def isLowHalf (n : Nat) : Bool := 0xDC00 ≤ n && n ≤ 0xDFFF

/-- The character of a surrogate pair. -/
def joinHalves (high low : Nat) : Char :=
  Char.ofNat (0x10000 + (high - 0xD800) * 0x400 + (low - 0xDC00))

/-- The fault of a high half that no low half follows.  `p` is after the high half. -/
def secondHalfFault (p : Position) : List Char → Fault
  | [] => ⟨.endInString, p⟩
  | '\\' :: rest =>
      let p := p.after '\\'
      match rest with
      | [] => ⟨.endInString, p⟩
      | 'u' :: rest =>
          let p := p.after 'u'
          match rest with
          | a :: b :: c :: d :: _ =>
            if (hexUnit? a b c d).isSome then ⟨.loneSurrogate, p.afterBytes 4 rest⟩
            else unitFault p rest
          | _ => unitFault p rest
      | rest => ⟨.halfSurrogatePair, p.afterBytes 1 rest⟩
  | rest => ⟨.halfSurrogatePair, p.afterBytes 1 rest⟩

/-- The position after `\u` and four digits. -/
def Position.afterUnit (p : Position) : Position := ⟨p.line, p.column + 6⟩

/-- Reads a string from after its opening mark.  `done` is what it holds so far, backwards. -/
def stringFrom (done : List Char) : List Char → Position → Except Fault (String × Cursor)
  | [], p => .error ⟨.endInString, p⟩
  | '"' :: rest, p => .ok (String.ofList done.reverse, ⟨rest, p.after '"'⟩)
  | '\\' :: 'u' :: a :: b :: c :: d :: rest, p =>
      match hexUnit? a b c d with
      | none =>
        .error (unitFault ⟨p.line, p.column + 2⟩ (a :: b :: c :: d :: rest))
      | some n =>
        if isLowHalf n then .error ⟨.loneSurrogate, p.afterUnit⟩
        else if isHighHalf n then
          match rest with
          | '\\' :: 'u' :: a :: b :: c :: d :: rest' =>
            match hexUnit? a b c d with
            | none => .error (secondHalfFault p.afterUnit rest)
            | some m =>
              if isLowHalf m then
                stringFrom (joinHalves n m :: done) rest' p.afterUnit.afterUnit
              else .error (secondHalfFault p.afterUnit rest)
          | rest => .error (secondHalfFault p.afterUnit rest)
        else stringFrom (Char.ofNat n :: done) rest p.afterUnit
  | '\\' :: rest, p =>
      let q := p.after '\\'
      match rest with
      | [] => .error ⟨.endInString, q⟩
      | x :: rest' =>
        match shortEscape? x with
        | some y => stringFrom (y :: done) rest' (q.after x)
        | none =>
          if x = 'u' then .error (unitFault (q.after x) rest')
          else .error ⟨.invalidEscape, q.afterBytes 1 rest⟩
  | c :: rest, p =>
      if c.toNat < 0x20 then .error ⟨.controlCharacter, p.after c⟩
      else stringFrom (c :: done) rest (p.after c)

/-- Reads a string whose opening mark comes next. -/
def readString (c : Cursor) : Except Fault (String × Cursor) :=
  let c := c.advance
  stringFrom [] c.rest c.position

/-- Passes a string from after its opening mark. -/
def skipStringFrom : List Char → Position → Except Fault Cursor
  | [], p => .error ⟨.endInString, p⟩
  | '"' :: rest, p => .ok ⟨rest, p.after '"'⟩
  | '\\' :: 'u' :: a :: b :: c :: d :: rest, p =>
      if (hexUnit? a b c d).isSome then skipStringFrom rest p.afterUnit
      else .error (unitFault ⟨p.line, p.column + 2⟩ (a :: b :: c :: d :: rest))
  | '\\' :: rest, p =>
      let q := p.after '\\'
      match rest with
      | [] => .error ⟨.endInString, q⟩
      | x :: rest' =>
        if (shortEscape? x).isSome then skipStringFrom rest' (q.after x)
        else if x = 'u' then .error (unitFault (q.after x) rest')
        else .error ⟨.invalidEscape, q.afterBytes 1 rest⟩
  | c :: rest, p =>
      if c.toNat < 0x20 then .error ⟨.controlCharacter, p⟩
      else skipStringFrom rest (p.after c)

/-- Passes a string whose opening mark comes next. -/
def skipString (c : Cursor) : Except Fault Cursor :=
  let c := c.advance
  skipStringFrom c.rest c.position

/-! ## Writing -/

/-- A hexadecimal digit in lower case. -/
def hexChar (n : Nat) : Char := if n < 10 then Char.ofNat (48 + n) else Char.ofNat (87 + n)

/-- A character as it stands in a string. -/
def escapeChar (c : Char) : List Char :=
  match c with
  | '"' => ['\\', '"']
  | '\\' => ['\\', '\\']
  | '\x08' => ['\\', 'b']
  | '\x0c' => ['\\', 'f']
  | '\n' => ['\\', 'n']
  | '\r' => ['\\', 'r']
  | '\t' => ['\\', 't']
  | c =>
      if c.toNat < 0x20 then ['\\', 'u', '0', '0', hexChar (c.toNat / 16), hexChar (c.toNat % 16)]
      else [c]

/-- The characters of a text written as a string. -/
def quoteChars (s : String) : List Char := '"' :: s.toList.flatMap escapeChar ++ ['"']

end PageExtract.Json
