/-!
# Tokens of a selector

The text of a selector is cut into tokens as CSS does it.  Comments are dropped.
Brackets are then paired up, which makes a tree of *pieces*.  A bracket that is
still open at the end is closed there, and one that closes nothing is a token
like any other.

The text of a name may hold escapes: a backslash and up to six hexadecimal
digits, or a backslash and any other character.
-/

namespace PageExtract.Css

/-- A number, as far as selectors need it. -/
structure Number where
  /-- Its value, if it is written without a fraction and an exponent. -/
  whole : Option Int
  /-- Whether it is written with a sign. -/
  signed : Bool
  deriving DecidableEq, Repr

/-- The three kinds of bracket. -/
inductive Bracket where
  | round
  | square
  | curly
  deriving DecidableEq, Repr

/-- A token. -/
inductive Token where
  | ident (name : String)
  /-- A number sign and a name.  Only some names can be those of an element. -/
  | hash (name : String) (isId : Bool)
  | string (content : String)
  | number (value : Number)
  | dimension (value : Number) (unit : String)
  | space
  | delim (c : Char)
  | colon
  | comma
  /-- One of the five operators that have two characters, by the first. -/
  | test (c : Char)
  | opens (b : Bracket)
  /-- The name of a function and its opening bracket. -/
  | call (name : String)
  | closes (b : Bracket)
  /-- A string that a line end cuts off. -/
  | broken
  /-- A token that no selector has. -/
  | other
  deriving DecidableEq, Repr

/-! ## Characters -/

/-- Whether a character ends a line. -/
def isNewline (c : Char) : Bool := c = '\n' || c = '\r' || c = '\x0c'

/-- Whether a character is space in CSS. -/
def isSpace (c : Char) : Bool := c = ' ' || c = '\t' || isNewline c

/-- Whether a name can start with a character. -/
def startsName (c : Char) : Bool := c.isAlpha || c = '_' || c = '\x00' || 0x80 ≤ c.toNat

/-- Whether a character can stand in a name. -/
def inName (c : Char) : Bool := startsName c || c.isDigit || c = '-'

/-- Whether what follows a backslash makes an escape of it. -/
def escapes : List Char → Bool
  | [] => true
  | c :: _ => !isNewline c

/-- Whether a name starts here. -/
def atName : List Char → Bool
  | [] => false
  | '\\' :: rest => escapes rest
  | '-' :: c :: rest => startsName c || c = '-' || (c = '\\' && escapes rest)
  | c :: _ => startsName c

/-- Whether a character can be part of a name here. -/
def atNameChar : List Char → Bool
  | [] => false
  | '\\' :: rest => escapes rest
  | c :: _ => inName c

/-- The value of a hexadecimal digit. -/
def hexDigit? (c : Char) : Option Nat :=
  if '0' ≤ c ∧ c ≤ '9' then some (c.toNat - '0'.toNat)
  else if 'a' ≤ c ∧ c ≤ 'f' then some (c.toNat - 'a'.toNat + 10)
  else if 'A' ≤ c ∧ c ≤ 'F' then some (c.toNat - 'A'.toNat + 10)
  else none

/-- The number of up to `n` hexadecimal digits, and what follows them. -/
def hexNumber (n value : Nat) : List Char → Nat × List Char
  | [] => (value, [])
  | c :: rest => match n, hexDigit? c with
    | n + 1, some d => hexNumber n (value * 16 + d) rest
    | _, _ => (value, c :: rest)

/-- A list without one space that it starts with. -/
def dropOneSpace : List Char → List Char
  | '\r' :: '\n' :: rest => rest
  | c :: rest => if isSpace c then rest else c :: rest
  | [] => []

/-- The character that an escape stands for.  `cs` is what follows the backslash. -/
def escape (cs : List Char) : Char × List Char :=
  match cs with
  | [] => ('\uFFFD', [])
  | c :: rest =>
      if (hexDigit? c).isSome then
        let (n, after) := hexNumber 6 0 cs
        let isChar := n ≠ 0 && n ≤ 0x10FFFF && !(0xD800 ≤ n && n ≤ 0xDFFF)
        (if isChar then Char.ofNat n else '\uFFFD', dropOneSpace after)
      else (if c = '\x00' then '\uFFFD' else c, rest)

/-- The characters of a name and what follows it. -/
def nameChars : Nat → List Char → List Char × List Char
  | 0, cs => ([], cs)
  | _, [] => ([], [])
  | steps + 1, c :: rest =>
      if c = '\\' then
        if escapes rest then
          let (x, after) := escape rest
          let (xs, after) := nameChars steps after
          (x :: xs, after)
        else ([], c :: rest)
      else if inName c then
        let (xs, after) := nameChars steps rest
        ((if c = '\x00' then '\uFFFD' else c) :: xs, after)
      else ([], c :: rest)

/-- The name that comes next and what follows it. -/
def name (cs : List Char) : String × List Char :=
  let (xs, rest) := nameChars cs.length cs
  (String.ofList xs, rest)

/-- The content of a string up to its closing mark, or nothing if a line end cuts it off. -/
def stringChars (q : Char) : Nat → List Char → Option (List Char) × List Char
  | 0, cs => (some [], cs)
  | _, [] => (some [], [])
  | steps + 1, c :: rest =>
      let more (x : Char) (after : List Char) : Option (List Char) × List Char :=
        let (xs, after) := stringChars q steps after
        (xs.map (x :: ·), after)
      if c = q then (some [], rest)
      else if isNewline c then (none, c :: rest)
      else if c = '\\' then
        match rest with
        | [] => (some [], [])
        | '\r' :: '\n' :: after => stringChars q steps after
        | d :: after =>
          if isNewline d then stringChars q steps after
          else
            let (x, after) := escape rest
            more x after
      else more (if c = '\x00' then '\uFFFD' else c) rest

/-! ## Numbers -/

/-- Whether a number starts here. -/
def atNumber (cs : List Char) : Bool :=
  let unsigned (cs : List Char) : Bool := match cs with
    | '.' :: d :: _ => d.isDigit
    | d :: _ => d.isDigit
    | [] => false
  match cs with
  | '+' :: rest => unsigned rest
  | '-' :: rest => unsigned rest
  | rest => unsigned rest

/-- The largest whole number a number token holds. -/
def numberLimit : Nat := Nat.pow 2 31

/-- A whole number kept within 32 bits. -/
def clamp (negative : Bool) (n : Nat) : Int :=
  if negative then -(min n numberLimit : Nat) else (min n (numberLimit - 1) : Nat)

/-- What follows an exponent, if one comes next. -/
def afterExponent? (cs : List Char) : Option (List Char) :=
  let digits (cs : List Char) : Option (List Char) := match cs with
    | d :: _ => if d.isDigit then some (cs.dropWhile Char.isDigit) else none
    | [] => none
  match cs with
  | e :: rest =>
      if e = 'e' ∨ e = 'E' then
        match rest with
        | '+' :: rest => digits rest
        | '-' :: rest => digits rest
        | rest => digits rest
      else none
  | [] => none

/-- The number that comes next and what follows it. -/
def number (cs : List Char) : Number × List Char :=
  let (signed, negative, cs) := match cs with
    | '+' :: rest => (true, false, rest)
    | '-' :: rest => (true, true, rest)
    | rest => (false, false, rest)
  let digits := cs.takeWhile Char.isDigit
  let value := digits.foldl (fun n d => n * 10 + (d.toNat - '0'.toNat)) 0
  let cs := cs.dropWhile Char.isDigit
  let (whole, cs) := match cs with
    | '.' :: d :: rest =>
      if d.isDigit then (false, rest.dropWhile Char.isDigit) else (true, cs)
    | _ => (true, cs)
  let (whole, cs) := match afterExponent? cs with
    | some rest => (false, rest)
    | none => (whole, cs)
  ({ whole := if whole then some (clamp negative value) else none, signed }, cs)

/-! ## The next token -/

/-- What follows a comment. -/
def afterComment : List Char → List Char
  | [] => []
  | '*' :: '/' :: rest => rest
  | _ :: rest => afterComment rest

/-- What follows the unquoted address of a `url` function, and whether it is well formed. -/
def afterUrl : Nat → List Char → Bool × List Char
  | 0, cs => (true, cs)
  | _, [] => (true, [])
  | steps + 1, c :: rest =>
      let bad : Bool × List Char := (false, (rest.dropWhile (· != ')')).drop 1)
      if c = ')' then (true, rest)
      else if isSpace c then
        match rest.dropWhile isSpace with
        | [] => (true, [])
        | ')' :: rest => (true, rest)
        | _ => bad
      else if c = '"' ∨ c = '\'' ∨ c = '(' then bad
      else if c = '\\' then if escapes rest then afterUrl steps (escape rest).2 else bad
      else afterUrl steps rest

/-- The token that starts with a name. -/
def nameToken (cs : List Char) : Token × List Char :=
  match name cs with
  | (s, '(' :: rest) =>
      if s.toList.map Char.toLower == "url".toList then
        match rest.dropWhile isSpace with
        | '"' :: _ => (.call s, rest)
        | '\'' :: _ => (.call s, rest)
        | after =>
          let (good, after) := afterUrl (after.length + 1) after
          (if good then .other else .broken, after)
      else (.call s, rest)
  | (s, rest) => (.ident s, rest)

/-- The token that starts with a number. -/
def numberToken (cs : List Char) : Token × List Char :=
  let (n, rest) := number cs
  match rest with
  | '%' :: rest => (.other, rest)
  | rest =>
      if atName rest then
        let (unit, rest) := name rest
        (.dimension n unit, rest)
      else (.number n, rest)

/-- The next token, none for a comment, and what follows. -/
def nextToken (c : Char) (rest : List Char) : Option Token × List Char :=
  let one (t : Token) : Option Token × List Char := (some t, rest)
  let two (t : Token) : Option Token × List Char := match rest with
    | '=' :: rest => (some t, rest)
    | rest => (some (.delim c), rest)
  let some' (p : Token × List Char) : Option Token × List Char := (some p.1, p.2)
  if isSpace c then (some .space, rest.dropWhile isSpace)
  else if c = '"' ∨ c = '\'' then
    match stringChars c (rest.length + 1) rest with
    | (some s, rest) => (some (.string (String.ofList s)), rest)
    | (none, rest) => (some .broken, rest)
  else if c = '#' then
    if atNameChar rest then
      let (s, after) := name rest
      (some (.hash s (atName rest)), after)
    else one (.delim c)
  else if atNumber (c :: rest) then some' (numberToken (c :: rest))
  else if c = '-' ∧ (rest.take 2 = ['-', '>']) then (some .other, rest.drop 2)
  else if atName (c :: rest) then some' (nameToken (c :: rest))
  else match c with
    | '(' => one (.opens .round)
    | '[' => one (.opens .square)
    | '{' => one (.opens .curly)
    | ')' => one (.closes .round)
    | ']' => one (.closes .square)
    | '}' => one (.closes .curly)
    | ':' => one .colon
    | ',' => one .comma
    | ';' => one .other
    | '~' => two (.test c)
    | '|' => two (.test c)
    | '^' => two (.test c)
    | '$' => two (.test c)
    | '*' => two (.test c)
    | '/' => match rest with
      | '*' :: rest => (none, afterComment rest)
      | _ => one (.delim c)
    | '<' => if rest.take 3 = ['!', '-', '-'] then (some .other, rest.drop 3) else one (.delim c)
    | '@' => if atName rest then (some .other, (name rest).2) else one (.delim c)
    | c => one (.delim c)

/-- The tokens of a text.  A step takes at least a character. -/
def tokensFrom : Nat → List Char → List Token
  | 0, _ => []
  | _, [] => []
  | steps + 1, c :: rest =>
      let (t, rest) := nextToken c rest
      t.toList ++ tokensFrom steps rest

/-- The tokens of a text. -/
def tokens (text : String) : List Token :=
  let cs := text.toList
  tokensFrom cs.length cs

/-! ## Pieces -/

/-- A token, or a bracket with what stands in it. -/
inductive Piece where
  | token (t : Token)
  | block (b : Bracket) (content : List Piece)
  | call (name : String) (content : List Piece)
  deriving Repr

/-- A bracket that has been opened, with what stands before it, backwards. -/
structure Open where
  /-- The name of a function, if the bracket is that of one. -/
  name : Option String
  /-- The bracket. -/
  bracket : Bracket
  /-- The pieces before it. -/
  before : List Piece

/-- A bracket with its content, given backwards. -/
def Open.close (o : Open) (content : List Piece) : Piece :=
  match o.name with
  | some name => .call name content.reverse
  | none => .block o.bracket content.reverse

/-- Closes all brackets that are open.  `done` holds the pieces of the innermost one, backwards. -/
def closeAll : List Open → List Piece → List Piece
  | [], done => done.reverse
  | o :: outer, done => closeAll outer (o.close done :: o.before)

/-- Pairs brackets up.  `done` holds the pieces of the innermost open bracket, backwards. -/
def pair (stack : List Open) (done : List Piece) : List Token → List Piece
  | [] => closeAll stack done
  | t :: rest =>
      match t with
      | .opens b => pair (⟨none, b, done⟩ :: stack) [] rest
      | .call name => pair (⟨some name, .round, done⟩ :: stack) [] rest
      | .closes b => match stack with
        | [] => pair [] (.token t :: done) rest
        | o :: outer =>
          if o.bracket = b then pair outer (o.close done :: o.before) rest
          else pair stack (.token t :: done) rest
      | t => pair stack (.token t :: done) rest

/-- The pieces of a text. -/
def pieces (text : String) : List Piece := pair [] [] (tokens text)

end PageExtract.Css
