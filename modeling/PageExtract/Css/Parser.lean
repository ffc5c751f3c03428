import PageExtract.Css.Selector
import PageExtract.Css.Token

/-!
# Reading selectors

A selector list has selectors between commas.  A selector has compounds between
combinators, and a compound has conditions without space between them, the name
of an element first.

All that is not known is refused: pseudo-elements, most pseudo-classes and names
from a vocabulary of their own.  In `:is` and `:where` a selector that cannot be
read is passed over, as long as its brackets pair up.  In `:has` a selector may
start with a combinator, and no further `:has` may stand inside.
-/

namespace PageExtract.Css

/-- A text with `A` to `Z` in lower case. -/
def lowered (s : String) : String := String.ofList (s.toList.map Char.toLower)

/-- The pieces after the space that a list of pieces starts with. -/
def dropSpace : List Piece → List Piece
  | .token .space :: rest => dropSpace rest
  | rest => rest

/-- Whether nothing but space is left. -/
def isDone (ps : List Piece) : Bool := (dropSpace ps).isEmpty

/-! ## Positions -/

/-- The number `-123` of a text `n-123`. -/
def dashDigits? (s : String) : Option Int :=
  match s.toList.map Char.toLower with
  | 'n' :: '-' :: d :: ds =>
      let digits := d :: ds
      if digits.all Char.isDigit then
        some (clamp true (digits.foldl (fun n d => n * 10 + (d.toNat - '0'.toNat)) 0))
      else none
  | _ => none

/-- The rest of a position after its step, where a sign has been read. -/
def unsignedOffset? (step sign : Int) (ps : List Piece) : Option ((Int × Int) × List Piece) :=
  match dropSpace ps with
  | .token (.number ⟨some b, false⟩) :: rest => some ((step, sign * b), rest)
  | _ => none

/-- The rest of a position after its step. -/
def offset? (step : Int) (ps : List Piece) : Option ((Int × Int) × List Piece) :=
  match dropSpace ps with
  | .token (.delim '+') :: rest => unsignedOffset? step 1 rest
  | .token (.delim '-') :: rest => unsignedOffset? step (-1) rest
  | .token (.number ⟨some b, true⟩) :: rest => some ((step, b), rest)
  | _ => some ((step, 0), ps)

/-- The rest of a position after a step that is written as `unit`. -/
def stepRest? (step : Int) (unit : String) (ps : List Piece) : Option ((Int × Int) × List Piece) :=
  let unit := lowered unit
  if unit = "n" then offset? step ps
  else if unit = "n-" then unsignedOffset? step (-1) ps
  else (dashDigits? unit).map fun b => ((step, b), ps)

/-- The step and the offset of a position. -/
def position? (ps : List Piece) : Option ((Int × Int) × List Piece) :=
  match dropSpace ps with
  | .token (.number ⟨some b, _⟩) :: rest => some ((0, b), rest)
  | .token (.dimension ⟨some a, _⟩ unit) :: rest => stepRest? a unit rest
  | .token (.ident s) :: rest =>
      match lowered s with
      | "even" => some ((2, 0), rest)
      | "odd" => some ((2, 1), rest)
      | word => match word.toList with
        | '-' :: unit => stepRest? (-1) (String.ofList unit) rest
        | _ => stepRest? 1 word rest
  | .token (.delim '+') :: .token (.ident s) :: rest => stepRest? 1 s rest
  | _ => none

/-! ## Attributes -/

/-- Attributes of HTML whose values are compared without regard to case. -/
def foldedAttrs : List String :=
  ["accept", "accept-charset", "align", "alink", "axis", "bgcolor", "charset", "checked", "clear",
   "codetype", "color", "compact", "declare", "defer", "dir", "direction", "disabled", "enctype",
   "face", "frame", "hreflang", "http-equiv", "lang", "language", "link", "media", "method",
   "multiple", "nohref", "noresize", "noshade", "nowrap", "readonly", "rel", "rev", "rules",
   "scope", "scrolling", "selected", "shape", "target", "text", "type", "valign", "valuetype",
   "vlink"]

/-- The name of an attribute: whether it may come from any vocabulary, and what follows. -/
def attrName? (ps : List Piece) : Option (Bool × Bool × String × List Piece) :=
  match ps with
  | .token (.ident _) :: .token (.delim '|') :: _ => none
  | .token (.ident s) :: rest => some (false, false, s, rest)
  | .token (.delim '*') :: .token (.delim '|') :: .token (.ident s) :: rest =>
      some (true, true, s, rest)
  | .token (.delim '|') :: .token (.ident s) :: rest => some (false, false, s, rest)
  | _ => none

/-- The operator that a token stands for. -/
def operator? : Token → Option AttrOperator
  | .delim '=' => some .equal
  | .test '~' => some .word
  | .test '|' => some .dash
  | .test '^' => some .start
  | .test '$' => some .finish
  | .test '*' => some .inside
  | _ => none

/-- The value that an attribute is compared with. -/
def attrValue? (ps : List Piece) : Option (String × List Piece) :=
  match dropSpace ps with
  | .token (.ident s) :: rest => some (s, rest)
  | .token (.string s) :: rest => some (s, rest)
  | _ => none

/-- What is said of letter case after the value. -/
def letterCase? (byName : LetterCase) (ps : List Piece) : Option LetterCase :=
  match dropSpace ps with
  | [] => some byName
  | .token (.ident s) :: rest =>
      if !isDone rest then none
      else if lowered s = "i" then some .folded
      else if lowered s = "s" then some .exact
      else none
  | _ => none

/-- The condition in square brackets. -/
def attrCondition? (ps : List Piece) : Option Condition := do
  let (anyVocabulary, qualified, name, rest) ← attrName? (dropSpace ps)
  match dropSpace rest with
  | [] => return .hasAttr anyVocabulary name .present
  | .token t :: rest =>
    let operator ← operator? t
    let (value, rest) ← attrValue? rest
    let byName : LetterCase :=
      if !qualified && foldedAttrs.contains (lowered name) then .foldedInHtml else .exact
    let letters ← letterCase? byName rest
    return .hasAttr anyVocabulary name (.compare operator value letters)
  | _ => none

/-! ## Pseudo-classes -/

/-- The first or last position. -/
def edge (sameName fromLast : Bool) : Condition :=
  .at { step := 0, offset := 1, sameName, fromLast }

/-- The condition of a pseudo-class without an argument. -/
def pseudoClass? (name : String) : Option Condition :=
  match lowered name with
  | "first-child" => some (edge false false)
  | "last-child" => some (edge false true)
  | "only-child" => some (.only false)
  | "first-of-type" => some (edge true false)
  | "last-of-type" => some (edge true true)
  | "only-of-type" => some (.only true)
  | "root" => some .root
  | "scope" => some .root
  | "empty" => some .empty
  | "only-text" => some .onlyText
  | "link" => some .link
  | "any-link" => some .link
  | "visited" => some .never
  | "active" => some .never
  | "focus" => some .never
  | "hover" => some .never
  | "enabled" => some .never
  | "disabled" => some .never
  | "checked" => some .never
  | "indeterminate" => some .never
  | _ => none

/-- The condition of a pseudo-class that takes a position. -/
def positionClass? (sameName fromLast : Bool) (ps : List Piece) : Option Condition := do
  let ((step, offset), rest) ← position? ps
  if isDone rest then return .at { step, offset, sameName, fromLast } else none

/-- The string that is the whole of an argument. -/
def stringArgument? (ps : List Piece) : Option String :=
  match dropSpace ps with
  | .token (.string s) :: rest => if isDone rest then some s else none
  | _ => none

mutual

/-- Whether the brackets of a piece pair up and its strings end. -/
def Piece.isSound : Piece → Bool
  | .token .broken => false
  | .token (.closes _) => false
  | .token _ => true
  | .block _ ps => allSound ps
  | .call _ ps => allSound ps

/-- Whether the brackets of a list of pieces pair up and its strings end. -/
def allSound : List Piece → Bool
  | [] => true
  | p :: rest => p.isSound && allSound rest

end

/-! ## Compounds and combinators -/

/-- The pieces between commas. -/
def splitCommas : List Piece → List (List Piece)
  | [] => [[]]
  | p :: rest => match splitCommas rest, p with
    | items, .token .comma => [] :: items
    | [], p => [[p]]
    | item :: items, p => (p :: item) :: items

/-- The combinator that comes next, with the space around it. -/
def combinator? (ps : List Piece) : Option (Combinator × List Piece) :=
  match dropSpace ps with
  | .token (.delim '>') :: rest => some (.child, rest)
  | .token (.delim '+') :: rest => some (.next, rest)
  | .token (.delim '~') :: rest => some (.later, rest)
  | [] => none
  | rest => match ps with
    | .token .space :: _ => some (.descendant, rest)
    | _ => none

/-- What a compound may start with. -/
inductive TypePart where
  /-- Nothing that names an element. -/
  | absent
  /-- Conditions on the name of an element. -/
  | present (conditions : List Condition)
  /-- Something that cannot be read. -/
  | refused

/-- The name of an element at the start of a compound. -/
def typePart (ps : List Piece) : TypePart × List Piece :=
  let qualified (before : List Condition) (ps : List Piece) : TypePart × List Piece :=
    match ps with
    | .token (.ident s) :: rest => (.present (before ++ [.named s]), rest)
    | .token (.delim '*') :: rest => (.present (before ++ [.universal]), rest)
    | _ => (.refused, ps)
  match ps with
  | .token (.ident _) :: .token (.delim '|') :: _ => (.refused, ps)
  | .token (.ident s) :: rest => (.present [.named s], rest)
  | .token (.delim '*') :: .token (.delim '|') :: rest => qualified [] rest
  | .token (.delim '*') :: rest => (.present [.universal], rest)
  | .token (.delim '|') :: rest => qualified [.noVocabulary] rest
  | _ => (.absent, ps)

/-- A compound under construction, with what stands to its left. -/
structure Draft where
  /-- The conditions of the compound, backwards. -/
  conditions : List Condition
  /-- Whether the compound has conditions. -/
  started : Bool
  /-- What stands to its left. -/
  left : Left

/-- The selector that a draft amounts to. -/
def Draft.finish? (d : Draft) : Option Selector :=
  if d.started then some (.mk d.conditions.reverse d.left) else none

/-- A draft with a further condition. -/
def Draft.add (d : Draft) (c : Condition) : Draft :=
  { d with conditions := c :: d.conditions, started := true }

/-- A draft that starts the next compound. -/
def Draft.step (d : Draft) (c : Combinator) : Draft :=
  { conditions := [], started := false, left := .seenFrom c d.conditions.reverse d.left }

/-- Reads the name at the start of the compound that comes next. -/
def Draft.open? (d : Draft) (ps : List Piece) : Option (Draft × List Piece) :=
  match typePart (dropSpace ps) with
  | (.absent, rest) => some (d, rest)
  | (.present conditions, rest) =>
      some ({ d with conditions := conditions.reverse ++ d.conditions, started := true }, rest)
  | (.refused, _) => none

/-- The condition that comes next, with what follows, or nothing if the compound
ends here.  `argument?` reads the argument of a pseudo-class. -/
def condition? (argument? : String → List Piece → Option Condition) (ps : List Piece) :
    Option (Option Condition × List Piece) :=
  match ps with
  | .token (.hash s true) :: rest => some (some (.hasId s), rest)
  | .token (.delim '.') :: rest => match rest with
    | .token (.ident s) :: rest => some (some (.hasClass s), rest)
    | _ => none
  | .block .square content :: rest => (attrCondition? content).map fun c => (some c, rest)
  | .token .colon :: rest => match rest with
    | .token (.ident s) :: rest => (pseudoClass? s).map fun c => (some c, rest)
    | .call s content :: rest => (argument? s content).map fun c => (some c, rest)
    | _ => none
  | ps => some (none, ps)

/-- Reads the rest of a selector.  Every step takes a piece. -/
def selectorRest? (argument? : String → List Piece → Option Condition) :
    Nat → Draft → List Piece → Option Selector
  | 0, d, ps => if ps.isEmpty then d.finish? else none
  | steps + 1, d, ps => do
      let (c, rest) ← condition? argument? ps
      match c with
      | some c => selectorRest? argument? steps (d.add c) rest
      | none =>
        if !d.started then none
        else match combinator? rest with
          | some (c, rest) =>
            let (d, rest) ← (d.step c).open? rest
            selectorRest? argument? steps d rest
          | none => if isDone rest then d.finish? else none

/-- Reads a selector that is the whole of a list of pieces. -/
def selector? (argument? : String → List Piece → Option Condition) (relative : Bool)
    (ps : List Piece) : Option Selector := do
  let ps := dropSpace ps
  let (d, rest) : Draft × List Piece :=
    if relative then
      let (c, rest) := (combinator? ps).getD (.descendant, ps)
      ({ conditions := [], started := false, left := .seenFrom c [.anchor] .nothing }, rest)
    else ({ conditions := [], started := false, left := .nothing }, ps)
  let (d, rest) ← d.open? rest
  selectorRest? argument? (rest.length + 1) d rest

/-- Reads all selectors of a list, none of which may be wrong. -/
def allSelectors? (argument? : String → List Piece → Option Condition) (relative : Bool)
    (ps : List Piece) : Option (List Selector) :=
  (splitCommas ps).mapM (selector? argument? relative)

/-- Reads the selectors of a list that can be read. -/
def someSelectors? (argument? : String → List Piece → Option Condition) (ps : List Piece) :
    Option (List Selector) :=
  (splitCommas ps).foldr (fun item done => do
    let done ← done
    match selector? argument? false item with
    | some s => return s :: done
    | none => if allSound item then return done else none) (some [])

/-- Reads the argument of a pseudo-class in which that many levels of brackets
nest.  `inHas` says that no `:has` may stand here. -/
def argument? (inHas : Bool) : Nat → String → List Piece → Option Condition
  | 0, _, _ => none
  | levels + 1, name, ps =>
      match lowered name with
      | "nth-child" => positionClass? false false ps
      | "nth-last-child" => positionClass? false true ps
      | "nth-of-type" => positionClass? true false ps
      | "nth-last-of-type" => positionClass? true true ps
      | "not" => (allSelectors? (argument? inHas levels) false ps).map .none
      | "is" => (someSelectors? (argument? inHas levels) ps).map .some
      | "where" => (someSelectors? (argument? inHas levels) ps).map .some
      | "has" =>
        if inHas then none else (allSelectors? (argument? true levels) true ps).map .has
      | "contains" => (stringArgument? ps).map .contains
      | "has-text" => (stringArgument? ps).map .hasText
      | _ => none

/-- The selectors that a text stands for, if it is a selector list.  Brackets
cannot nest deeper than the text is long. -/
def compile (text : String) : Option (List Selector) :=
  allSelectors? (argument? false (text.length + 1)) false (pieces text)

end PageExtract.Css
