import PageExtract.Css.Selector
import PageExtract.Html.Place
import PageExtract.Text.Blank

/-!
# What a selector matches

A selector matches an element of a document if its conditions hold there and if
there are elements around it as the selector says.  The conditions see the whole
document.

The document itself counts as the element above the outermost one.  No name, no
attribute and no class is its own, but it is what `:root` stands for.

If a selector looks for an element somewhere above, the nearest one that fits is
enough as long as what is said further left also looks somewhere above, since
all that is above a higher element is above a lower one too.  The same holds
among siblings.
-/

namespace PageExtract.Css

open Html (Node Place ElementName Attr)

/-- A text with `A` to `Z` in lower case, as characters. -/
def foldedChars (s : String) : List Char := s.toList.map Char.toLower

/-- Whether a list of characters occurs in another. -/
def occursIn (part : List Char) : List Char → Bool
  | [] => part.isEmpty
  | c :: rest => part.isPrefixOf (c :: rest) || occursIn part rest

/-- The words of a text, cut at space. -/
def words : List Char → List (List Char)
  | [] => [[]]
  | c :: rest =>
      if c = ' ' ∨ c = '\t' ∨ c = '\n' ∨ c = '\r' ∨ c = '\x0c' then [] :: words rest
      else match words rest with
        | [] => [[c]]
        | w :: ws => (c :: w) :: ws

/-- Whether the value of an attribute passes a comparison. -/
def AttrOperator.holds (operator : AttrOperator) (value wanted : List Char) : Bool :=
  match operator with
  | .equal => value == wanted
  | .word => !wanted.isEmpty && (words value).contains wanted
  | .dash => value == wanted || (wanted ++ ['-']).isPrefixOf value
  | .start => !wanted.isEmpty && wanted.isPrefixOf value
  | .finish => !wanted.isEmpty && wanted.reverse.isPrefixOf value.reverse
  | .inside => !wanted.isEmpty && occursIn wanted value

/-- Whether the value of an attribute passes a test. -/
def AttrTest.holds (inHtml : Bool) (test : AttrTest) (value : String) : Bool :=
  match test with
  | .present => true
  | .compare operator wanted letters =>
    let folds := match letters with
      | .exact => false
      | .folded => true
      | .foldedInHtml => inHtml
    if folds then operator.holds (foldedChars value) (foldedChars wanted)
    else operator.holds value.toList wanted.toList

/-- Whether a node has a name.  Names are in lower case on elements of HTML. -/
def hasName (name : String) : Node → Bool
  | .element e _ _ =>
      if e.vocabulary == .html then e.name.toList == foldedChars name else e.name == name
  | _ => false

/-- Whether a node has an attribute that passes a test. -/
def hasAttr (anyVocabulary : Bool) (name : String) (test : AttrTest) (n : Node) : Bool :=
  match n with
  | .element e attrs _ =>
    let inHtml := e.vocabulary == .html
    let wanted := if inHtml then foldedChars name else name.toList
    attrs.any fun a =>
      (anyVocabulary || a.vocabulary == .none) && a.name.toList == wanted &&
        test.holds inHtml a.value
  | _ => false

/-- Whether a node has a class. -/
def hasClass (name : String) (n : Node) : Bool :=
  match n.attr? "class" with
  | some value => !name.isEmpty && (words value.toList).contains name.toList
  | none => false

/-- Whether a node has an identifier. -/
def hasId (id : String) (n : Node) : Bool := n.attr? "id" == some id

/-- Whether a node holds no elements and no text but blanks. -/
def isEmptyNode (n : Node) : Bool :=
  n.children.all fun c => match c with
    | .text s => Text.isAllBlank s
    | .element .. => false
    | _ => true

/-- Whether a node holds a single text that is not blank. -/
def isOnlyText (n : Node) : Bool :=
  match n.children with
  | [.text s] => !Text.isAllBlank s
  | _ => false

/-- Whether a node is a link. -/
def isLink (n : Node) : Bool :=
  match n with
  | .element e _ _ => ["a", "area", "link"].contains e.name && (n.attr? "href").isSome
  | _ => false

mutual

/-- Whether a text at or below a node contains a string. -/
def someTextHas (part : List Char) : Node → Bool
  | .document cs => someTextOf part cs
  | .element _ _ cs => someTextOf part cs
  | .text s => occursIn part s.toList
  | .comment _ => false
  | .doctype _ => false

/-- Whether a text at or below one of some nodes contains a string. -/
def someTextOf (part : List Char) : List Node → Bool
  | [] => false
  | n :: rest => someTextHas part n || someTextOf part rest

end

/-- Whether two nodes are elements of the same name. -/
def sameName : Node → Node → Bool
  | .element a _ _, .element b _ _ => a == b
  | .document _, .document _ => true
  | _, _ => false

/-- The siblings among which positions are counted, of those on one side. -/
def counted (sameNameOnly : Bool) (p : Place) (siblings : List Place) : Nat :=
  siblings.countP fun q => !sameNameOnly || sameName p.node q.node

/-- Whether `index` is `step * n + offset` for some `n`. -/
def Position.covers (pos : Position) (index : Nat) : Bool :=
  let distance := (index : Int) - pos.offset
  if pos.step = 0 then distance = 0
  else distance % pos.step = 0 && 0 ≤ distance.tdiv pos.step

/-- Whether a place stands at a position among its siblings. -/
def Position.holds (pos : Position) (p : Place) : Bool :=
  let siblings := if pos.fromLast then p.elementsAfter else p.elementsBefore
  pos.covers (counted pos.sameName p siblings + 1)

/-- Whether what is said further left looks as far as `c` does, or nothing is said. -/
def Left.looksBy (c : Combinator) : Left → Bool
  | .nothing => true
  | .seenFrom d _ _ => c == d

mutual

/-- Whether a condition holds at a place.  `anchor` is the place that `:has` looks from. -/
def Condition.holds (anchor : Option Place) (p : Place) : Condition → Bool
  | .named name => hasName name p.node
  | .universal => true
  | .noVocabulary => false
  | .hasId id => Css.hasId id p.node
  | .hasClass name => Css.hasClass name p.node
  | .hasAttr anyVocabulary name test => Css.hasAttr anyVocabulary name test p.node
  | .at position => position.holds p
  | .only same => counted same p p.elementsBefore == 0 && counted same p p.elementsAfter == 0
  | .root => p.above.isEmpty
  | .empty => isEmptyNode p.node
  | .onlyText => isOnlyText p.node
  | .link => isLink p.node
  | .contains s => occursIn s.toList p.node.contentChars
  | .hasText s => someTextHas s.toList p.node
  | .none list => !Selector.anyMatches anchor p list
  | .some list => Selector.anyMatches anchor p list
  | .has list =>
      p.below.any (fun q => Selector.anyMatches (some p) q list) ||
        p.elementsAfter.any fun q =>
          Selector.anyMatches (some p) q list ||
            q.below.any fun r => Selector.anyMatches (some p) r list
  | .anchor => match anchor with
    | some a => a.path == p.path
    | none => false
  | .never => false

/-- Whether all conditions hold at a place. -/
def Condition.allHold (anchor : Option Place) (p : Place) : List Condition → Bool
  | [] => true
  | c :: rest => c.holds anchor p && Condition.allHold anchor p rest

/-- Whether a selector matches a place. -/
def Selector.matchesFrom (anchor : Option Place) (p : Place) : Selector → Bool
  | .mk subject left => Condition.allHold anchor p subject && left.holds anchor p

/-- Whether one of some selectors matches a place. -/
def Selector.anyMatches (anchor : Option Place) (p : Place) : List Selector → Bool
  | [] => false
  | s :: rest => s.matchesFrom anchor p || Selector.anyMatches anchor p rest

/-- Whether there are elements around a place as a selector says. -/
def Left.holds (anchor : Option Place) (p : Place) : Left → Bool
  | .nothing => true
  | .seenFrom combinator conditions left =>
    let candidates : List Place := match combinator with
      | .descendant => p.ancestors
      | .child => p.parent?.toList
      | .next => p.elementsBefore.take 1
      | .later => p.elementsBefore
    if left.looksBy combinator then
      match candidates.find? fun q => Condition.allHold anchor q conditions with
      | some q => left.holds anchor q
      | none => false
    else candidates.any fun q => Condition.allHold anchor q conditions && left.holds anchor q

end

/-- Whether one of some selectors matches a place. -/
def matches? (list : List Selector) (p : Place) : Bool := Selector.anyMatches none p list

end PageExtract.Css
