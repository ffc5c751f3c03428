/-!
# Selectors

A selector is read from the right.  Its *subject* is a list of conditions on the
element itself.  The rest says where that element stands: below, right below,
right after or somewhere after another element, for which there are conditions
again, and so on.

A list of selectors matches what one of them matches.
-/

namespace PageExtract.Css

/-- Where an element stands, seen from another one. -/
inductive Combinator where
  /-- Somewhere below it. -/
  | descendant
  /-- Right below it. -/
  | child
  /-- Right after it. -/
  | next
  /-- Somewhere after it, below the same parent. -/
  | later
  deriving DecidableEq, Repr

/-- How the value of an attribute is compared. -/
inductive AttrOperator where
  | equal
  /-- The value is one of the words of the attribute. -/
  | word
  /-- The attribute is the value, or goes on with a hyphen after it. -/
  | dash
  | start
  | finish
  | inside
  deriving DecidableEq, Repr

/-- Which letters are the same when values are compared. -/
inductive LetterCase where
  /-- Each letter is only itself. -/
  | exact
  /-- Letters are the same in both cases. -/
  | folded
  /-- Letters are the same in both cases on elements of HTML. -/
  | foldedInHtml
  deriving DecidableEq, Repr

/-- What is asked of an attribute. -/
inductive AttrTest where
  | present
  | compare (operator : AttrOperator) (value : String) (letters : LetterCase)
  deriving DecidableEq, Repr

/-- A position among siblings: `step * n + offset` for some `n`. -/
structure Position where
  /-- The distance between two positions. -/
  step : Int
  /-- The position for zero. -/
  offset : Int
  /-- Whether only elements of the same name count. -/
  sameName : Bool
  /-- Whether positions are counted from the last sibling. -/
  fromLast : Bool
  deriving DecidableEq, Repr

mutual

/-- A condition on an element. -/
inductive Condition where
  /-- The element has a name.  For elements of HTML its case does not matter. -/
  | named (name : String)
  /-- It is any element. -/
  | universal
  /-- Its name comes from no vocabulary. -/
  | noVocabulary
  /-- It has an identifier. -/
  | hasId (id : String)
  /-- It has a class. -/
  | hasClass (name : String)
  /-- It has an attribute, whose name may come from any vocabulary or only from none. -/
  | hasAttr (anyVocabulary : Bool) (name : String) (test : AttrTest)
  /-- It stands at a position. -/
  | at (position : Position)
  /-- It is the only element below its parent, or the only one of its name. -/
  | only (sameName : Bool)
  /-- It is the document itself. -/
  | root
  /-- It holds no elements and no text but blanks. -/
  | empty
  /-- It holds a single text, which is not blank, and nothing else. -/
  | onlyText
  /-- It is a link. -/
  | link
  /-- Its text contains a string. -/
  | contains (content : String)
  /-- One of the texts below it contains a string. -/
  | hasText (content : String)
  /-- It matches none of the selectors. -/
  | none (list : List Selector)
  /-- It matches one of the selectors. -/
  | some (list : List Selector)
  /-- Something that stands as the selectors say, seen from the element, matches one of them. -/
  | has (list : List Selector)
  /-- It is the element that another condition looks from. -/
  | anchor
  /-- Nothing holds of it. -/
  | never
  deriving Repr

/-- A selector. -/
inductive Selector where
  /-- Conditions on an element and on where it stands. -/
  | mk (subject : List Condition) (left : Left)
  deriving Repr

/-- What a selector says of where an element stands. -/
inductive Left where
  /-- Nothing. -/
  | nothing
  /-- It stands somewhere, seen from an element with conditions of its own. -/
  | seenFrom (combinator : Combinator) (conditions : List Condition) (left : Left)
  deriving Repr

end

end PageExtract.Css
