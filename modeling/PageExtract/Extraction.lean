import PageExtract.Css.Cache
import PageExtract.Html.View
import PageExtract.Rule.Validation

/-!
# Extraction

A rule set turns the text of a document into a record.  Every text is a
document, so there is always a record, and it has a field for each rule.

The selectors of the rules are compiled through a cache.  Reading a rule set
fills it with all selectors of the rules, so that extraction compiles nothing.
-/

namespace PageExtract

/-- The record of a rule set for a document, when `compile` tells what a selector means. -/
def extractBy {m : Type → Type} [Monad m] (compile : String → m (Option (List Css.Selector)))
    (html : String) (rules : RuleSet) : m Record :=
  rules.evaluate (Html.View.scope compile) (Html.View.ofDocument (Html.parse html))

/-- The record of a rule set for a document. -/
def extract (html : String) (rules : RuleSet) : Record :=
  extractBy (fun selector => (pure (Css.compile selector) : Id _)) html rules

/-- The record of a rule set for a document, with selectors from a cache. -/
def extractCached (html : String) (rules : RuleSet) : StateM Css.Cache Record :=
  extractBy Css.Cache.getOrCompile html rules

/-- Whether a text is a selector. -/
def isSelector (text : String) : Bool := (Css.compile text).isSome

/-- The rule set that a text defines. -/
def RuleSet.ofJson (text : String) : Except RuleError RuleSet :=
  RuleSet.parse (fun selector => (pure (isSelector selector) : Id Bool)) text

/-- The rule set that a text defines, with selectors compiled into a cache. -/
def RuleSet.ofJsonCached (text : String) : StateM Css.Cache (Except RuleError RuleSet) :=
  (RuleSet.parse Css.Cache.compiles text).run

end PageExtract
