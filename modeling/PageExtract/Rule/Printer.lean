import PageExtract.Json.Quoted
import PageExtract.Rule.Basic

/-!
# Rule sets as definitions

A rule set is written as the text of its definition, without space.  Members
have their first names, and a rule has only those that its kind needs.
-/

namespace PageExtract

/-- A member of a definition whose value is a text. -/
def RuleSet.textMember (name value : String) : List Char :=
  Json.quoteChars name ++ ':' :: Json.quoteChars value

/-- The members that every definition has. -/
def Rule.commonMembers (kind : RuleKind) (selector : String) : List Char :=
  RuleSet.textMember "kind" kind.name ++ ',' :: RuleSet.textMember "selector" selector

mutual

/-- The definition of a rule. -/
def Rule.definitionChars : Rule → List Char
  | .text s => '{' :: Rule.commonMembers .text s ++ ['}']
  | .attr s name =>
      '{' :: Rule.commonMembers .attr s ++ ',' :: RuleSet.textMember "attributeName" name ++ ['}']
  | .list s rules =>
      '{' :: Rule.commonMembers .list s ++ ',' :: Json.quoteChars "childRules" ++
        ':' :: rules.definitionChars ++ ['}']

/-- The definition of a rule set. -/
def RuleSet.definitionChars : RuleSet → List Char
  | ⟨fields⟩ => '{' :: RuleSet.definitionOfFields true fields ++ ['}']

/-- The members of the definition of a rule set.  A comma stands before all but the first. -/
def RuleSet.definitionOfFields (first : Bool) : List (String × Rule) → List Char
  | [] => []
  | (name, rule) :: rest =>
      (if first then [] else [',']) ++ Json.quoteChars name ++ ':' :: rule.definitionChars ++
        RuleSet.definitionOfFields false rest

end

/-- The text of the definition of a rule set. -/
def RuleSet.definition (rules : RuleSet) : String := String.ofList rules.definitionChars

end PageExtract
