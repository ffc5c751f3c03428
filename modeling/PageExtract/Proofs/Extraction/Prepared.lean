import PageExtract.Proofs.Checks
import PageExtract.Proofs.Extraction.Plain
import PageExtract.Proofs.Rule.Compiled

/-!
# Extraction compiles nothing

A rule set that was read through a cache has all its selectors in the cache, each as a
selector (`RuleSet.holds_of_ofJsonCached`).  So extraction finds every selector it asks
for, and the cache stays as it is.

The scope `Html.View.watched` is the scope of views with a cache, and it notes each
selector that it is asked for together with what the cache holds for it at that time.
A question that comes to nothing because its selector is no selector would show there.
-/

namespace PageExtract

/-- A question to a scope: the selector, and what the cache holds for it when it is asked. -/
structure Question where
  /-- The selector. -/
  selector : String
  /-- What the cache holds for it. -/
  held : Option (Option (List Css.Selector))

namespace Html.View

/-- Notes a question. -/
def note (selector : String) : StateT (List Question) (StateM Css.Cache) Unit := do
  let cache ← (getThe Css.Cache : StateT (List Question) (StateM Css.Cache) Css.Cache)
  modify (· ++ [⟨selector, cache.get? selector⟩])

/-- Views as scopes, with a cache, which note the questions that they are asked. -/
def watched : Scope (StateT (List Question) (StateM Css.Cache)) View Place where
  select v selector := do
    note selector
    (scope Css.Cache.getOrCompile).select v selector
  selectFirst v selector := do
    note selector
    (scope Css.Cache.getOrCompile).selectFirst v selector
  text := (scope Css.Cache.getOrCompile).text
  attr := (scope Css.Cache.getOrCompile).attr
  subscope := (scope Css.Cache.getOrCompile).subscope

end Html.View

namespace Css.Cache

open Html Html.View

/-- What a cache holds for a selector, as a question with one answer. -/
def lookUp (c : Cache) (selector : String) : Id (Option (List Selector)) :=
  pure ((c.get? selector).getD none)

/-- Whether a computation comes to a value and leaves a cache as it is. -/
def unchanged (c : Cache) : AnswerRelation (StateM Cache) where
  Answers x a := x.run c = (a, c)
  pure _ := rfl
  bind {_ _ x f a b} hx hf := by
    rw [StateT.run_bind, hx]
    exact hf

/-- Whether a computation comes to a value and leaves a cache as it is, and asks only for some
selectors, which the cache holds. -/
def onlyAsks (c : Cache) (selectors : List String) :
    AnswerRelation (StateT (List Question) (StateM Cache)) where
  Answers x a := ∀ before, ∃ asked : List Question,
    (∀ q ∈ asked, q.selector ∈ selectors ∧ ∃ list, q.held = some (some list)) ∧
      (x.run before).run c = ((a, before ++ asked), c)
  pure a before := ⟨[], nofun, by rw [List.append_nil]; rfl⟩
  bind {_ _ x f a b} hx hf before := by
    obtain ⟨first, found, ran⟩ := hx before
    obtain ⟨more, found', ran'⟩ := hf (before ++ first)
    refine ⟨first ++ more, List.forall_mem_append.mpr ⟨found, found'⟩, ?_⟩
    rw [StateT.run_bind, StateT.run_bind, ran, ← List.append_assoc]
    exact ran'

variable {c : Cache} {selectors : List String}

theorem Holds.unchanged_getOrCompile (h : c.Holds selectors) {selector : String}
    (asked : selector ∈ selectors) :
    (unchanged c).Answers (getOrCompile selector) (c.lookUp selector).run := by
  obtain ⟨list, there⟩ := h selector asked
  show (getOrCompile selector).run c = _
  rw [run_getOrCompile, lookUp, there]
  rfl

theorem Holds.unchanged_scope (h : c.Holds selectors) :
    (scope getOrCompile).AnswersAs (unchanged c) (scope c.lookUp) selectors :=
  scope_answersAs fun _ asked => h.unchanged_getOrCompile asked

theorem Holds.onlyAsks_note (h : c.Holds selectors) {selector : String}
    (asked : selector ∈ selectors) : (onlyAsks c selectors).Answers (note selector) () := by
  intro before
  refine ⟨[⟨selector, c.get? selector⟩], ?_, rfl⟩
  exact List.forall_mem_singleton.mpr ⟨asked, h selector asked⟩

/-- A question that is not noted asks nothing. -/
theorem onlyAsks_lift {α : Type} {x : StateM Cache α} {a : α} (h : (unchanged c).Answers x a) :
    (onlyAsks c selectors).Answers (liftM x : StateT (List Question) (StateM Cache) α) a := by
  intro before
  refine ⟨[], nofun, ?_⟩
  show (do let a ← x; pure (a, before) : StateM Cache _).run c = _
  rw [StateT.run_bind, h, List.append_nil]
  rfl

theorem Holds.onlyAsks_watched (h : c.Holds selectors) :
    watched.AnswersAs (onlyAsks c selectors) (scope c.lookUp) selectors where
  select v selector asked := (onlyAsks c selectors).bind (h.onlyAsks_note asked)
    (onlyAsks_lift (h.unchanged_scope.select v selector asked))
  selectFirst v selector asked := (onlyAsks c selectors).bind (h.onlyAsks_note asked)
    (onlyAsks_lift (h.unchanged_scope.selectFirst v selector asked))
  text := rfl
  attr := rfl
  subscope := rfl

end Css.Cache

open Html Css.Cache

/-- However a cache was filled before: once a rule set was read through it, it holds all selectors
of the rule set as selectors.  Then extraction from any document leaves it as it is, and each
selector that a scope is asked for is found in it as a selector. -/
theorem extractCached_finds {text : String} {cache : Css.Cache} {rules : RuleSet}
    (accepted : ((RuleSet.ofJsonCached text).run cache).1 = .ok rules) :
    let prepared := ((RuleSet.ofJsonCached text).run cache).2
    (∀ selector ∈ rules.selectors, ∃ list, prepared.get? selector = some (some list)) ∧
    ∀ html, ∃ record asked,
      (extractCached html rules).run prepared = (record, prepared) ∧
      ((rules.evaluate View.watched (.ofDocument (Html.parse html))).run []).run prepared =
        ((record, asked), prepared) ∧
      ∀ q ∈ asked, q.selector ∈ rules.selectors ∧ ∃ list, q.held = some (some list) := by
  intro prepared
  have holds : prepared.Holds rules.selectors := RuleSet.holds_of_ofJsonCached accepted
  refine ⟨holds, ?_⟩
  intro html
  have kept := rules.evaluate_answers holds.unchanged_scope (.ofDocument (Html.parse html))
  obtain ⟨asked, found, ran⟩ :=
    rules.evaluate_answers holds.onlyAsks_watched (.ofDocument (Html.parse html)) []
  exact ⟨_, asked, kept, ran, found⟩

/-- A list of texts, read with blanks around the selectors through a cache that holds one of them
already, next to a text that is no selector. -/
theorem extractCached_finds_items :
    let text := "\x7b\"l\":\x7b\"kind\":\"list\",\"selector\":\" p \",\"childRules\":" ++
      "\x7b\"t\":\x7b\"kind\":\"text\",\"selector\":\"b\\n\"\x7d\x7d\x7d\x7d"
    let cache : Css.Cache := ⟨[("[", none), ("b", Css.compile "b")]⟩
    let rules : RuleSet := ⟨[("l", .list "p" ⟨[("t", .text "b")]⟩)]⟩
    ((RuleSet.ofJsonCached text).run cache).1.toOption = some rules ∧
      ∀ html, ((extractCached html rules).run ((RuleSet.ofJsonCached text).run cache).2).2 =
        ((RuleSet.ofJsonCached text).run cache).2 := by
  intro text cache rules
  have given : ((RuleSet.ofJsonCached text).run cache).1.toOption = some rules := by
    decide +kernel
  refine ⟨given, ?_⟩
  intro html
  obtain ⟨record, asked, kept, -⟩ := (extractCached_finds (toOption_eq_some_iff.mp given)).2 html
  rw [kept]

end PageExtract
