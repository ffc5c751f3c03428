import PageExtract.Proofs.Css.Outlook
import PageExtract.Proofs.Extraction.Plain

/-!
# Items of a list and what is around them

The rules of a list are evaluated below each node that the list gives.  All that is
read there belongs to the node.  But a selector may look up from there, as `.a b`
does, and what it looks for may stand above the node.  So the record of an item can
depend on more than the item (`evaluate_subscope_around`).

It depends on no more than the *outlook* of the item: for each combinator that looks
up, whether from the node upward there is what the selector says.  Two equal nodes
with the same outlook give the same record, whatever documents they stand in
(`RuleSet.evaluate_subscope_eq`).  If no selector has a descendant or child
combinator, then the outlook is empty, and equal nodes always give the same record.
-/

namespace PageExtract

open Html

/-- What the selectors of a rule set say with combinators that look up, here and inside. -/
def RuleSet.upward (rules : RuleSet) : List Css.Left :=
  rules.selectors.flatMap fun selector => (Css.compile selector).elim [] Css.Selector.upwardOf

/-- The outlook of a place: for each combinator of a rule set that looks up, whether it finds
what it looks for from the place upward. -/
def RuleSet.outlook (rules : RuleSet) (p : Place) : List Bool :=
  rules.upward.map (Css.Left.holdsAbove p)

/-! ## What is found in a part -/

section

variable {root : Node} {above above' : List Level}

/-- Whether the selectors among some texts have the same outlook from the root of a part below
some levels and below others. -/
def SeeAlike (root : Node) (above above' : List Level) (selectors : List String) : Prop :=
  ∀ selector ∈ selectors, ∀ list, Css.compile selector = some list →
    Css.AnswersAlike root above above' (Css.Selector.upwardOf list)

theorem seeAlike_of_outlook {rules : RuleSet}
    (same : rules.outlook ⟨root, above⟩ = rules.outlook ⟨root, above'⟩) :
    SeeAlike root above above' rules.selectors := by
  intro selector hs list compiled left hl
  refine List.map_inj_left.mp same left (List.mem_flatMap.mpr ⟨selector, hs, ?_⟩)
  rw [compiled]
  exact hl

theorem Html.View.select_ofPlace_under (levels : List Level) (p : Place) (list : List Css.Selector) :
    (View.ofPlace (p.under levels)).select list =
      (p.below.filter fun q => Css.matches? list (q.under levels)).map (Place.under levels) := by
  show (p.under levels).below.filter (Css.matches? list) = _
  rw [Place.below_under, List.filter_map]
  rfl

/-- The same places of a part are found in both documents. -/
theorem select_under {p : Place} (part : p.top = root) {selector : String}
    {selectors : List String} (alike : SeeAlike root above above' selectors)
    (among : selector ∈ selectors) :
    ∃ places : List Place, (∀ q ∈ places, q.top = root) ∧
      ((View.scope View.meaning).select (.ofPlace (p.under above)) selector).run =
        places.map (Place.under above) ∧
      ((View.scope View.meaning).select (.ofPlace (p.under above')) selector).run =
        places.map (Place.under above') := by
  rw [View.select_meaning, View.select_meaning]
  cases compiled : Css.compile selector with
  | none => exact ⟨[], List.forall_mem_nil _, rfl, rfl⟩
  | some list =>
    have inside (q : Place) (hq : q ∈ p.below) : q.Inside root :=
      part ▸ Place.inside_of_mem_below hq
    have matched : ∀ q ∈ p.below,
        Css.matches? list (q.under above) = Css.matches? list (q.under above') :=
      fun q hq => Css.matches?_under (alike selector among list compiled) (inside q hq)
    refine ⟨p.below.filter fun q => Css.matches? list (q.under above), ?_, ?_, ?_⟩
    · intro q hq
      exact (inside q (List.mem_filter.mp hq).1).top_eq
    · exact View.select_ofPlace_under above p list
    · rw [List.filter_congr matched]
      exact View.select_ofPlace_under above' p list

/-- The first place that is found is the same node in both documents. -/
theorem selectFirst_under {p : Place} (part : p.top = root) {selector : String}
    {selectors : List String} (alike : SeeAlike root above above' selectors)
    (among : selector ∈ selectors) :
    ((View.scope View.meaning).selectFirst (.ofPlace (p.under above)) selector).run.map
        Place.node =
      ((View.scope View.meaning).selectFirst (.ofPlace (p.under above')) selector).run.map
        Place.node := by
  obtain ⟨places, _, here, there⟩ := select_under part alike among
  rw [View.selectFirst_eq_head?, View.selectFirst_eq_head?, here, there]
  cases places with
  | nil => rfl
  | cons q places => rfl

/-! ## What is made of it -/

mutual

theorem Rule.evaluate_under : ∀ (rule : Rule), SeeAlike root above above' rule.selectors →
    ∀ p : Place, p.top = root →
      (rule.evaluate (View.scope View.meaning) (.ofPlace (p.under above))).run =
        (rule.evaluate (View.scope View.meaning) (.ofPlace (p.under above'))).run
  | .text selector, alike, p, part => by
    have text (v : View) (first : Option Place) :
        first.map ((View.scope View.meaning).text v) =
          (first.map Place.node).map fun n => Text.trim n.content := by
      rw [Option.map_map]
      rfl
    rw [Rule.evaluate_text_run, Rule.evaluate_text_run, text, text,
      selectFirst_under part alike (.head _)]
  | .attr selector name, alike, p, part => by
    have attr (v : View) (first : Option Place) :
        (first.bind fun q => (View.scope View.meaning).attr v q name) =
          (first.map Place.node).bind (Node.attr? name) := by
      rw [Option.bind_map]
      rfl
    rw [Rule.evaluate_attr_run, Rule.evaluate_attr_run, attr, attr,
      selectFirst_under part alike (.head _)]
  | .list selector rules, alike, p, part => by
    obtain ⟨places, within, here, there⟩ := select_under part alike (.head _)
    have inside : SeeAlike root above above' rules.selectors :=
      fun s hs => alike s (.tail _ hs)
    rw [Rule.evaluate_list_run, Rule.evaluate_list_run, here, there, List.map_map, List.map_map]
    refine congrArg Value.list (List.map_congr_left ?_)
    intro q hq
    exact RuleSet.evaluate_under rules inside q (within q hq)

/-- Rules with the same outlook from a part in two documents give the same record there. -/
theorem RuleSet.evaluate_under : ∀ (rules : RuleSet),
    SeeAlike root above above' rules.selectors → ∀ p : Place, p.top = root →
      (rules.evaluate (View.scope View.meaning) (.ofPlace (p.under above))).run =
        (rules.evaluate (View.scope View.meaning) (.ofPlace (p.under above'))).run
  | ⟨fields⟩, alike, p, part =>
    congrArg Record.mk (RuleSet.evaluateFields_under fields alike p part)

theorem RuleSet.evaluateFields_under : ∀ (fields : List (String × Rule)),
    SeeAlike root above above' (RuleSet.selectorsOfFields fields) → ∀ p : Place, p.top = root →
      (RuleSet.evaluateFields (View.scope View.meaning) fields (.ofPlace (p.under above))).run =
        (RuleSet.evaluateFields (View.scope View.meaning) fields (.ofPlace (p.under above'))).run
  | [], _, _, _ => rfl
  | (name, rule) :: rest, alike, p, part => by
    have first := Rule.evaluate_under rule (fun s hs => alike s (List.mem_append_left _ hs)) p part
    have later := RuleSet.evaluateFields_under rest
      (fun s hs => alike s (List.mem_append_right _ hs)) p part
    rw [RuleSet.evaluateFields_run, RuleSet.evaluateFields_run] at later ⊢
    rw [List.map_cons, List.map_cons, later, first]

end

end

/-! ## Items -/

/-- Equal nodes with the same outlook give the same record, in whatever documents and below
whatever they stand, and also if selectors are compiled through caches. -/
theorem RuleSet.evaluate_subscope_eq {rules : RuleSet} {p q : Place} (same : p.node = q.node)
    (outlook : rules.outlook p = rules.outlook q) (v w : View) :
    (rules.evaluate (View.scope View.meaning) ((View.scope View.meaning).subscope v p)).run =
        (rules.evaluate (View.scope View.meaning) ((View.scope View.meaning).subscope w q)).run ∧
      ∀ c d : Css.Cache, c.Sound → d.Sound →
        ((rules.evaluate (View.scope Css.Cache.getOrCompile)
            ((View.scope Css.Cache.getOrCompile).subscope v p)).run c).1 =
          ((rules.evaluate (View.scope Css.Cache.getOrCompile)
            ((View.scope Css.Cache.getOrCompile).subscope w q)).run d).1 := by
  obtain ⟨node, above⟩ := p
  obtain ⟨_, above'⟩ := q
  dsimp only at same
  subst same
  have plain := RuleSet.evaluate_under rules (seeAlike_of_outlook outlook) ⟨node, []⟩ rfl
  refine ⟨plain, ?_⟩
  intro c d soundC soundD
  have here := (RuleSet.answers_evaluate rules (.ofPlace ⟨node, above⟩) c soundC).1
  have there := (RuleSet.answers_evaluate rules (.ofPlace ⟨node, above'⟩) d soundD).1
  exact here.trans (plain.trans there.symm)

/-- Two equal cards, one of them on sale.  Their rules look up, but for nothing that is found
above a card, so their records are the same. -/
theorem RuleSet.evaluate_subscope_eq_cards :
    let card : Node := .element ⟨.html, "div"⟩ []
      [.element ⟨.html, "p"⟩ [{ name := "class", value := "price" }]
        [.element ⟨.html, "b"⟩ [] [.text "9"]],
       .element ⟨.html, "ul"⟩ [] [.element ⟨.html, "li"⟩ [] [.text "new"]]]
    let sale : List Attr := [{ name := "class", value := "sale" }]
    let p : Place := ⟨card, [⟨some (⟨.html, "div"⟩, sale), [], []⟩, ⟨none, [], [card]⟩]⟩
    let q : Place := ⟨card, [⟨none, [.element ⟨.html, "div"⟩ sale [card]], []⟩]⟩
    let rules : RuleSet := ⟨[("price", .text ".price b"),
      ("tags", .list "div > ul > li:not(.old li)" ⟨[("first", .text "b:first-child")]⟩)]⟩
    let view : View := .ofDocument (.document [.element ⟨.html, "div"⟩ sale [card], card])
    p.node = q.node ∧ rules.outlook p = rules.outlook q ∧
      (rules.evaluate (View.scope View.meaning) ((View.scope View.meaning).subscope view q)).run =
        ⟨[("price", .text "9"), ("tags", .list [⟨[("first", .text "")]⟩])]⟩ ∧
      (rules.evaluate (View.scope View.meaning) ((View.scope View.meaning).subscope view p)).run =
        (rules.evaluate (View.scope View.meaning) ((View.scope View.meaning).subscope view q)).run := by
  intro card sale p q rules view
  have outlook : rules.outlook p = rules.outlook q := by decide +kernel
  refine ⟨rfl, outlook, by decide +kernel, ?_⟩
  exact (RuleSet.evaluate_subscope_eq (p := p) (q := q) rfl outlook view view).1

/-- Two equal items of a document give different records, since one of them stands in an element
that the rules look for and that is no part of the item. -/
theorem evaluate_subscope_around :
    let item : Node := .element ⟨.html, "p"⟩ [] [.element ⟨.html, "b"⟩ [] [.text "x"]]
    let document : Node :=
      .document [.element ⟨.html, "div"⟩ [{ name := "class", value := "a" }] [item], item]
    let rules : RuleSet := ⟨[("t", .text ".a b")]⟩
    (RuleSet.ofJson "\x7b\"t\":\x7b\"kind\":\"text\",\"selector\":\".a b\"\x7d\x7d").toOption =
        some rules ∧
      (∃ p ∈ (Place.ofDocument document).below, ∃ q ∈ (Place.ofDocument document).below,
        p.node = item ∧ q.node = item ∧
        (rules.evaluate (View.scope View.meaning) (.ofPlace p)).run = ⟨[("t", .text "x")]⟩ ∧
        (rules.evaluate (View.scope View.meaning) (.ofPlace q)).run = ⟨[("t", .text "")]⟩) ∧
      extract "<div class=a><p><b>x</b></p></div><p><b>x</b></p>" ⟨[("l", .list "p" rules)]⟩ =
        ⟨[("l", .list [⟨[("t", .text "x")]⟩, ⟨[("t", .text "")]⟩])]⟩ := by
  intro item document rules
  refine ⟨by decide +kernel, ?_, by decide +kernel⟩
  let named : List Attr := [{ name := "class", value := "a" }]
  let first : Place :=
    ⟨item, [⟨some (⟨.html, "div"⟩, named), [], []⟩, ⟨none, [], [item]⟩]⟩
  let second : Place := ⟨item, [⟨none, [.element ⟨.html, "div"⟩ named [item]], []⟩]⟩
  refine ⟨first, .tail _ (.head _), second, .tail _ (.tail _ (.tail _ (.head _))), rfl, rfl, ?_, ?_⟩
  · decide +kernel
  · decide +kernel

end PageExtract
