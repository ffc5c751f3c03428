import PageExtract.Proofs.Rule.Depth
import PageExtract.Proofs.Rule.Preorder
import PageExtract.Proofs.Scope.Totality

/-!
# Which questions a rule set asks

A scope may remember which questions were put to it, and how often it was derived from another one
(`Scope.traced`).  Nothing else is asked of the monad of the scope, so this can be said of every
scope, and of each way in which its answers may turn out.

Deriving a scope is no question.  But a scope is derived only for the nodes of a list, so the level
of the question for that list tells how deep its nodes lead (`Query.reaches`), also if nothing is
asked there.

Evaluation comes to the same as without the memory, and what a rule adds to it is about the
selectors of the rule (`RuleSet.traces_evaluate`).  From this it follows which questions are asked
in a whole run, and that none is left out if no list is empty (`RuleSet.evaluate_asks`).
-/

namespace PageExtract

/-- A question that a scope was asked. -/
structure Query where
  /-- How often the scope was derived from another one. -/
  level : Nat
  /-- The selector. -/
  selector : String
  /-- How many nodes were found, if all of them were asked for. -/
  found? : Option Nat
  deriving DecidableEq, Repr

/-- The deepest level that a question leads to.  If all nodes are asked for, a scope is derived for
each of them. -/
def Query.reaches (q : Query) : Nat :=
  match q.found? with
  | none => q.level
  | some _ => q.level + 1

variable {m : Type → Type} [Monad m] {σ ν : Type}

namespace Scope

/-- Puts a question to a scope and remembers it. -/
def remember {α : Type} (question : α → Query) (answer : m α) : StateT (List Query) m α := do
  let a ← answer
  modify (· ++ [question a])
  return a

/-- The scope that answers as another one does, remembers its questions, and knows how often it was
derived. -/
def traced (scope : Scope m σ ν) : Scope (StateT (List Query) m) (Nat × σ) ν where
  select := fun (level, s) selector =>
    remember (fun nodes => ⟨level, selector, some nodes.length⟩) (scope.select s selector)
  selectFirst := fun (level, s) selector =>
    remember (fun _ => ⟨level, selector, none⟩) (scope.selectFirst s selector)
  text := fun (_, s) => scope.text s
  attr := fun (_, s) => scope.attr s
  subscope := fun (level, s) node => (level + 1, scope.subscope s node)

end Scope

/-! ## What a computation asks -/

/-- Whether a computation that remembers questions comes to what another one comes to, and some
property holds of the questions that it adds. -/
structure Traces {α : Type} (x : StateT (List Query) m α) (y : m α)
    (holds : List Query → Prop) : Prop where
  /-- What it comes to. -/
  answer : ∀ before, Prod.fst <$> x.run before = y
  /-- What it adds. -/
  added : ∀ before,
    Always (fun result => ∃ asked, result.2 = before ++ asked ∧ holds asked) (x.run before)

namespace Traces

variable [LawfulMonad m] {α β : Type} {p q : List Query → Prop}

theorem pure {a : α} (holds : p []) : Traces (m := m) (Pure.pure a) (Pure.pure a) p where
  answer before := by rw [StateT.run_pure, map_pure]
  added before := .pure ⟨[], (List.append_nil before).symm, holds⟩

section

variable {f : α → StateT (List Query) m β} {g : α → m β}

theorem bind {x : StateT (List Query) m α} {y : m α} {later : List Query → Prop}
    (hx : Traces x y p) (hf : ∀ a, Traces (f a) (g a) later)
    (join : ∀ asked asked', p asked → later asked' → q (asked ++ asked')) :
    Traces (x >>= f) (y >>= g) q where
  answer before := by
    rw [StateT.run_bind, map_bind, ← hx.answer before, bind_map_left]
    exact bind_congr fun result => (hf result.1).answer result.2
  added before := by
    rw [StateT.run_bind]
    refine (hx.added before).bind fun (a, _) ⟨asked, same, holds⟩ => ?_
    subst same
    refine ((hf a).added _).imp fun _ ⟨asked', same, holds'⟩ => ?_
    exact ⟨asked ++ asked', same.trans (List.append_assoc ..), join asked asked' holds holds'⟩

/-- A question is remembered before all that is asked after it. -/
theorem remember_bind {question : α → Query} {answer : m α}
    (hf : ∀ a, Traces (f a) (g a) fun asked => q (question a :: asked)) :
    Traces (Scope.remember question answer >>= f) (answer >>= g) q := by
  have run (before : List Query) : (Scope.remember question answer >>= f).run before =
      answer >>= fun a => (f a).run (before ++ [question a]) := by
    simp [Scope.remember]
  constructor
  · intro before
    rw [run, map_bind]
    exact bind_congr fun a => (hf a).answer _
  · intro before
    rw [run]
    refine (Always.nothing answer).bind fun a _ => ?_
    refine ((hf a).added _).imp fun _ ⟨asked, same, holds⟩ => ?_
    exact ⟨question a :: asked, same.trans (List.append_assoc ..), holds⟩

end

theorem imp {x : StateT (List Query) m α} {y : m α} (hx : Traces x y p)
    (h : ∀ asked, p asked → q asked) : Traces x y q where
  answer := hx.answer
  added before :=
    (hx.added before).imp fun _ ⟨asked, same, holds⟩ => ⟨asked, same, h asked holds⟩

/-- What goes on from a value without a question. -/
theorem map {x : StateT (List Query) m α} {y : m α} {f : α → β} (hx : Traces x y p) :
    Traces (do return f (← x)) (do return f (← y)) p := by
  have silent (a : α) : Traces (m := m) (Pure.pure (f a)) (Pure.pure (f a)) (· = []) := pure rfl
  refine hx.bind silent ?_
  rintro asked _ holds rfl
  rwa [List.append_nil]

theorem recordsOf {ν : Type} {record : ν → StateT (List Query) m Record} {alike : ν → m Record}
    (h : ∀ node, Traces (record node) (alike node) p) (nodes : List ν) :
    Traces (PageExtract.recordsOf record nodes) (PageExtract.recordsOf alike nodes) fun asked =>
      ∃ parts : List (List Query), parts.length = nodes.length ∧ asked = parts.flatten ∧
        ∀ part ∈ parts, p part := by
  induction nodes with
  | nil => exact pure ⟨[], rfl, rfl, fun _ mem => nomatch mem⟩
  | cons node rest ih =>
    refine (h node).bind (fun r => ih.map) ?_
    rintro asked _ first ⟨parts, count, rfl, later⟩
    exact ⟨asked :: parts, congrArg (· + 1) count, rfl, List.forall_mem_cons.mpr ⟨first, later⟩⟩

end Traces

/-! ## What is asked for some selectors -/

/-- Whether questions ask for some selectors only, and lead no deeper than some level.  If each list
that they ask for has a node, they ask for all of these selectors. -/
structure Covers (selectors : List String) (deepest : Nat) (asked : List Query) : Prop where
  /-- The selectors that are asked for. -/
  listed : ∀ q ∈ asked, q.selector ∈ selectors
  /-- The levels. -/
  reaches : ∀ q ∈ asked, q.reaches ≤ deepest
  /-- No selector is left out. -/
  complete : (∀ q ∈ asked, q.found? ≠ some 0) →
    ∀ selector ∈ selectors, ∃ q ∈ asked, q.selector = selector

namespace Covers

variable {selectors selectors' : List String} {deepest deepest' : Nat} {asked asked' : List Query}

theorem nil : Covers [] deepest [] where
  listed _ mem := nomatch mem
  reaches _ mem := nomatch mem
  complete _ _ mem := nomatch mem

theorem first (level : Nat) (selector : String) :
    Covers [selector] level [⟨level, selector, none⟩] where
  listed := List.forall_mem_singleton.mpr (.head _)
  reaches := List.forall_mem_singleton.mpr (Nat.le_refl level)
  complete _ := List.forall_mem_singleton.mpr ⟨_, .head _, rfl⟩

theorem append (h : Covers selectors deepest asked) (h' : Covers selectors' deepest' asked') :
    Covers (selectors ++ selectors') (max deepest deepest') (asked ++ asked') where
  listed := List.forall_mem_append.mpr
    ⟨fun q mem => List.mem_append_left _ (h.listed q mem),
      fun q mem => List.mem_append_right _ (h'.listed q mem)⟩
  reaches := List.forall_mem_append.mpr
    ⟨fun q mem => Nat.le_trans (h.reaches q mem) (Nat.le_max_left ..),
      fun q mem => Nat.le_trans (h'.reaches q mem) (Nat.le_max_right ..)⟩
  complete found := by
    obtain ⟨here, there⟩ := List.forall_mem_append.mp found
    refine List.forall_mem_append.mpr ⟨fun selector mem => ?_, fun selector mem => ?_⟩
    · obtain ⟨q, asked, same⟩ := h.complete here selector mem
      exact ⟨q, List.mem_append_left _ asked, same⟩
    · obtain ⟨q, asked, same⟩ := h'.complete there selector mem
      exact ⟨q, List.mem_append_right _ asked, same⟩

/-- All nodes are asked for, and then the same selectors below each of them. -/
theorem list {level : Nat} {selector : String} {parts : List (List Query)}
    (deeper : level < deepest) (inside : ∀ part ∈ parts, Covers selectors deepest part) :
    Covers (selector :: selectors) deepest
      (⟨level, selector, some parts.length⟩ :: parts.flatten) where
  listed := by
    refine List.forall_mem_cons.mpr ⟨.head _, fun q mem => ?_⟩
    obtain ⟨part, listed, mem⟩ := List.mem_flatten.mp mem
    exact .tail _ ((inside part listed).listed q mem)
  reaches := by
    refine List.forall_mem_cons.mpr ⟨deeper, fun q mem => ?_⟩
    obtain ⟨part, listed, mem⟩ := List.mem_flatten.mp mem
    exact (inside part listed).reaches q mem
  complete found := by
    obtain ⟨some_node, found⟩ := List.forall_mem_cons.mp found
    refine List.forall_mem_cons.mpr ⟨⟨_, .head _, rfl⟩, fun wanted mem => ?_⟩
    -- There is a node, and below the first one all selectors are asked for.
    cases parts with
    | nil => exact absurd rfl some_node
    | cons part rest =>
      have first := List.forall_mem_append.mp found
      obtain ⟨q, asked, same⟩ := (inside part (.head _)).complete first.1 wanted mem
      exact ⟨q, .tail _ (List.mem_append_left _ asked), same⟩

end Covers

section

variable [LawfulMonad m] (scope : Scope m σ ν)

mutual

theorem Rule.traces_evaluate : ∀ (rule : Rule) (level : Nat) (s : σ),
    Traces (rule.evaluate scope.traced (level, s)) (rule.evaluate scope s)
      (Covers rule.selectors (level + rule.depth))
  | .text selector, level, s => by
    rw [Rule.evaluate, Rule.evaluate]
    exact .remember_bind fun _ => .pure (.first level selector)
  | .attr selector name, level, s => by
    rw [Rule.evaluate, Rule.evaluate]
    exact .remember_bind fun _ => .pure (.first level selector)
  | .list selector rules, level, s => by
    have below (node : ν) := RuleSet.traces_evaluate rules (level + 1) (scope.subscope s node)
    have deeper := rules.depth_pos
    have deepest : level + 1 + (rules.depth - 1) = level + rules.depth := by omega
    rw [deepest] at below
    rw [Rule.evaluate, Rule.evaluate]
    refine .remember_bind fun nodes => ?_
    refine (Traces.recordsOf below nodes).map.imp ?_
    rintro _ ⟨parts, count, rfl, inside⟩
    rw [← count]
    exact .list (Nat.lt_add_of_pos_right deeper) inside

/-- Evaluation asks for the selectors of a rule set, and derives scopes as often as rule sets nest
in it. -/
theorem RuleSet.traces_evaluate : ∀ (rules : RuleSet) (level : Nat) (s : σ),
    Traces (rules.evaluate scope.traced (level, s)) (rules.evaluate scope s)
      (Covers rules.selectors (level + (rules.depth - 1)))
  | ⟨fields⟩, level, s => by
    rw [RuleSet.evaluate, RuleSet.evaluate, RuleSet.depth, Nat.add_sub_cancel_left]
    exact (RuleSet.traces_evaluateFields fields level s).map

theorem RuleSet.traces_evaluateFields : ∀ (fields : List (String × Rule)) (level : Nat) (s : σ),
    Traces (RuleSet.evaluateFields scope.traced fields (level, s))
      (RuleSet.evaluateFields scope fields s)
      (Covers (RuleSet.selectorsOfFields fields) (level + RuleSet.depthOfFields fields))
  | [], _, _ => .pure .nil
  | (_, rule) :: rest, level, s => by
    have later := RuleSet.traces_evaluateFields rest level s
    rw [RuleSet.evaluateFields, RuleSet.evaluateFields]
    refine (Rule.traces_evaluate rule level s).bind (fun value => later.map) ?_
    intro _ _ first rest
    rw [RuleSet.depthOfFields, ← Nat.add_max_add_left]
    exact first.append rest

end

/-- Evaluation asks only for selectors of the rule set, and no scope is derived from another one
more often than the depth of the rule set says.  If each list rule that is reached finds a node, all
selectors are asked for.  They are the selectors of the rules at any depth, one for each, where a
rule comes before those inside it and these come before the rules of later fields. -/
theorem RuleSet.evaluate_asks (rules : RuleSet) (s : σ) :
    let run := (rules.evaluate scope.traced (0, s)).run []
    Prod.fst <$> run = rules.evaluate scope s ∧
    Always (fun (_, asked) =>
      (∀ q ∈ asked, q.selector ∈ rules.selectors ∧ q.reaches ≤ rules.depth - 1) ∧
        ((∀ q ∈ asked, q.found? ≠ some 0) → ∀ selector,
          (∃ q ∈ asked, q.selector = selector) ↔ selector ∈ rules.selectors)) run ∧
    rules.selectors = rules.entries.map (fun e => e.2.selector) ∧
    rules.entries.Pairwise (fun e f => e.1 < f.1) ∧
    ∀ way rule, (way, rule) ∈ rules.entries ↔ rules.at? way = some rule := by
  intro run
  have traces := RuleSet.traces_evaluate scope rules 0 s
  refine ⟨traces.answer [], (traces.added []).imp ?_, rules.map_selector_entries.symm,
    rules.pairwise_entries, fun _ _ => RuleSet.mem_entries_iff⟩
  rintro ⟨_, asked⟩ ⟨_, rfl, covers⟩
  rw [Nat.zero_add] at covers
  refine ⟨fun q mem => ⟨covers.listed q mem, covers.reaches q mem⟩, fun found selector => ?_⟩
  constructor
  · rintro ⟨q, mem, rfl⟩
    exact covers.listed q mem
  · exact covers.complete found selector

end

theorem RuleSet.evaluate_asks_tree :
    let page : ClassTree := .node "" "" [] [.node "b" "" [] [],
      .node "b" "" [] [.node "c" "" [("id", "x")] []]]
    let asked := (((RuleSet.sample.evaluate ClassTree.counted.traced (0, page)).run []).run 0).1.2
    (∀ q ∈ asked, q.found? ≠ some 0) ∧ (∀ q ∈ asked, q.reaches ≤ 1) ∧
      ∀ selector, (∃ q ∈ asked, q.selector = selector) ↔ selector ∈ ["a", "b", "c"] := by
  intro page asked
  have found : ∀ q ∈ asked, q.found? ≠ some 0 := by decide +kernel
  obtain ⟨bounds, all⟩ :=
    (RuleSet.evaluate_asks ClassTree.counted RuleSet.sample page).2.1.fst_run 0
  exact ⟨found, fun q mem => (bounds q mem).2, all found⟩

end PageExtract
