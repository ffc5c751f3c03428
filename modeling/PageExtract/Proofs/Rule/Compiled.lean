import PageExtract.Proofs.Css.Cache
import PageExtract.Proofs.Rule.Definition

/-!
# Validation compiles every selector

Validation asks of each selector whether it is one, in the trimmed form in which the
rule set has it.  It asks through a cache, and the cache holds the answer from then on.
So a cache through which a rule set was accepted holds all of its selectors, at every
depth, and each of them as a selector (`RuleSet.holds_of_ofJsonCached`).

This is independent of what the cache held before.
-/

namespace PageExtract

namespace Css.Cache

/-! ## Texts that are held as selectors -/

/-- Whether a cache holds some texts, and each of them as a selector. -/
def Holds (c : Cache) (texts : List String) : Prop :=
  ∀ text ∈ texts, ∃ list, c.get? text = some (some list)

theorem Holds.append {c : Cache} {texts others : List String} (h : c.Holds texts)
    (h' : c.Holds others) : c.Holds (texts ++ others) :=
  fun text asked => (List.mem_append.mp asked).elim (h text) (h' text)

theorem holds_singleton {c : Cache} {text : String} {list : List Selector}
    (there : c.get? text = some (some list)) : c.Holds [text] := by
  intro other asked
  rw [List.mem_singleton.mp asked]
  exact ⟨list, there⟩

theorem get?_run_getOrCompile_self (text : String) (c : Cache) :
    ((getOrCompile text).run c).2.get? text = some ((getOrCompile text).run c).1 := by
  rw [run_getOrCompile]
  cases looked : c.get? text with
  | some held => exact looked
  | none => exact get?_insertIfAbsent_self c text _

theorem Holds.after_getOrCompile {c : Cache} {texts : List String} (h : c.Holds texts)
    (text : String) :
    ((getOrCompile text).run c).2.Holds texts := by
  intro other asked
  obtain ⟨list, there⟩ := h other asked
  refine ⟨list, ?_⟩
  rw [run_getOrCompile]
  cases c.get? text with
  | some held => exact there
  | none => exact get?_insertIfAbsent_of_some there text _

/-! ## What a computation leads to -/

section

variable {ε α β : Type}

/-- Whether a computation, if it gives a value, leads from caches with a property to a value and
a cache with another one. -/
def Leads (P : Cache → Prop) (x : ExceptT ε (StateM Cache) α) (Q : α → Cache → Prop) : Prop :=
  ∀ c, P c → ∀ a, (x.run.run c).1 = .ok a → Q a (x.run.run c).2

variable {P : Cache → Prop} {Q : α → Cache → Prop} {R : β → Cache → Prop}

theorem leads_pure {a : α} (h : ∀ c, P c → Q a c) :
    Leads P (pure a : ExceptT ε (StateM Cache) α) Q := by
  intro c before b given
  have same : a = b := Except.ok.inj given
  exact same ▸ h c before

theorem leads_throw (e : ε) : Leads P (throw e : ExceptT ε (StateM Cache) α) Q :=
  fun _ _ _ given => nomatch given

theorem leads_bind {x : ExceptT ε (StateM Cache) α} {f : α → ExceptT ε (StateM Cache) β}
    (hx : Leads P x Q) (hf : ∀ a, Leads (Q a) (f a) R) : Leads P (x >>= f) R := by
  intro c before b
  have first := hx c before
  rw [ExceptT.run_bind, StateT.run_bind]
  cases ran : x.run.run c with
  | mk result after =>
    rw [ran] at first
    cases result with
    | error e => exact fun given => nomatch given
    | ok a => exact hf a after (first a rfl) b

theorem leads_lift {x : StateM Cache α} (h : ∀ c, P c → Q (x.run c).1 (x.run c).2) :
    Leads P (liftM x : ExceptT ε (StateM Cache) α) Q := by
  intro c before a given
  have same : (x.run c).1 = a := Except.ok.inj given
  exact same ▸ h c before

end

end Css.Cache

/-! ## Validation -/

open Css.Cache

namespace RuleDef

variable {P : Css.Cache → Prop}

theorem leads_checkKind (path : String) (given : Option String) :
    Leads P (checkKind path given) fun _ => P := by
  cases given with
  | none => exact leads_throw _
  | some word =>
    rw [checkKind]
    cases RuleKind.parse? word with
    | none => exact leads_throw _
    | some kind => exact leads_pure fun _ h => h

theorem leads_checkAttributeName (path : String) (given : Option String) :
    Leads P (checkAttributeName path given) fun _ => P := by
  rw [checkAttributeName]
  cases Text.trimmed? given with
  | none => exact leads_throw _
  | some name => exact leads_pure fun _ h => h

/-- A selector that passes its check is held from then on. -/
theorem leads_checkSelector (texts : List String) (path selector : String) :
    Leads (Holds · texts) (checkSelector compiles path selector)
      fun trimmed => (Holds · (texts ++ [trimmed])) := by
  rw [checkSelector]
  split
  next => exact leads_throw _
  next =>
    refine leads_bind (Q := fun known c => c.Holds texts ∧
      (known = true → c.Holds [Text.trim selector])) (leads_lift ?_) ?_
    · intro c before
      refine ⟨before.after_getOrCompile _, ?_⟩
      intro known
      obtain ⟨list, given⟩ := Option.isSome_iff_exists.mp known
      have there := get?_run_getOrCompile_self (Text.trim selector) c
      exact holds_singleton (there.trans (congrArg some given))
    · intro known
      cases known with
      | false => exact leads_throw _
      | true => exact leads_pure fun _ h => h.1.append (h.2 rfl)

end RuleDef

/-- A rule that passes leaves its selectors held, as long as the rule set inside it does. -/
theorem RuleDef.leads_validate_mk {given : Option String} {selector : String}
    {attributeName : Option String} {childRules : Option RuleSetDef} {path : String}
    (inner : ∀ children, childRules = some children → ∀ texts,
      Leads (Holds · texts) (children.validate compiles path)
        fun rules => (Holds · (texts ++ rules.selectors))) (texts : List String) :
    Leads (Holds · texts)
      ((RuleDef.mk given selector attributeName childRules).validate compiles path)
      fun rule => (Holds · (texts ++ rule.selectors)) := by
  rw [RuleDef.validate]
  refine leads_bind (leads_checkKind path given) ?_
  intro kind
  refine leads_bind (leads_checkSelector texts path selector) ?_
  intro trimmed
  cases kind with
  | text => exact leads_pure fun _ h => h
  | attr =>
    refine leads_bind (leads_checkAttributeName path attributeName) ?_
    intro name
    exact leads_pure fun _ h => h
  | list =>
    cases childRules with
    | none => exact leads_throw _
    | some children =>
      refine leads_bind (inner children rfl (texts ++ [trimmed])) ?_
      intro rules
      refine leads_pure ?_
      intro c h
      rwa [Rule.selectors, ← List.singleton_append, ← List.append_assoc]

theorem RuleSetDef.leads_validateFields {fields : List (String × RuleDef)}
    (inner : ∀ field ∈ fields, ∀ path texts, Leads (Holds · texts)
      (field.2.validate compiles path) fun rule => (Holds · (texts ++ rule.selectors)))
    (parent : String) (seen texts : List String) :
    Leads (Holds · texts) (RuleSetDef.validateFields compiles parent seen fields)
      fun rules => (Holds · (texts ++ RuleSet.selectorsOfFields rules)) := by
  induction fields generalizing seen texts with
  | nil =>
    refine leads_pure ?_
    intro c h
    rwa [RuleSet.selectorsOfFields, List.append_nil]
  | cons field rest ih =>
    obtain ⟨name, rule⟩ := field
    obtain ⟨here, later⟩ := List.forall_mem_cons.mp inner
    rw [RuleSetDef.validateFields]
    split
    next => exact leads_throw _
    next =>
      refine leads_bind (here _ texts) ?_
      intro first
      refine leads_bind (ih later (name :: seen) (texts ++ first.selectors)) ?_
      intro others
      refine leads_pure ?_
      intro c h
      rwa [RuleSet.selectorsOfFields, ← List.append_assoc]

theorem RuleSetDef.leads_validate : ∀ (d : RuleSetDef) (parent : String) (texts : List String),
    Leads (Holds · texts) (d.validate compiles parent)
      fun rules => (Holds · (texts ++ rules.selectors)) := by
  refine RuleSetDef.of_hereditary (P := fun d => ∀ path texts,
    Leads (Holds · texts) (d.validate compiles path)
      fun rule => (Holds · (texts ++ rule.selectors))) ⟨?_, ?_⟩
  · intro kind selector attributeName childRules inner path
    exact RuleDef.leads_validate_mk fun children h => inner children h path
  · intro fields inner parent texts
    rw [RuleSetDef.validate]
    refine leads_bind (RuleSetDef.leads_validateFields inner parent [] texts) ?_
    intro rules
    exact leads_pure fun _ h => h

/-- A cache through which a rule set was read holds its selectors, at every depth. -/
theorem RuleSet.holds_of_ofJsonCached {text : String} {cache : Css.Cache} {rules : RuleSet}
    (accepted : ((RuleSet.ofJsonCached text).run cache).1 = .ok rules) :
    ((RuleSet.ofJsonCached text).run cache).2.Holds rules.selectors := by
  rw [RuleSet.ofJsonCached, RuleSet.parse] at accepted ⊢
  cases written : RuleSetDef.parse text with
  | error fault =>
    rw [written] at accepted
    exact nomatch accepted
  | ok d =>
    rw [written] at accepted
    exact RuleSetDef.leads_validate d "" [] cache (fun _ asked => nomatch asked) rules accepted

end PageExtract
