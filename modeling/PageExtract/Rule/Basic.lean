import PageExtract.Rule.Kind

/-!
# Rules and rule sets

A *rule* says what to read off a document: the text of the first node that a
selector matches, an attribute of it, or one record for every such node.  The
records of a list rule come from a rule set of their own, which is evaluated
inside each node.

A *rule set* gives a rule to each of its fields and keeps the fields in order.
`insert` binds a field.  A field that is bound already keeps its place and gets
the new rule, and `exchange` gives the old one back as well.  So a rule set that
is built with `insert` has no field twice.
`Distinct` says this of a set and of all sets inside it.
-/

namespace PageExtract

mutual

/-- What to read off a document. -/
inductive Rule where
  /-- The trimmed text of the first node that the selector matches. -/
  | text (selector : String)
  /-- An attribute of the first node that the selector matches. -/
  | attr (selector : String) (name : String)
  /-- A record for every node that the selector matches. -/
  | list (selector : String) (rules : RuleSet)
  deriving Repr

/-- Fields with their rules, in order. -/
structure RuleSet where
  /-- The fields. -/
  fields : List (String × Rule)
  deriving Repr

end

namespace Rule

/-- The selector of a rule. -/
def selector : Rule → String
  | text s => s
  | attr s _ => s
  | list s _ => s

/-- The kind of a rule. -/
def kind : Rule → RuleKind
  | text _ => .text
  | attr _ _ => .attr
  | list _ _ => .list

end Rule

/-! ## Equality -/

mutual

/-- Whether two rules are equal. -/
def Rule.decEq : (a b : Rule) → Decidable (a = b)
  | .text s, .text t =>
      if h : s = t then isTrue (by rw [h]) else isFalse (by simpa using h)
  | .attr s n, .attr t m =>
      if h : s = t ∧ n = m then isTrue (by rw [h.1, h.2]) else isFalse (by simpa using h)
  | .list s a, .list t b =>
      match decEq s t, a.decEq b with
      | isTrue h, isTrue h' => isTrue (by rw [h, h'])
      | isFalse h, _ => isFalse (by simp [h])
      | _, isFalse h => isFalse (by simp [h])
  | .text _, .attr .. => isFalse (by simp)
  | .text _, .list .. => isFalse (by simp)
  | .attr .., .text _ => isFalse (by simp)
  | .attr .., .list .. => isFalse (by simp)
  | .list .., .text _ => isFalse (by simp)
  | .list .., .attr .. => isFalse (by simp)

/-- Whether two rule sets have the same fields in the same order. -/
def RuleSet.decEq : (a b : RuleSet) → Decidable (a = b)
  | ⟨a⟩, ⟨b⟩ => match RuleSet.decEqFields a b with
    | isTrue h => isTrue (by rw [h])
    | isFalse h => isFalse (by simpa using h)

/-- Whether two lists of fields are equal. -/
def RuleSet.decEqFields : (a b : List (String × Rule)) → Decidable (a = b)
  | [], [] => isTrue rfl
  | [], _ :: _ => isFalse (by simp)
  | _ :: _, [] => isFalse (by simp)
  | (n, r) :: a, (m, s) :: b =>
      match decEq n m, r.decEq s, RuleSet.decEqFields a b with
      | isTrue h, isTrue h', isTrue h'' => isTrue (by rw [h, h', h''])
      | isFalse h, _, _ => isFalse (by simp [h])
      | _, isFalse h, _ => isFalse (by simp [h])
      | _, _, isFalse h => isFalse (by simp [h])

end

instance : Inhabited Rule := ⟨.text ""⟩
instance : Inhabited RuleSet := ⟨⟨[]⟩⟩

instance : DecidableEq Rule := Rule.decEq
instance : DecidableEq RuleSet := RuleSet.decEq

/-! ## Fields -/

namespace RuleSet

/-- The rule set without fields. -/
def empty : RuleSet := ⟨[]⟩

/-- The names of the fields, in order. -/
def keys (rules : RuleSet) : List String := rules.fields.map Prod.fst

/-- The number of fields. -/
def size (rules : RuleSet) : Nat := rules.fields.length

/-- Whether there are no fields. -/
def isEmpty (rules : RuleSet) : Bool := rules.fields.isEmpty

/-- The rule of a field in a list of fields. -/
def lookup (field : String) : List (String × Rule) → Option Rule
  | [] => none
  | (name, rule) :: rest => if name = field then some rule else lookup field rest

/-- The rule of a field. -/
def get? (rules : RuleSet) (field : String) : Option Rule := lookup field rules.fields

/-- A list of fields with one of them bound anew, or with a new one at its end. -/
def bind (field : String) (rule : Rule) : List (String × Rule) → List (String × Rule)
  | [] => [(field, rule)]
  | (name, old) :: rest =>
      if name = field then (name, rule) :: rest else (name, old) :: bind field rule rest

/-- Binds a field to a rule. -/
def insert (rules : RuleSet) (field : String) (rule : Rule) : RuleSet :=
  ⟨bind field rule rules.fields⟩

/-- A list of fields with one of them bound anew, or with a new one at its end, and the rule that
was taken out for it. -/
def exchangeFields (field : String) (rule : Rule) :
    List (String × Rule) → Option Rule × List (String × Rule)
  | [] => (none, [(field, rule)])
  | (name, old) :: rest =>
      if name = field then (some old, (name, rule) :: rest)
      else
        let (taken, rest) := exchangeFields field rule rest
        (taken, (name, old) :: rest)

/-- Binds a field to a rule, and gives the rule that it was bound to before. -/
def exchange (rules : RuleSet) (field : String) (rule : Rule) : Option Rule × RuleSet :=
  let (taken, fields) := exchangeFields field rule rules.fields
  (taken, ⟨fields⟩)

/-- Binds fields one after another. -/
def insertAll (rules : RuleSet) (fields : List (String × Rule)) : RuleSet :=
  fields.foldl (fun rules (field, rule) => rules.insert field rule) rules

/-- The rule set that binding fields one after another makes. -/
def ofList (fields : List (String × Rule)) : RuleSet := empty.insertAll fields

end RuleSet

/-! ## Nested rule sets -/

mutual

/-- How deep the rule set of a rule nests, zero for a rule without one. -/
def Rule.depth : Rule → Nat
  | .text _ => 0
  | .attr _ _ => 0
  | .list _ rules => rules.depth

/-- How deep a rule set nests, one for a set without list rules. -/
def RuleSet.depth : RuleSet → Nat
  | ⟨fields⟩ => 1 + RuleSet.depthOfFields fields

/-- How deep the rules of a list of fields nest. -/
def RuleSet.depthOfFields : List (String × Rule) → Nat
  | [] => 0
  | (_, rule) :: rest => max rule.depth (RuleSet.depthOfFields rest)

end

mutual

/-- The selectors of a rule and of the rules inside it. -/
def Rule.selectors : Rule → List String
  | .text s => [s]
  | .attr s _ => [s]
  | .list s rules => s :: rules.selectors

/-- The selectors of a rule set, each followed by those of the rules inside it. -/
def RuleSet.selectors : RuleSet → List String
  | ⟨fields⟩ => RuleSet.selectorsOfFields fields

/-- The selectors of a list of fields. -/
def RuleSet.selectorsOfFields : List (String × Rule) → List String
  | [] => []
  | (_, rule) :: rest => rule.selectors ++ RuleSet.selectorsOfFields rest

end

mutual

/-- Whether no rule set inside a rule has a field twice. -/
def Rule.Distinct : Rule → Prop
  | .text _ => True
  | .attr _ _ => True
  | .list _ rules => rules.Distinct

/-- Whether no field occurs twice, here and in every rule set inside. -/
def RuleSet.Distinct : RuleSet → Prop
  | ⟨fields⟩ => (fields.map Prod.fst).Nodup ∧ RuleSet.DistinctFields fields

/-- Whether the rules of a list of fields have no field twice inside. -/
def RuleSet.DistinctFields : List (String × Rule) → Prop
  | [] => True
  | (_, rule) :: rest => rule.Distinct ∧ RuleSet.DistinctFields rest

end

/-! ## What binding does -/

namespace RuleSet

theorem lookup_bind (field : String) (rule : Rule) (other : String)
    (fields : List (String × Rule)) :
    lookup other (bind field rule fields) =
      if other = field then some rule else lookup other fields := by
  induction fields with
  | nil => grind [bind, lookup]
  | cons entry rest ih => grind [bind, lookup]

theorem get?_insert (rules : RuleSet) (field : String) (rule : Rule) (other : String) :
    (rules.insert field rule).get? other = if other = field then some rule else rules.get? other :=
  lookup_bind field rule other rules.fields

theorem map_fst_bind (field : String) (rule : Rule) (fields : List (String × Rule)) :
    (bind field rule fields).map Prod.fst =
      if field ∈ fields.map Prod.fst then fields.map Prod.fst
      else fields.map Prod.fst ++ [field] := by
  induction fields with
  | nil => simp [bind]
  | cons entry rest ih =>
    obtain ⟨name, old⟩ := entry
    by_cases h : name = field
    · simp [bind, h]
    · simp only [bind, h, if_false, List.map_cons, ih, List.mem_cons]
      have : ¬ field = name := fun e => h e.symm
      by_cases hm : field ∈ rest.map Prod.fst <;> simp [hm, this]

/-- A field that is bound already keeps its place, a new one comes last. -/
theorem keys_insert (rules : RuleSet) (field : String) (rule : Rule) :
    (rules.insert field rule).keys =
      if field ∈ rules.keys then rules.keys else rules.keys ++ [field] :=
  map_fst_bind field rule rules.fields

example : ofList [("a", .text "p"), ("b", .text "q"), ("a", .text "r")] =
    ⟨[("a", .text "r"), ("b", .text "q")]⟩ := by decide

end RuleSet

end PageExtract
