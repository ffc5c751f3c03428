import PageExtract.Css.Match
import PageExtract.Scope.Evaluate
import PageExtract.Html.Document

/-!
# Views of a document

A *view* is a part of a document: all that is below some places, its roots.
Mostly there is one root.  It is the document itself or, for an item of a list,
an element.

The matches of a selector in a view are elements below the roots.  With one root
they come in document order.  With several, those below the first root come
first, and an element below two roots comes once.  What is around the roots is
not in the view, but a selector still sees it.
-/

namespace PageExtract.Html

/-- A part of a document. -/
structure View where
  /-- The places whose insides are in the view. -/
  roots : List Place

namespace View

/-- The view of a whole document. -/
def ofDocument (document : Node) : View := ⟨[.ofDocument document]⟩

/-- The view of what is below a place. -/
def ofPlace (p : Place) : View := ⟨[p]⟩

/-- The places of a list without those whose path was there before. -/
def distinct (seen : List (List Nat)) : List Place → List Place
  | [] => []
  | p :: rest =>
      if p.path ∈ seen then distinct seen rest else p :: distinct (p.path :: seen) rest

/-- The places in a view that have some property. -/
def find (has : Place → Bool) (v : View) : List Place :=
  match v.roots with
  | [root] => root.below.filter has
  | roots => distinct [] (roots.flatMap fun root => root.below.filter has)

/-- The first place in a view that has some property. -/
def findFirst? (has : Place → Bool) (v : View) : Option Place :=
  v.roots.findSome? fun root => root.firstBelow? has

/-- The elements in a view that one of some selectors matches. -/
def select (v : View) (list : List Css.Selector) : List Place := v.find (Css.matches? list)

/-- The first element in a view that one of some selectors matches. -/
def selectFirst? (v : View) (list : List Css.Selector) : Option Place :=
  v.findFirst? (Css.matches? list)

/-- The view of all matches of some selectors in a document. -/
def ofMatches (document : Node) (list : List Css.Selector) : View :=
  ⟨(ofDocument document).select list⟩

/-- Views as scopes.  `compile` tells what a selector means. -/
def scope {m : Type → Type} [Monad m] (compile : String → m (Option (List Css.Selector))) :
    Scope m View Place where
  select v selector := do
    match ← compile selector with
    | some list => return v.select list
    | none => return []
  selectFirst v selector := do
    match ← compile selector with
    | some list => return v.selectFirst? list
    | none => return none
  text _ p := Text.trim p.node.content
  attr _ p name := p.node.attr? name
  subscope _ p := ofPlace p

/-! ## The first of all matches -/

theorem head?_distinct_nil (places : List Place) : (distinct [] places).head? = places.head? := by
  cases places with
  | nil => rfl
  | cons p rest => simp [distinct]

theorem head?_flatMap_filter (has : Place → Bool) (roots : List Place) :
    (roots.flatMap fun root => root.below.filter has).head? =
      roots.findSome? fun root => root.firstBelow? has := by
  induction roots with
  | nil => rfl
  | cons root rest ih =>
    rw [List.flatMap_cons, List.head?_append, ih, List.findSome?_cons,
      Place.firstBelow?_eq, List.head?_filter]
    cases root.below.find? has <;> rfl

/-- Looking for the first place finds the first of all. -/
theorem findFirst?_eq_head? (has : Place → Bool) (v : View) :
    v.findFirst? has = (v.find has).head? := by
  unfold findFirst? find
  split
  · next root h => simp [h, Place.firstBelow?_eq, List.head?_filter]
  · rw [head?_distinct_nil, head?_flatMap_filter]

end View

end PageExtract.Html
