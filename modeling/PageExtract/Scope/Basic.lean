/-!
# Scopes

A *scope* is a part of a document that can be asked for nodes.  What a document
is and what a selector means is left open: `Scope` lists the questions, and
extraction asks nothing else.  The answers come in a monad, so that a scope can
count its questions or remember what it has worked out.

`select` gives every node below the root of the scope that a selector matches,
in document order.  `selectFirst` gives the first of them.  A selector that is
no selector matches nothing.
-/

namespace PageExtract

/-- The questions that a scope of type `σ`, with nodes of type `ν`, answers. -/
structure Scope (m : Type → Type) (σ ν : Type) where
  /-- The nodes that a selector matches, in document order. -/
  select : σ → String → m (List ν)
  /-- The first node that a selector matches. -/
  selectFirst : σ → String → m (Option ν)
  /-- The trimmed text of a node. -/
  text : σ → ν → String
  /-- The value of an attribute of a node. -/
  attr : σ → ν → String → Option String
  /-- The scope below a node. -/
  subscope : σ → ν → σ

/-- The first node that a selector matches, found by asking for all of them. -/
def firstOf {m : Type → Type} [Monad m] {σ ν : Type} (select : σ → String → m (List ν)) (s : σ)
    (selector : String) : m (Option ν) :=
  return (← select s selector).head?

end PageExtract
