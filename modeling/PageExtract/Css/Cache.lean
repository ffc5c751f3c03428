import PageExtract.Css.Parser

/-!
# Selectors that are known already

A *cache* holds for some texts what they compile to, which may be nothing.  A
text is compiled when it is asked for the first time.

Asking takes three steps.  The text is looked up.  If it is not there, it is
compiled.  Then it is looked up again and added if it is still not there, since
somebody else may have added it in between.  What the cache holds never changes.
-/

namespace PageExtract.Css

/-- Texts with what they compile to. -/
structure Cache where
  /-- The texts, newest first. -/
  entries : List (String × Option (List Selector)) := []
  deriving Repr

namespace Cache

/-- The cache that holds nothing. -/
def empty : Cache := ⟨[]⟩

/-- What the cache holds for a text. -/
def get? (c : Cache) (text : String) : Option (Option (List Selector)) := c.entries.lookup text

/-- Adds what a text compiles to, unless the cache holds the text already, and
gives what it holds then. -/
def insertIfAbsent (c : Cache) (text : String) (compiled : Option (List Selector)) :
    Option (List Selector) × Cache :=
  match c.get? text with
  | some held => (held, c)
  | none => (compiled, ⟨(text, compiled) :: c.entries⟩)

/-- What a text compiles to, from the cache or else into it. -/
def getOrCompile (text : String) : StateM Cache (Option (List Selector)) := do
  match (← get).get? text with
  | some held => return held
  | none => modifyGet fun c => c.insertIfAbsent text (compile text)

/-- Whether a text is a selector, asked through the cache. -/
def compiles (text : String) : StateM Cache Bool := do
  return (← getOrCompile text).isSome

/-! ## What the cache holds -/

/-- A cache is *sound* if all it holds is what the texts compile to. -/
def Sound (c : Cache) : Prop := ∀ text held, c.get? text = some held → held = compile text

theorem sound_empty : Sound empty := by
  intro text held h
  simp [get?, empty] at h

theorem get?_insertIfAbsent (c : Cache) (text other : String)
    (compiled : Option (List Selector)) :
    (c.insertIfAbsent text compiled).2.get? other =
      if other = text then some ((c.get? text).getD compiled) else c.get? other := by
  unfold insertIfAbsent
  cases h : c.get? text with
  | some held => by_cases e : other = text <;> simp [e, h]
  | none =>
    by_cases e : other = text
    · subst e; simp [get?]
    · have : (other == text) = false := by simpa using e
      simp [get?, List.lookup_cons, this, e]

end Cache

end PageExtract.Css
