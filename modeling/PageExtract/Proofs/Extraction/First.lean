import PageExtract.Proofs.Extraction.Plain

/-!
# The first match

A scope may be asked for all matches of a selector or for the first one only.  A view answers the
second question by looking from root to root until something matches, and it answers the first by
listing what matches below each root, without what was listed before.  So the first match is found
in another way than the list, but it is the first of the list (`View.selectFirst_eq_firstOf`).
This is so in every view, with one root, with none and with several, which may stand in one another,
and for every text, also for one that is no selector.
-/

namespace PageExtract.Html.View

/-- To ask a view for the first match is to ask it for all and to take the first. -/
theorem selectFirst_eq_firstOf {m : Type → Type} [Monad m] [LawfulMonad m]
    (compile : String → m (Option (List Css.Selector))) (v : View) (selector : String) :
    (scope compile).selectFirst v selector = firstOf (scope compile).select v selector := by
  rw [firstOf, scope, bind_assoc]
  refine bind_congr fun known => ?_
  cases known with
  | none => rw [pure_bind]; rfl
  | some list =>
    rw [pure_bind]
    exact congrArg pure (findFirst?_eq_head? (Css.matches? list) v)

/-- In every view and for every text, asking for the first match does what asking for all matches
and taking the first does, and leaves the cache as that does.  Whatever sound caches hold, the
answer is the first of all matches, and there is none exactly if nothing matches. -/
theorem selectFirst_agrees (v : View) (selector : String) :
    (scope Css.Cache.getOrCompile).selectFirst v selector =
        firstOf (scope Css.Cache.getOrCompile).select v selector ∧
      ∀ cache cache' : Css.Cache, cache.Sound → cache'.Sound →
        let first := (((scope Css.Cache.getOrCompile).selectFirst v selector).run cache).1
        let all := (((scope Css.Cache.getOrCompile).select v selector).run cache').1
        first = all.head? ∧ (first = none ↔ all = []) := by
  refine ⟨selectFirst_eq_firstOf _ v selector, ?_⟩
  intro cache cache' sound sound' first all
  have alike : (scope Css.Cache.getOrCompile).AnswersAs Css.Cache.answerRelation (scope meaning)
      [selector] := scope_answersAs fun s _ => Css.Cache.answers_getOrCompile s
  have one : first = ((scope meaning).selectFirst v selector).run :=
    (alike.selectFirst v selector (.head _) cache sound).1
  have many : all = ((scope meaning).select v selector).run :=
    (alike.select v selector (.head _) cache' sound').1
  have same : first = all.head? := by rw [one, many, selectFirst_eq_head?]
  exact ⟨same, by rw [same, List.head?_eq_none_iff]⟩

/-- Two elements, of which the inner one is asked first, with one match that stands in both. -/
theorem selectFirst_agrees_nested :
    let word (s : String) : Node := .element ⟨.html, "b"⟩ [] [.text s]
    let document : Node := .document [.element ⟨.html, "div"⟩ []
      [.element ⟨.html, "p"⟩ [] [word "x"], word "y"]]
    let v : View := ⟨(ofMatches document ((Css.compile "p, div").getD [])).roots.reverse⟩
    let first := (((scope Css.Cache.getOrCompile).selectFirst v "b").run .empty).1
    let all := (((scope Css.Cache.getOrCompile).select v "b").run .empty).1
    Css.Cache.empty.Sound ∧ v.roots.map Place.path = [[0, 0], [0]] ∧
      all.map Place.path = [[0, 0, 0], [1, 0]] ∧ first.map Place.path = some [0, 0, 0] := by
  intro word document v first all
  have fresh := Css.Cache.sound_empty
  have listed : all.map Place.path = [[0, 0, 0], [1, 0]] := by decide +kernel
  obtain ⟨same, -⟩ := (selectFirst_agrees v "b").2 .empty .empty fresh fresh
  refine ⟨fresh, by decide +kernel, listed, ?_⟩
  rw [show first = all.head? from same, ← List.head?_map, listed]
  rfl

end PageExtract.Html.View
