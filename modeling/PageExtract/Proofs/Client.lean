import PageExtract.Client

/-!
# What a client makes of fetching

A client that fetches a document sends the requests of fetching and fails as fetching fails.
So does one that extracts a record if the document can be fetched, whatever its cache holds
(`Client.fails_iff_fetch_fails`).  One that always extracts takes the empty document instead.
-/

namespace PageExtract

/-- Whether an outcome has the requests of another, fails with its failure, and fails with no
other. -/
def Outcome.FailsLike {α β : Type} (outcome : Outcome β) (fetched : Outcome α) : Prop :=
  outcome.requests = fetched.requests ∧
    ∀ f, outcome.result = .error f ↔ fetched.result = .error f

namespace Client

variable {network : Network} {resolve : Resolver} {c : Client} {url : String}
  {detect : Charset.Detector}

section

variable {page : Fetched}

theorem fetchDocument_of_ok
    (found : (fetch network resolve c.http c.fetchOptions url).result = .ok page) :
    c.fetchDocument network resolve url detect =
      ⟨.ok (page.text detect), (fetch network resolve c.http c.fetchOptions url).requests⟩ := by
  rw [fetchDocument, found]
  rfl

theorem tryExtract_of_ok (rules : RuleSet) (detect : Charset.Detector)
    (found : (fetch network resolve c.http c.fetchOptions url).result = .ok page) :
    c.tryExtract network resolve url rules detect =
      (fun record => ⟨.ok record, (fetch network resolve c.http c.fetchOptions url).requests⟩) <$>
        extractCached (page.text detect) rules := by
  rw [tryExtract, fetchDocument_of_ok found]
  rfl

theorem extract_of_ok (rules : RuleSet) (detect : Charset.Detector)
    (found : (fetch network resolve c.http c.fetchOptions url).result = .ok page) :
    c.extract network resolve url rules detect =
      (fun record => (record, (fetch network resolve c.http c.fetchOptions url).requests)) <$>
        extractCached (page.text detect) rules := by
  rw [extract, fetchDocument_of_ok found]
  rfl

end

section

variable {f : Failure}

theorem fetchDocument_of_error
    (failed : (fetch network resolve c.http c.fetchOptions url).result = .error f) :
    c.fetchDocument network resolve url detect =
      ⟨.error f, (fetch network resolve c.http c.fetchOptions url).requests⟩ := by
  rw [fetchDocument, failed]
  rfl

theorem tryExtract_of_error (rules : RuleSet) (detect : Charset.Detector)
    (failed : (fetch network resolve c.http c.fetchOptions url).result = .error f) :
    c.tryExtract network resolve url rules detect =
      pure ⟨.error f, (fetch network resolve c.http c.fetchOptions url).requests⟩ := by
  rw [tryExtract, fetchDocument_of_error failed]

theorem extract_of_error (rules : RuleSet) (detect : Charset.Detector)
    (failed : (fetch network resolve c.http c.fetchOptions url).result = .error f) :
    c.extract network resolve url rules detect =
      (fun record => (record, (fetch network resolve c.http c.fetchOptions url).requests)) <$>
        extractCached "" rules := by
  rw [extract, fetchDocument_of_error failed]
  rfl

end

/-- A client fails exactly if fetching fails, and with the same failure. -/
theorem fails_iff_fetch_fails (network : Network) (resolve : Resolver) (c : Client) (url : String)
    (detect : Charset.Detector) :
    (c.fetchDocument network resolve url detect).FailsLike
        (fetch network resolve c.http c.fetchOptions url) ∧
      ∀ rules cache, ((c.tryExtract network resolve url rules detect).run cache).1.FailsLike
        (fetch network resolve c.http c.fetchOptions url) := by
  cases result : (fetch network resolve c.http c.fetchOptions url).result with
  | ok page =>
    rw [fetchDocument_of_ok result]
    refine ⟨⟨rfl, fun f => iff_of_false nofun (by rw [result]; nofun)⟩, fun rules cache => ?_⟩
    rw [tryExtract_of_ok rules detect result]
    exact ⟨rfl, fun f => iff_of_false nofun (by rw [result]; nofun)⟩
  | error failure =>
    have same (f : Failure) : (Except.error failure : Except Failure Fetched) = .error f ↔
        failure = f := ⟨Except.error.inj, congrArg _⟩
    rw [fetchDocument_of_error result]
    refine ⟨⟨rfl, fun f => ?_⟩, fun rules cache => ?_⟩
    · rw [result, same]
      exact ⟨Except.error.inj, congrArg _⟩
    · rw [tryExtract_of_error rules detect result]
      refine ⟨rfl, fun f => ?_⟩
      rw [result, same]
      exact ⟨Except.error.inj, congrArg _⟩

end Client

end PageExtract
