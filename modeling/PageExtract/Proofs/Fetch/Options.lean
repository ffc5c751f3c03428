import PageExtract.Proofs.Fetch.Failures

/-!
# What the options change

Fetching with the guard and fetching without it go together, request by request, until the guard
refuses a host (`Course.Restricts`).  This is so of each check that the guard makes
(`restricts_guarded`), and courses that are put together of such parts keep it
(`Restricts.bind`).  So it is so of all of fetching (`restricts_fetchCourse`): the course with
the guard sends a first part of the requests of the other, and unless it ends with a refusal both
come to the same.

Which statuses are wanted is looked at after the last reply only.  So it changes no request and
no document, but whether a reply with another status holds one (`fetch_options_restrict`).
-/

namespace PageExtract

/-! ## Refusals -/

/-- Whether a fault is that of a host that the guard does not let pass. -/
inductive FetchFault.IsRefusal : FetchFault → Prop where
  /-- The host is private. -/
  | privateHost (hop : Hop) : IsRefusal (.privateHost hop)
  /-- The name of the host cannot be resolved. -/
  | lookupFailed (host reason : String) : IsRefusal (.lookupFailed host reason)

theorem guardHost_isRefusal {resolve : Resolver} {hop : Hop} {host : Host} {fault : FetchFault}
    (refused : guardHost resolve hop host = .error fault) : fault.IsRefusal := by
  rw [guardHost_eq] at refused
  split at refused
  · split at refused
    · cases refused
      exact .privateHost hop
    · cases refused
  · split at refused
    · cases refused
      exact .lookupFailed _ _
    · split at refused
      · cases refused
        exact .privateHost hop
      · cases refused

/-! ## Courses that add requests -/

namespace Course

variable {α β : Type}

/-- Whether a course only adds requests to those before it. -/
def Adds (course : Course α) : Prop := ∀ before, before <+: (course.after before).2

theorem adds_pure (a : α) : (pure a : Course α).Adds := fun _ => List.prefix_rfl

theorem adds_throw (fault : FetchFault) : (throw fault : Course α).Adds :=
  fun _ => List.prefix_rfl

theorem adds_lift (check : Except FetchFault α) : (liftM check : Course α).Adds :=
  fun _ => List.prefix_rfl

theorem Adds.bind {course : Course α} {next : α → Course β} (first : course.Adds)
    (rest : ∀ a, (next a).Adds) : (course >>= next).Adds := by
  intro before
  have part := first before
  rw [after_bind]
  generalize course.after before = round at part
  obtain ⟨result, sent⟩ := round
  cases result with
  | error fault => exact part
  | ok a => exact part.trans (rest a sent)

/-! ## Courses that are restricted -/

/-- Whether a course goes as another does, unless it is refused: it has then sent a first part of
what the other sends. -/
def Restricts (strict free : Course α) : Prop :=
  ∀ before, strict.after before = free.after before ∨
    ∃ fault sent, fault.IsRefusal ∧ strict.after before = (.error fault, sent) ∧
      sent <+: (free.after before).2

theorem Restricts.refl (course : Course α) : course.Restricts course := fun _ => .inl rfl

theorem Restricts.bind {strict free : Course α} {strictNext freeNext : α → Course β}
    (first : strict.Restricts free) (adds : ∀ a, (freeNext a).Adds)
    (rest : ∀ a, (strictNext a).Restricts (freeNext a)) :
    (strict >>= strictNext).Restricts (free >>= freeNext) := by
  intro before
  rw [after_bind, after_bind]
  rcases first before with same | ⟨fault, sent, refusal, refused, part⟩
  · rw [same]
    generalize free.after before = round
    obtain ⟨result, sent⟩ := round
    cases result with
    | error fault => exact .inl rfl
    | ok a => exact rest a sent
  · rw [refused]
    refine .inr ⟨fault, sent, refusal, rfl, ?_⟩
    generalize free.after before = round at part
    obtain ⟨result, all⟩ := round
    cases result with
    | error fault => exact part
    | ok a => exact part.trans (adds a all)

end Course

/-! ## With the guard and without it -/

section

variable (network : Network) (resolve : Resolver) (client : HttpClient) (headers : Headers)
  (anyStatus : Bool) (text : String)

/-- The guard lets a URL pass as it was found, or refuses it. -/
theorem restricts_guarded (hop : Hop) (found : Except FetchFault Url) :
    (liftM (guarded resolve ⟨headers, false, anyStatus⟩ hop found) : Course Url).Restricts
      (liftM (guarded resolve ⟨headers, true, anyStatus⟩ hop found)) := by
  intro before
  cases found with
  | error fault => exact .inl rfl
  | ok url =>
    cases passes : guardHost resolve hop url.host with
    | ok _ =>
      have passed : guarded resolve ⟨headers, false, anyStatus⟩ hop (.ok url) = .ok url :=
        guarded_eq_ok_iff.mpr ⟨rfl, fun _ => passes⟩
      rw [passed]
      exact .inl rfl
    | error fault =>
      have refused : guarded resolve ⟨headers, false, anyStatus⟩ hop (.ok url) = .error fault :=
        guarded_eq_error_iff.mpr (.inr ⟨url, rfl, rfl, passes⟩)
      rw [refused]
      exact .inr ⟨fault, before, guardHost_isRefusal passes, rfl, List.prefix_rfl⟩

theorem adds_send (url : Url) : (send network client headers url).Adds := by
  intro before
  rw [after_send]
  cases Request.make? client headers url with
  | none => exact List.prefix_rfl
  | some request => exact List.prefix_append before [request]

theorem adds_follow (options : FetchOptions) (more : Nat) (url : Url) :
    (follow network resolve client options more url).Adds := by
  induction more generalizing url with
  | zero => exact Course.adds_throw _
  | succ more ih =>
    rw [follow]
    refine (adds_send network client options.headers url).bind fun answer => ?_
    obtain ⟨request, reply⟩ := answer
    dsimp only
    cases reply.location? with
    | none => exact Course.adds_pure _
    | some location => exact (Course.adds_lift _).bind ih

/-- A course with the guard goes as one without it until a host is refused. -/
theorem restricts_follow (more : Nat) (url : Url) :
    (follow network resolve client ⟨headers, false, anyStatus⟩ more url).Restricts
      (follow network resolve client ⟨headers, true, anyStatus⟩ more url) := by
  induction more generalizing url with
  | zero => exact .refl _
  | succ more ih =>
    rw [follow, follow]
    refine Course.Restricts.bind (.refl _) (fun answer => ?_) fun answer => ?_
    · obtain ⟨request, reply⟩ := answer
      dsimp only
      cases reply.location? with
      | none => exact Course.adds_pure _
      | some location =>
        exact (Course.adds_lift _).bind (adds_follow network resolve client _ more)
    · obtain ⟨request, reply⟩ := answer
      dsimp only
      cases reply.location? with
      | none => exact .refl _
      | some location =>
        exact (restricts_guarded resolve headers anyStatus .redirect _).bind
          (adds_follow network resolve client _ more) ih

theorem restricts_fetchCourse :
    (fetchCourse network resolve client ⟨headers, false, anyStatus⟩ text).Restricts
      (fetchCourse network resolve client ⟨headers, true, anyStatus⟩ text) := by
  have adds (answer : Request × Reply) :
      (liftM (documentOf ⟨headers, true, anyStatus⟩ text answer.1 answer.2) :
        Course Fetched).Adds := Course.adds_lift _
  refine (restricts_guarded resolve headers anyStatus .start (webUrl text)).bind (fun url => ?_)
    fun url => ?_
  · exact (adds_follow network resolve client _ (maxRedirects + 1) url).bind adds
  · exact (restricts_follow network resolve client headers anyStatus (maxRedirects + 1) url).bind
      adds fun answer => .refl _

/-! ## Wanted statuses -/

/-- Which requests are sent does not depend on the statuses that are wanted. -/
theorem follow_anyStatus (allowPrivate anyStatus other : Bool) (more : Nat) (url : Url) :
    follow network resolve client ⟨headers, allowPrivate, anyStatus⟩ more url =
      follow network resolve client ⟨headers, allowPrivate, other⟩ more url := by
  induction more generalizing url with
  | zero => rfl
  | succ more ih =>
    rw [follow, follow]
    refine bind_congr fun answer => ?_
    obtain ⟨request, reply⟩ := answer
    dsimp only
    cases reply.location? with
    | none => rfl
    | some location => exact bind_congr ih

/-- If any status will do, a reply holds what it held, or a document whose status was not
wanted. -/
theorem documentOf_anyStatus (allowPrivate : Bool) (request : Request) (reply : Reply) :
    documentOf ⟨headers, allowPrivate, true⟩ text request reply =
        documentOf ⟨headers, allowPrivate, false⟩ text request reply ∨
      ∃ page, page.status ≠ 200 ∧
        documentOf ⟨headers, allowPrivate, true⟩ text request reply = .ok page ∧
        documentOf ⟨headers, allowPrivate, false⟩ text request reply =
          .error (.badStatus page.status) := by
  cases read : readBody maxContentLength reply with
  | error fault =>
    rw [documentOf, documentOf, read]
    exact .inl rfl
  | ok body =>
    rw [documentOf_of_body read, documentOf_of_body read, if_pos (.inr rfl)]
    by_cases status : reply.status = 200
    · rw [if_pos (.inl status)]
      exact .inl rfl
    · have unwanted : ¬ (reply.status = 200 ∨ false = true) := by simp [status]
      rw [if_neg unwanted]
      exact .inr ⟨_, status, rfl, rfl⟩

/-- If any status will do, fetching comes to the same, or to a document after the same requests
whose status was not wanted. -/
theorem fetch_anyStatus (allowPrivate : Bool) :
    fetch network resolve client ⟨headers, allowPrivate, true⟩ text =
        fetch network resolve client ⟨headers, allowPrivate, false⟩ text ∨
      ∃ page sent, page.status ≠ 200 ∧
        fetch network resolve client ⟨headers, allowPrivate, true⟩ text = ⟨.ok page, sent⟩ ∧
        fetch network resolve client ⟨headers, allowPrivate, false⟩ text =
          ⟨.error ((FetchFault.badStatus page.status).toFailure text), sent⟩ := by
  cases start : startUrl resolve ⟨headers, allowPrivate, false⟩ text with
  | error fault =>
    have same : startUrl resolve ⟨headers, allowPrivate, true⟩ text = .error fault := start
    rw [fetch_of_no_start start, fetch_of_no_start same]
    exact .inl rfl
  | ok url =>
    have same : startUrl resolve ⟨headers, allowPrivate, true⟩ text = .ok url := start
    rw [fetch_of_start start, fetch_of_start same,
      follow_anyStatus network resolve client headers allowPrivate true false]
    generalize (follow network resolve client ⟨headers, allowPrivate, false⟩ (maxRedirects + 1)
      url).after [] = course
    obtain ⟨result, sent⟩ := course
    cases result with
    | error fault => exact .inl rfl
    | ok answer =>
      obtain ⟨request, reply⟩ := answer
      dsimp only
      rcases documentOf_anyStatus headers text allowPrivate request reply
        with equal | ⟨page, status, held, unwanted⟩
      · rw [equal]
        exact .inl rfl
      · rw [held, unwanted]
        exact .inr ⟨page, sent, status, rfl, rfl⟩

end

/-- Fetching with the guard sends a first part of the requests of fetching without it, and comes
to the same unless the guard refuses a host.  If only status 200 is wanted, the requests are the
same, each document is the same, and what is lost are documents with other statuses. -/
theorem fetch_options_restrict (network : Network) (resolve : Resolver) (client : HttpClient)
    (headers : Headers) (text : String) :
    let run (allowPrivate anyStatus : Bool) :=
      fetch network resolve client ⟨headers, allowPrivate, anyStatus⟩ text
    (∀ anyStatus, (run false anyStatus).requests <+: (run true anyStatus).requests ∧
      (run false anyStatus = run true anyStatus ∨
        ∃ fault : FetchFault, fault.IsRefusal ∧
          (run false anyStatus).result = .error (fault.toFailure text)) ∧
      ¬ (run true anyStatus).FailsAs .blocked) ∧
    ∀ allowPrivate, (run allowPrivate false).requests = (run allowPrivate true).requests ∧
      (∀ page, (run allowPrivate false).result = .ok page →
        (run allowPrivate true).result = .ok page) ∧
      ∀ failure page, (run allowPrivate false).result = .error failure →
        (run allowPrivate true).result = .ok page →
          page.status ≠ 200 ∧ failure = (FetchFault.badStatus page.status).toFailure text := by
  intro run
  refine ⟨fun anyStatus => ?_, fun allowPrivate => ?_⟩
  · have unguarded : ¬ (run true anyStatus).FailsAs .blocked := by
      intro blocked
      obtain ⟨guard, -⟩ := failsAs_blocked_iff.mp blocked
      exact nomatch guard
    rcases restricts_fetchCourse network resolve client headers anyStatus text []
      with same | ⟨fault, sent, refusal, refused, part⟩
    · have equal : run false anyStatus = run true anyStatus := by
        simp only [run, fetch_eq_after, same]
      exact ⟨equal ▸ List.prefix_rfl, .inl equal, unguarded⟩
    · have stopped : run false anyStatus = ⟨.error (fault.toFailure text), sent⟩ := by
        simp only [run, fetch_eq_after, refused]
        rfl
      exact ⟨stopped ▸ part, .inr ⟨fault, refusal, stopped ▸ rfl⟩, unguarded⟩
  · rcases fetch_anyStatus network resolve client headers text allowPrivate
      with same | ⟨page, sent, status, held, unwanted⟩
    · have equal : run allowPrivate true = run allowPrivate false := same
      rw [equal]
      refine ⟨rfl, fun _ => id, fun failure page failed found => ?_⟩
      rw [failed] at found
      exact nomatch found
    · have held : run allowPrivate true = ⟨.ok page, sent⟩ := held
      have unwanted : run allowPrivate false = _ := unwanted
      rw [held, unwanted]
      refine ⟨rfl, nofun, fun failure found failed ok => ?_⟩
      cases failed
      cases ok
      exact ⟨status, rfl⟩

end PageExtract
