import PageExtract.Fetch.Basic

/-!
# Courses of requests, step by step

A course starts after some requests and adds its own.  What one round of it does
is said once, by the rules of `Follows`: a request is made and delivered, and then
the course ends or goes on from the next URL.  Every course goes by these rules
(`follows_follow`).

So a property of URLs that the first URL has, and that each hop keeps, holds of
the URL of every request (`Follows.requests`, `fetch_requests`).
-/

namespace PageExtract

/-! ## What comes of a course -/

namespace Course

variable {α β : Type}

/-- What a course comes to, and all requests that are sent then, after some before it. -/
def after (course : Course α) (before : List Request) : Except FetchFault α × List Request :=
  course.run.run before

@[simp] theorem after_pure (a : α) (before : List Request) :
    (pure a : Course α).after before = (.ok a, before) := rfl

@[simp] theorem after_throw (fault : FetchFault) (before : List Request) :
    (throw fault : Course α).after before = (.error fault, before) := rfl

@[simp] theorem after_get (before : List Request) :
    (get : Course (List Request)).after before = (.ok before, before) := rfl

@[simp] theorem after_set (sent before : List Request) :
    (set sent : Course PUnit).after before = (.ok ⟨⟩, sent) := rfl

/-- A check sends nothing. -/
@[simp] theorem after_lift (check : Except FetchFault α) (before : List Request) :
    (liftM check : Course α).after before = (check, before) := rfl

/-- A course goes on from what was sent before, unless it has ended in a fault. -/
theorem after_bind (course : Course α) (next : α → Course β) (before : List Request) :
    (course >>= next).after before =
      match course.after before with
      | (.ok a, sent) => (next a).after sent
      | (.error fault, sent) => (.error fault, sent) := by
  simp only [after, ExceptT.run_bind, StateT.run_bind]
  cases StateT.run (ExceptT.run course) before with
  | mk result sent =>
    cases result with
    | ok a => rfl
    | error fault => rfl

end Course

/-! ## One round -/

variable (network : Network) (resolve : Resolver) (client : HttpClient) (options : FetchOptions)

/-- What a delivery gives to the course that sent the request. -/
def Delivery.toReply (request : Request) : Delivery → Except FetchFault (Request × Reply)
  | .answered reply => .ok (request, reply)
  | .failed => .error (.unanswered request.url.text)
  | .timedOut => .error (.unansweredInTime request.url.text)

/-- Sending fails at once or adds one request. -/
theorem after_send (headers : Headers) (url : Url) (before : List Request) :
    (send network client headers url).after before =
      match Request.make? client headers url with
      | none => (.error .badHeader, before)
      | some request => ((network.deliver before request).toReply request, before ++ [request]) := by
  cases hmake : Request.make? client headers url with
  | none => simp only [send, hmake, Course.after_throw]
  | some request =>
    simp only [send, hmake, Course.after_bind, Course.after_get, Course.after_set]
    cases network.deliver before request with
    | answered reply => rfl
    | failed => rfl
    | timedOut => rfl

/-- One round of a course: a request is sent, and its reply ends the course or names
the next URL. -/
theorem after_follow_succ (more : Nat) (url : Url) (before : List Request) :
    (follow network resolve client options (more + 1) url).after before =
      match (send network client options.headers url).after before with
      | (.error fault, sent) => (.error fault, sent)
      | (.ok (request, reply), sent) =>
        match reply.location? with
        | none => (.ok (request, reply), sent)
        | some location =>
          match nextHop resolve options url location with
          | .error fault => (.error fault, sent)
          | .ok next => (follow network resolve client options more next).after sent := by
  rw [follow, Course.after_bind]
  cases (send network client options.headers url).after before with
  | mk result sent =>
    cases result with
    | error fault => rfl
    | ok answer =>
      obtain ⟨request, reply⟩ := answer
      cases hloc : reply.location? with
      | none => simp only [hloc, Course.after_pure]
      | some location =>
        simp only [hloc, Course.after_bind, Course.after_lift]
        cases nextHop resolve options url location with
        | error fault => rfl
        | ok next => rfl

/-! ## Where requests are sent -/

section Hops

variable {resolve options}

/-- A URL passes the guard if it was found and its host may be asked. -/
theorem guarded_eq_ok_iff {hop : Hop} {found : Except FetchFault Url} {url : Url} :
    guarded resolve options hop found = .ok url ↔
      found = .ok url ∧ (options.allowPrivate = false → guardHost resolve hop url.host = .ok ()) := by
  cases found with
  | error fault => simp [guarded, bind, Except.bind]
  | ok start =>
    simp only [guarded, bind, Except.bind, pure, Except.pure]
    cases hpriv : options.allowPrivate with
    | true => simp
    | false =>
      simp only [Bool.not_false, if_true, forall_const, Except.ok.injEq]
      cases hguard : guardHost resolve hop start.host with
      | error fault =>
        simp only [reduceCtorEq, false_iff, not_and]
        rintro rfl hpass
        rw [hguard] at hpass
        cases hpass
      | ok passed =>
        simp only [Except.ok.injEq]
        refine ⟨fun h => ⟨h, h ▸ hguard⟩, And.left⟩

/-- A text leads to a URL of the web if it is one. -/
theorem webUrl_ok {text : String} {url : Url} (h : webUrl text = .ok url) :
    Url.parse text = .ok (.web url) := by
  unfold webUrl at h
  split at h
  · cases h
  · split at h
    · cases h
    · cases h
    · next hparse =>
      cases h
      exact hparse

/-- A redirect leads to a URL of the web if its place, seen from where it is given, is one. -/
theorem redirectTarget_ok {current next : Url} {location : String}
    (h : redirectTarget current location = .ok next) : current.join location = .ok (.web next) := by
  unfold redirectTarget at h
  split at h
  · cases h
  · cases h
  · next hjoin =>
    cases h
    exact hjoin

/-- A course starts from the URL that was asked for, if it passes the guard. -/
theorem startUrl_ok {text : String} {url : Url} (h : startUrl resolve options text = .ok url) :
    Url.parse text = .ok (.web url) ∧
      (options.allowPrivate = false → guardHost resolve .start url.host = .ok ()) := by
  obtain ⟨hweb, hguard⟩ := guarded_eq_ok_iff.mp h
  exact ⟨webUrl_ok hweb, hguard⟩

/-- A hop leads to the URL that the reply names, if it passes the guard. -/
theorem nextHop_ok {current next : Url} {location : String}
    (h : nextHop resolve options current location = .ok next) :
    current.join location = .ok (.web next) ∧
      (options.allowPrivate = false → guardHost resolve .redirect next.host = .ok ()) := by
  obtain ⟨htarget, hguard⟩ := guarded_eq_ok_iff.mp h
  exact ⟨redirectTarget_ok htarget, hguard⟩

/-- A request goes to the URL that it is made for, without user name and password. -/
theorem host_of_make? {client : HttpClient} {headers : Headers} {url : Url} {request : Request}
    (h : Request.make? client headers url = some request) : request.url.host = url.host := by
  unfold Request.make? at h
  split at h
  · cases h
    simp only
    split <;> rfl
  · cases h

end Hops

/-! ## All rounds -/

/-- How a course goes that may send so many requests, from a URL and after some requests:
what it comes to and what is sent then. -/
inductive Follows : Nat → Url → List Request → Except FetchFault (Request × Reply) →
    List Request → Prop
  /-- No more requests may be sent. -/
  | exhausted {url : Url} {before : List Request} :
      Follows 0 url before (.error .tooManyRedirects) before
  /-- The request cannot be made. -/
  | unmade {more : Nat} {url : Url} {before : List Request}
      (make : Request.make? client options.headers url = none) :
      Follows (more + 1) url before (.error .badHeader) before
  /-- The request is sent and not answered. -/
  | unanswered {more : Nat} {url : Url} {before : List Request} {request : Request}
      {fault : FetchFault}
      (make : Request.make? client options.headers url = some request)
      (delivery : (network.deliver before request).toReply request = .error fault) :
      Follows (more + 1) url before (.error fault) (before ++ [request])
  /-- The reply is no redirect, or does not say where to. -/
  | arrived {more : Nat} {url : Url} {before : List Request} {request : Request} {reply : Reply}
      (make : Request.make? client options.headers url = some request)
      (delivery : network.deliver before request = .answered reply)
      (place : reply.location? = none) :
      Follows (more + 1) url before (.ok (request, reply)) (before ++ [request])
  /-- The reply leads to where no request is sent. -/
  | stopped {more : Nat} {url : Url} {before : List Request} {request : Request} {reply : Reply}
      {location : String} {fault : FetchFault}
      (make : Request.make? client options.headers url = some request)
      (delivery : network.deliver before request = .answered reply)
      (place : reply.location? = some location)
      (hop : nextHop resolve options url location = .error fault) :
      Follows (more + 1) url before (.error fault) (before ++ [request])
  /-- The reply leads to another URL, and the course goes on from there. -/
  | redirected {more : Nat} {url next : Url} {before sent : List Request} {request : Request}
      {reply : Reply} {location : String} {result : Except FetchFault (Request × Reply)}
      (make : Request.make? client options.headers url = some request)
      (delivery : network.deliver before request = .answered reply)
      (place : reply.location? = some location)
      (hop : nextHop resolve options url location = .ok next)
      (rest : Follows more next (before ++ [request]) result sent) :
      Follows (more + 1) url before result sent

/-- Every course goes in one of these ways. -/
theorem follows_follow (more : Nat) (url : Url) (before : List Request) :
    Follows network resolve client options more url before
      ((follow network resolve client options more url).after before).1
      ((follow network resolve client options more url).after before).2 := by
  induction more generalizing url before with
  | zero => exact .exhausted
  | succ more ih =>
    rw [after_follow_succ, after_send]
    cases hmake : Request.make? client options.headers url with
    | none => exact .unmade hmake
    | some request =>
      simp only
      cases hdelivery : network.deliver before request with
      | failed => exact .unanswered hmake (congrArg _ hdelivery)
      | timedOut => exact .unanswered hmake (congrArg _ hdelivery)
      | answered reply =>
        simp only [Delivery.toReply]
        cases hloc : reply.location? with
        | none => exact .arrived hmake hdelivery hloc
        | some location =>
          simp only
          cases hnext : nextHop resolve options url location with
          | error fault => exact .stopped hmake hdelivery hloc hnext
          | ok next => exact .redirected hmake hdelivery hloc hnext (ih next _)

/-! ## Fetching -/

/-- Fetching finds a URL to start from, goes its course, and takes the document from
the last reply. -/
theorem after_fetchCourse (text : String) (before : List Request) :
    (fetchCourse network resolve client options text).after before =
      match startUrl resolve options text with
      | .error fault => (.error fault, before)
      | .ok url =>
        match (follow network resolve client options (maxRedirects + 1) url).after before with
        | (.error fault, sent) => (.error fault, sent)
        | (.ok (request, reply), sent) => (documentOf options text request reply, sent) := by
  rw [fetchCourse, Course.after_bind, Course.after_lift]
  cases startUrl resolve options text with
  | error fault => rfl
  | ok url =>
    simp only [Course.after_bind]
    cases (follow network resolve client options (maxRedirects + 1) url).after before with
    | mk result sent =>
      cases result with
      | error fault => rfl
      | ok answer => rfl

section Requests

variable {network resolve client options}

/-- What the URL has that a course starts from, and what every hop keeps, the URL of each
request has. -/
theorem Follows.requests {P : Url → Prop}
    (hop : ∀ u location next, P u → nextHop resolve options u location = .ok next → P next)
    {more : Nat} {url : Url} {before sent : List Request}
    {result : Except FetchFault (Request × Reply)}
    (h : Follows network resolve client options more url before result sent) (hurl : P url) :
    ∀ r ∈ sent, r ∈ before ∨ ∃ u, P u ∧ Request.make? client options.headers u = some r := by
  have one : ∀ {before : List Request} {url : Url} {request : Request}, P url →
      Request.make? client options.headers url = some request → ∀ r ∈ before ++ [request],
        r ∈ before ∨ ∃ u, P u ∧ Request.make? client options.headers u = some r := by
    intro before url request hurl make r hr
    rcases List.mem_append.mp hr with hr | hr
    · exact Or.inl hr
    · exact Or.inr ⟨url, hurl, List.mem_singleton.mp hr ▸ make⟩
  induction h with
  | exhausted => exact fun r hr => Or.inl hr
  | unmade => exact fun r hr => Or.inl hr
  | unanswered make => exact one hurl make
  | arrived make => exact one hurl make
  | stopped make => exact one hurl make
  | redirected make _ _ hnext _ ih =>
    intro r hr
    rcases ih (hop _ _ _ hurl hnext) r hr with hr | hr
    · exact one hurl make r hr
    · exact Or.inr hr

/-- What every URL has that a course may start from, and what every hop keeps, the URL of
each request has. -/
theorem fetch_requests {P : Url → Prop} {text : String}
    (start : ∀ u, startUrl resolve options text = .ok u → P u)
    (hop : ∀ u location next, P u → nextHop resolve options u location = .ok next → P next) :
    ∀ r ∈ (fetch network resolve client options text).requests,
      ∃ u, P u ∧ Request.make? client options.headers u = some r := by
  have hsent : (fetch network resolve client options text).requests =
      ((fetchCourse network resolve client options text).after []).2 := rfl
  rw [hsent, after_fetchCourse]
  cases hstart : startUrl resolve options text with
  | error fault => simp
  | ok url =>
    have hfollow := follows_follow network resolve client options (maxRedirects + 1) url []
    have hall := hfollow.requests hop (start url hstart)
    simp only [List.not_mem_nil, false_or] at hall ⊢
    cases hcourse : (follow network resolve client options (maxRedirects + 1) url).after [] with
    | mk result sent =>
      rw [hcourse] at hall
      cases result with
      | error fault => exact hall
      | ok answer => exact hall

end Requests

end PageExtract
