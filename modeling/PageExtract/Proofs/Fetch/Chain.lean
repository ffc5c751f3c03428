import PageExtract.Proofs.Checks
import PageExtract.Proofs.Fetch.Course

/-!
# Chains of redirects

A *redirect* goes from one URL to another: the request for the first is answered by
a reply that names the second, and the second may be asked.  A `Chain` is a number of
redirects, each from where the one before it leads.

A course goes along a chain and loses one of the requests that it may send with each
redirect (`Chain.after_follow`).  So what a course comes to is what it comes to from
the end of the chain.  It arrives exactly if some chain, not too long, ends at a URL
whose reply leads nowhere else (`follow_eq_ok_iff`).
-/

namespace PageExtract

variable (network : Network) (resolve : Resolver) (client : HttpClient) (options : FetchOptions)

/-- A redirect from a URL to another, after some requests. -/
structure Redirects (before : List Request) (url : Url) (request : Request) (next : Url) :
    Prop where
  /-- The request is sent for the URL. -/
  made : Request.make? client options.headers url = some request
  /-- The reply names the next URL, as seen from this one. -/
  leads : ∃ reply location, network.deliver before request = .answered reply ∧
    reply.location? = some location ∧ url.join location = .ok (.web next)
  /-- The next URL passes the guard. -/
  passes : options.allowPrivate = false → guardHost resolve .redirect next.host = .ok ()

/-- A reply that the request for a URL brings, after some requests, and that leads nowhere
else: it is no redirect or does not say where to. -/
structure Arrives (before : List Request) (url : Url) (request : Request) (reply : Reply) :
    Prop where
  /-- The request is sent for the URL. -/
  made : Request.make? client options.headers url = some request
  /-- The reply comes. -/
  answered : network.deliver before request = .answered reply
  /-- It names no other place. -/
  final : ¬ (300 ≤ reply.status ∧ reply.status < 400) ∨ header? reply.headers "location" = none

/-- That many redirects, one after another, from a URL to another: `before` are the requests
before them, and with theirs it is `sent`. -/
inductive Chain : Nat → Url → List Request → Url → List Request → Prop where
  /-- There are no redirects. -/
  | here {url : Url} {before : List Request} : Chain 0 url before url before
  /-- A redirect is followed by others. -/
  | hop {k : Nat} {url next last : Url} {before sent : List Request} {request : Request}
      (first : Redirects network resolve client options before url request next)
      (rest : Chain k next (before ++ [request]) last sent) : Chain (k + 1) url before last sent

section

variable {network resolve client options}

/-! ## Hops -/

theorem redirectTarget_eq_ok_iff {current next : Url} {location : String} :
    redirectTarget current location = .ok next ↔ current.join location = .ok (.web next) := by
  refine ⟨redirectTarget_ok, ?_⟩
  intro joined
  rw [redirectTarget, joined]

theorem nextHop_eq_ok_iff {current next : Url} {location : String} :
    nextHop resolve options current location = .ok next ↔
      current.join location = .ok (.web next) ∧
        (options.allowPrivate = false → guardHost resolve .redirect next.host = .ok ()) := by
  rw [nextHop, guarded_eq_ok_iff, redirectTarget_eq_ok_iff]

theorem webUrl_eq_ok_iff {text : String} {url : Url} :
    webUrl text = .ok url ↔ text ≠ "" ∧ Url.parse text = .ok (.web url) := by
  by_cases empty : text = ""
  · subst empty
    simp [webUrl]
  · have nonempty : text.isEmpty = false := by simpa using empty
    refine ⟨fun h => ⟨empty, webUrl_ok h⟩, ?_⟩
    rintro ⟨_, parsed⟩
    rw [webUrl, nonempty, parsed]
    rfl

theorem startUrl_eq_ok_iff {text : String} {url : Url} :
    startUrl resolve options text = .ok url ↔
      (text ≠ "" ∧ Url.parse text = .ok (.web url)) ∧
        (options.allowPrivate = false → guardHost resolve .start url.host = .ok ()) := by
  rw [startUrl, guarded_eq_ok_iff, webUrl_eq_ok_iff]

theorem Reply.isRedirect_iff {reply : Reply} :
    reply.isRedirect = true ↔ 300 ≤ reply.status ∧ reply.status < 400 := by
  rw [Reply.isRedirect, Bool.and_eq_true, decide_eq_true_iff, decide_eq_true_iff]

theorem Reply.location?_eq_some_iff {reply : Reply} {location : String} :
    reply.location? = some location ↔ (300 ≤ reply.status ∧ reply.status < 400) ∧
      header? reply.headers "location" = some location := by
  rw [← Reply.isRedirect_iff, Reply.location?]
  cases reply.isRedirect <;> simp

theorem Reply.location?_eq_none_iff {reply : Reply} :
    reply.location? = none ↔ ¬ (300 ≤ reply.status ∧ reply.status < 400) ∨
      header? reply.headers "location" = none := by
  rw [← Reply.isRedirect_iff, Reply.location?]
  cases reply.isRedirect <;> simp

theorem Redirects.after_follow {before : List Request} {url next : Url} {request : Request}
    (h : Redirects network resolve client options before url request next) (more : Nat) :
    (follow network resolve client options (more + 1) url).after before =
      (follow network resolve client options more next).after (before ++ [request]) := by
  obtain ⟨reply, location, answered, place, joined⟩ := h.leads
  have hop := nextHop_eq_ok_iff.mpr ⟨joined, h.passes⟩
  rw [after_follow_succ, after_send, h.made]
  simp only [answered, Delivery.toReply, place, hop]

theorem Arrives.after_follow {before : List Request} {url : Url} {request : Request}
    {reply : Reply} (h : Arrives network client options before url request reply) (more : Nat) :
    (follow network resolve client options (more + 1) url).after before =
      (.ok (request, reply), before ++ [request]) := by
  have place := Reply.location?_eq_none_iff.mpr h.final
  rw [after_follow_succ, after_send, h.made]
  simp only [h.answered, Delivery.toReply, place]

/-! ## Chains -/

namespace Chain

variable {k : Nat} {url last : Url} {before sent : List Request}

/-- A course goes along a chain. -/
theorem after_follow (h : Chain network resolve client options k url before last sent)
    (more : Nat) :
    (follow network resolve client options (more + k) url).after before =
      (follow network resolve client options more last).after sent := by
  induction h with
  | here => rfl
  | hop first rest ih => rw [← Nat.add_assoc, first.after_follow, ih]

/-- Each redirect takes one request. -/
theorem length_sent (h : Chain network resolve client options k url before last sent) :
    sent.length = before.length + k := by
  induction h with
  | here => rfl
  | hop first rest ih =>
    rw [ih, List.length_append, List.length_singleton]
    omega

/-- A redirect goes on from the end of a chain. -/
theorem snoc {next : Url} {request : Request}
    (h : Chain network resolve client options k url before last sent)
    (step : Redirects network resolve client options sent last request next) :
    Chain network resolve client options (k + 1) url before next (sent ++ [request]) := by
  induction h with
  | here => exact .hop step .here
  | hop first rest ih => exact .hop first (ih step)

theorem start {m n : Nat} (h : Chain network resolve client options (m + n) url before last sent) :
    ∃ mid between, Chain network resolve client options m url before mid between := by
  induction m generalizing url before with
  | zero => exact ⟨url, before, .here⟩
  | succ m ih =>
    rw [Nat.succ_add] at h
    cases h with
    | hop first rest =>
      obtain ⟨mid, between, short⟩ := ih rest
      exact ⟨mid, between, .hop first short⟩

end Chain

/-- A course that arrives has gone along a chain. -/
theorem Follows.chain {more : Nat} {url : Url} {before sent : List Request} {request : Request}
    {reply : Reply}
    (h : Follows network resolve client options more url before (.ok (request, reply)) sent) :
    ∃ k last between, k < more ∧ Chain network resolve client options k url before last between ∧
      Arrives network client options between last request reply := by
  generalize outcome : (Except.ok (request, reply) : Except FetchFault _) = result at h
  induction h with
  | exhausted => exact nomatch outcome
  | unmade => exact nomatch outcome
  | stopped => exact nomatch outcome
  | unanswered => exact nomatch outcome
  | arrived make delivery place =>
    cases outcome
    exact ⟨0, _, _, Nat.succ_pos _, .here, make, delivery, Reply.location?_eq_none_iff.mp place⟩
  | redirected make delivery place hop _ ih =>
    obtain ⟨k, last, between, few, chain, arrives⟩ := ih outcome
    obtain ⟨joined, passes⟩ := nextHop_eq_ok_iff.mp hop
    exact ⟨k + 1, last, between, Nat.succ_lt_succ few,
      .hop ⟨make, ⟨_, _, delivery, place, joined⟩, passes⟩ chain, arrives⟩

theorem Chain.after_follow_of_arrives {k more : Nat} {url last : Url} {before sent : List Request}
    (chain : Chain network resolve client options k url before last sent) (few : k < more)
    {request : Request} {reply : Reply}
    (arrives : Arrives network client options sent last request reply) :
    (follow network resolve client options more url).after before =
      (.ok (request, reply), sent ++ [request]) := by
  have steps : more = more - k - 1 + 1 + k := by omega
  rw [steps, chain.after_follow, arrives.after_follow]

/-- A course that may send no more requests than a chain has redirects is given up. -/
theorem Chain.after_follow_of_long {k more : Nat} {url last : Url} {before sent : List Request}
    (chain : Chain network resolve client options k url before last sent) (long : more ≤ k) :
    ∃ all, (follow network resolve client options more url).after before =
      (.error .tooManyRedirects, all) ∧ all.length = before.length + more := by
  -- The course goes along the start of the chain, and no request is left at its end.
  obtain ⟨rest, rfl⟩ := Nat.exists_eq_add_of_le long
  obtain ⟨mid, between, start⟩ := chain.start
  refine ⟨between, ?_, start.length_sent⟩
  have gone := start.after_follow 0
  rwa [Nat.zero_add] at gone

/-- A course arrives exactly if some chain that is not too long leads to where the reply is. -/
theorem follow_eq_ok_iff {more : Nat} {url : Url} {before : List Request} {request : Request}
    {reply : Reply} :
    ((follow network resolve client options more url).after before).1 = .ok (request, reply) ↔
      ∃ k last between, k < more ∧
        Chain network resolve client options k url before last between ∧
        Arrives network client options between last request reply := by
  constructor
  · intro h
    have course := follows_follow network resolve client options more url before
    rw [h] at course
    exact course.chain
  · rintro ⟨k, last, between, few, chain, arrives⟩
    rw [chain.after_follow_of_arrives few arrives]

/-! ## Fetching -/

theorem fetch_eq_after (text : String) :
    fetch network resolve client options text =
      ⟨((fetchCourse network resolve client options text).after []).1.mapError (·.toFailure text),
        ((fetchCourse network resolve client options text).after []).2⟩ := rfl

/-- Without a URL to start from nothing is sent. -/
theorem fetch_of_no_start {text : String} {fault : FetchFault}
    (start : startUrl resolve options text = .error fault) :
    fetch network resolve client options text = ⟨.error (fault.toFailure text), []⟩ := by
  rw [fetch_eq_after, after_fetchCourse, start]
  rfl

/-- From a URL to start from, fetching goes its course and takes what the last reply holds. -/
theorem fetch_of_start {text : String} {url : Url}
    (start : startUrl resolve options text = .ok url) :
    fetch network resolve client options text =
      match (follow network resolve client options (maxRedirects + 1) url).after [] with
      | (.error fault, sent) => ⟨.error (fault.toFailure text), sent⟩
      | (.ok (request, reply), sent) =>
        ⟨(documentOf options text request reply).mapError (·.toFailure text), sent⟩ := by
  rw [fetch_eq_after, after_fetchCourse, start]
  dsimp only
  cases (follow network resolve client options (maxRedirects + 1) url).after [] with
  | mk result sent =>
    cases result with
    | error fault => rfl
    | ok answer => rfl

theorem requests_of_start {text : String} {url : Url}
    (start : startUrl resolve options text = .ok url) :
    (fetch network resolve client options text).requests =
      ((follow network resolve client options (maxRedirects + 1) url).after []).2 := by
  rw [fetch_of_start start]
  cases (follow network resolve client options (maxRedirects + 1) url).after [] with
  | mk result sent =>
    cases result with
    | error fault => rfl
    | ok answer => rfl

/-- A chain that is not too long is followed to its end. -/
theorem fetch_of_chain {text : String} {url last : Url} {k : Nat} {sent : List Request}
    (start : startUrl resolve options text = .ok url)
    (chain : Chain network resolve client options k url [] last sent) (few : k ≤ maxRedirects)
    {request : Request} {reply : Reply}
    (arrives : Arrives network client options sent last request reply) :
    fetch network resolve client options text =
      ⟨(documentOf options text request reply).mapError (·.toFailure text), sent ++ [request]⟩ := by
  rw [fetch_of_start start, chain.after_follow_of_arrives (Nat.lt_succ_of_le few) arrives]

/-- A reply whose body is read holds a document if its status is 200 or does not matter. -/
theorem documentOf_of_body {text : String} {request : Request} {reply : Reply}
    {body : List UInt8} (read : readBody maxContentLength reply = .ok body) :
    documentOf options text request reply =
      if reply.status = 200 ∨ options.anyStatus = true then
        .ok ⟨reply.status, text, request.url.text, reply.contentType?, body⟩
      else .error (.badStatus reply.status) := by
  rw [documentOf, read]
  by_cases status : reply.status = 200
  · simp [bind, Except.bind, pure, Except.pure, status]
  · cases options.anyStatus with
    | true => simp [bind, Except.bind, pure, Except.pure]
    | false => simp [bind, Except.bind, throw, throwThe, MonadExceptOf.throw, status]

theorem documentOf_eq_ok_iff {text : String} {request : Request} {reply : Reply} {f : Fetched} :
    documentOf options text request reply = .ok f ↔
      ∃ body, readBody maxContentLength reply = .ok body ∧
        (reply.status = 200 ∨ options.anyStatus = true) ∧
        f = ⟨reply.status, text, request.url.text, reply.contentType?, body⟩ := by
  cases read : readBody maxContentLength reply with
  | error fault =>
    rw [documentOf, read]
    exact ⟨fun h => (nomatch h), fun ⟨_, h, _⟩ => (nomatch h)⟩
  | ok body =>
    rw [documentOf_of_body read]
    constructor
    · intro h
      split at h
      next status => exact ⟨body, rfl, status, (Except.ok.inj h).symm⟩
      next => exact nomatch h
    · rintro ⟨_, same, status, rfl⟩
      rw [if_pos status, Except.ok.inj same]

/-- A document is fetched exactly if there is a URL to start from, a chain leads from it to a
reply, and the reply holds a document. -/
theorem fetch_result_eq_ok_iff {text : String} {f : Fetched} :
    (fetch network resolve client options text).result = .ok f ↔
      ∃ url k last sent request reply, startUrl resolve options text = .ok url ∧
        Chain network resolve client options k url [] last sent ∧ k ≤ maxRedirects ∧
        Arrives network client options sent last request reply ∧
        documentOf options text request reply = .ok f := by
  constructor
  · intro h
    cases start : startUrl resolve options text with
    | error fault =>
      rw [fetch_of_no_start start] at h
      exact nomatch h
    | ok url =>
      rw [fetch_of_start start] at h
      cases course : (follow network resolve client options (maxRedirects + 1) url).after [] with
      | mk result sent =>
        rw [course] at h
        cases result with
        | error fault => exact nomatch h
        | ok answer =>
          obtain ⟨k, last, between, few, chain, arrives⟩ :=
            follow_eq_ok_iff.mp (congrArg Prod.fst course)
          exact ⟨url, k, last, between, answer.1, answer.2, rfl, chain, Nat.le_of_lt_succ few,
            arrives, mapError_eq_ok_iff.mp h⟩
  · rintro ⟨url, k, last, sent, request, reply, start, chain, few, arrives, document⟩
    rw [fetch_of_chain start chain few arrives, document]
    rfl

end

end PageExtract
