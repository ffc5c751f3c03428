import PageExtract.Proofs.Client
import PageExtract.Proofs.Fetch.Body
import PageExtract.Proofs.Fetch.Chain
import PageExtract.Proofs.Fetch.Guard

/-!
# Why fetching fails

`Fails` lists the ways in which fetching may fail, with one rule for each fault.  A rule says
where the course stands then and what happens there.  Some faults come before the first
request, some at the end of a chain of redirects, and some from the last reply.

Fetching fails exactly in these ways (`fetch_eq_error_iff`).  The rules do not overlap, since
fetching has one outcome.  So the kind of a failure tells what has happened: the text is no URL
of the web, a private host was met, the transport gave up waiting, or something else
(`fetch_failures`).  Whatever hop it happens at, the failure is about the text that was asked
for.
-/

namespace PageExtract

variable (network : Network) (resolve : Resolver) (client : HttpClient) (options : FetchOptions)
  (text : String)

/-! ## Where a course stands -/

/-- Whether a course comes to a URL that it may send a request for, after some requests: at most
ten redirects lead there from the URL that was asked for. -/
def Stands (last : Url) (sent : List Request) : Prop :=
  ∃ url k, startUrl resolve options text = .ok url ∧
    Chain network resolve client options k url [] last sent ∧ k ≤ maxRedirects

/-- Whether a course sends a request for a URL, after some others. -/
def Asks (last : Url) (sent : List Request) (request : Request) : Prop :=
  Stands network resolve client options text last sent ∧
    Request.make? client options.headers last = some request

/-- Whether a course sends its last request, after some others, and gets a reply that leads
nowhere else. -/
def Concludes (last : Url) (sent : List Request) (request : Request) (reply : Reply) : Prop :=
  Stands network resolve client options text last sent ∧
    Arrives network client options sent last request reply

/-- Whether a reply to a request leads to a place, which is read from where the request was
sent for. -/
def Points (sent : List Request) (request : Request) (location : String) : Prop :=
  ∃ reply, network.deliver sent request = .answered reply ∧ reply.location? = some location

/-- The URLs that a course meets after some requests, which the guard is there for: the one
that was asked for and those that redirects lead to. -/
inductive Meets : Hop → Url → List Request → Prop where
  /-- The URL that was asked for. -/
  | start {url : Url} (nonempty : text ≠ "") (web : Url.parse text = .ok (.web url)) :
      Meets .start url []
  /-- The URL that a redirect leads to. -/
  | redirect {last next : Url} {sent : List Request} {request : Request} {location : String}
      (asks : Asks network resolve client options text last sent request)
      (points : Points network sent request location)
      (joined : last.join location = .ok (.web next)) : Meets .redirect next (sent ++ [request])

/-! ## The ways to fail -/

/-- Whether no more than ten times 2^20 bytes of a body are said to come, and do come. -/
def Reply.Fits (reply : Reply) : Prop :=
  reply.chunks.flatten.length ≤ maxContentLength ∧
    ∀ length ∈ reply.declared, length ≤ maxContentLength

/-- How fetching fails: with which fault, and after which requests. -/
inductive Fails : FetchFault → List Request → Prop where
  /-- Nothing was asked for. -/
  | noUrl (empty : text = "") : Fails .noUrl []
  /-- What was asked for is no URL. -/
  | badUrl {fault : UrlFault} (nonempty : text ≠ "") (parsed : Url.parse text = .error fault) :
      Fails (.badUrl fault) []
  /-- What was asked for is a URL with another scheme. -/
  | notWeb {scheme : String} (nonempty : text ≠ "")
      (parsed : Url.parse text = .ok (.other scheme)) : Fails .notWeb []
  /-- A host is private, and private hosts may not be asked. -/
  | privateHost {hop : Hop} {url : Url} {sent : List Request}
      (guard : options.allowPrivate = false)
      (meets : Meets network resolve client options text hop url sent)
      (hidden : url.host.IsPrivate resolve) : Fails (.privateHost hop) sent
  /-- A name cannot be resolved, and private hosts may not be asked. -/
  | lookupFailed {hop : Hop} {url : Url} {sent : List Request} {domain : List Char}
      {reason : String} (guard : options.allowPrivate = false)
      (meets : Meets network resolve client options text hop url sent)
      (name : url.host = .name domain) (unknown : resolve domain = .error reason) :
      Fails (.lookupFailed (String.ofList domain) reason) sent
  /-- A request cannot be made. -/
  | badHeader {last : Url} {sent : List Request}
      (stands : Stands network resolve client options text last sent)
      (unmade : Request.make? client options.headers last = none) : Fails .badHeader sent
  /-- A request is not answered. -/
  | unanswered {last : Url} {sent : List Request} {request : Request}
      (asks : Asks network resolve client options text last sent request)
      (lost : network.deliver sent request = .failed) :
      Fails (.unanswered request.url.text) (sent ++ [request])
  /-- A request is not answered in time. -/
  | unansweredInTime {last : Url} {sent : List Request} {request : Request}
      (asks : Asks network resolve client options text last sent request)
      (late : network.deliver sent request = .timedOut) :
      Fails (.unansweredInTime request.url.text) (sent ++ [request])
  /-- A redirect leads to something that is no URL. -/
  | badLocation {last : Url} {sent : List Request} {request : Request} {location : String}
      {fault : UrlFault} (asks : Asks network resolve client options text last sent request)
      (points : Points network sent request location)
      (joined : last.join location = .error fault) :
      Fails (.badLocation location fault) (sent ++ [request])
  /-- A redirect leads out of the web. -/
  | foreignRedirect {last : Url} {sent : List Request} {request : Request} {location : String}
      {scheme : String} (asks : Asks network resolve client options text last sent request)
      (points : Points network sent request location)
      (joined : last.join location = .ok (.other scheme)) :
      Fails (.foreignRedirect scheme) (sent ++ [request])
  /-- There are eleven redirects, one after another. -/
  | tooManyRedirects {url last : Url} {sent : List Request}
      (start : startUrl resolve options text = .ok url)
      (chain : Chain network resolve client options (maxRedirects + 1) url [] last sent) :
      Fails .tooManyRedirects sent
  /-- The body of the last reply is too large. -/
  | tooLarge {last : Url} {sent : List Request} {request : Request} {reply : Reply}
      (concludes : Concludes network resolve client options text last sent request reply)
      (large : ¬ reply.Fits) : Fails .tooLarge (sent ++ [request])
  /-- The body of the last reply breaks off. -/
  | bodyBroken {last : Url} {sent : List Request} {request : Request} {reply : Reply}
      (concludes : Concludes network resolve client options text last sent request reply)
      (fits : reply.Fits) (broken : reply.ending = .broken) :
      Fails .bodyBroken (sent ++ [request])
  /-- The body of the last reply does not come in time. -/
  | bodyStalled {last : Url} {sent : List Request} {request : Request} {reply : Reply}
      (concludes : Concludes network resolve client options text last sent request reply)
      (fits : reply.Fits) (stalled : reply.ending = .stalled) :
      Fails .bodyStalled (sent ++ [request])
  /-- The last reply has a status that is not wanted. -/
  | badStatus {last : Url} {sent : List Request} {request : Request} {reply : Reply}
      (concludes : Concludes network resolve client options text last sent request reply)
      (fits : reply.Fits) (complete : reply.ending = .complete) (status : reply.status ≠ 200)
      (only : options.anyStatus = false) : Fails (.badStatus reply.status) (sent ++ [request])

section

variable {network resolve client options text}

/-! ## Checks that fail -/

theorem guarded_eq_error_iff {hop : Hop} {found : Except FetchFault Url} {fault : FetchFault} :
    guarded resolve options hop found = .error fault ↔
      found = .error fault ∨ ∃ url, found = .ok url ∧ options.allowPrivate = false ∧
        guardHost resolve hop url.host = .error fault := by
  cases found with
  | error other => simp [guarded, bind, Except.bind]
  | ok url =>
    simp only [guarded, bind, Except.bind, pure, Except.pure, reduceCtorEq, false_or,
      Except.ok.injEq, exists_eq_left']
    cases options.allowPrivate with
    | true => simp
    | false =>
      simp only [Bool.not_false, if_true, true_and]
      cases guardHost resolve hop url.host with
      | error other => simp
      | ok passed => simp

theorem webUrl_eq_error_iff {fault : FetchFault} :
    webUrl text = .error fault ↔ text = "" ∧ fault = .noUrl ∨ text ≠ "" ∧
      ((∃ bad, Url.parse text = .error bad ∧ fault = .badUrl bad) ∨
        ∃ scheme, Url.parse text = .ok (.other scheme) ∧ fault = .notWeb) := by
  by_cases empty : text = ""
  · subst empty
    simp [webUrl, @eq_comm _ fault]
  · have nonempty : text.isEmpty = false := by simpa using empty
    rw [webUrl, nonempty]
    cases Url.parse text with
    | error bad => simp [empty, @eq_comm _ fault]
    | ok target =>
      cases target with
      | web url => simp [empty]
      | other scheme => simp [empty, @eq_comm _ fault]

theorem redirectTarget_eq_error_iff {last : Url} {location : String} {fault : FetchFault} :
    redirectTarget last location = .error fault ↔
      (∃ bad, last.join location = .error bad ∧ fault = .badLocation location bad) ∨
        ∃ scheme, last.join location = .ok (.other scheme) ∧ fault = .foreignRedirect scheme := by
  rw [redirectTarget]
  cases last.join location with
  | error bad => simp [@eq_comm _ fault]
  | ok target =>
    cases target with
    | web url => simp
    | other scheme => simp [@eq_comm _ fault]

/-- A body that fits ends as it ends, and one that does not is too large. -/
theorem readBody_eq_ite (reply : Reply) [Decidable reply.Fits] :
    readBody maxContentLength reply =
      if reply.Fits then reply.ending.outcome reply.chunks.flatten else .error .tooLarge := by
  have large : ((∃ length ∈ reply.declared, maxContentLength < length) ∨
      maxContentLength < reply.chunks.flatten.length) ↔ ¬ reply.Fits := by
    simp only [Reply.Fits, not_and_or, not_forall, Nat.not_le, exists_prop]
    exact or_comm
  rw [readBody_eq]
  by_cases fits : reply.Fits
  · rw [if_pos fits, if_neg fun h => large.mp h fits]
  · rw [if_neg fits, if_pos (large.mpr fits)]

theorem documentOf_eq_error_iff {request : Request} {reply : Reply} {fault : FetchFault} :
    documentOf options text request reply = .error fault ↔
      ¬ reply.Fits ∧ fault = .tooLarge ∨ reply.Fits ∧
        (reply.ending = .broken ∧ fault = .bodyBroken ∨
          reply.ending = .stalled ∧ fault = .bodyStalled ∨
          reply.ending = .complete ∧ reply.status ≠ 200 ∧ options.anyStatus = false ∧
            fault = .badStatus reply.status) := by
  classical
  have read := readBody_eq_ite reply
  by_cases fits : reply.Fits
  · rw [if_pos fits] at read
    cases ending : reply.ending with
    | complete =>
      rw [ending] at read
      rw [documentOf_of_body read]
      cases options.anyStatus with
      | true => simp [fits]
      | false => by_cases status : reply.status = 200 <;> simp [fits, status, @eq_comm _ fault]
    | broken =>
      rw [ending] at read
      simp [documentOf, read, Ending.outcome, bind, Except.bind, fits, @eq_comm _ fault]
    | stalled =>
      rw [ending] at read
      simp [documentOf, read, Ending.outcome, bind, Except.bind, fits, @eq_comm _ fault]
  · rw [if_neg fits] at read
    simp [documentOf, read, bind, Except.bind, fits, @eq_comm _ fault]

/-! ## Hosts that are met -/

theorem Chain.isRead {k : Nat} {url last : Url} {before sent : List Request}
    (chain : Chain network resolve client options k url before last sent)
    (read : url.host.IsRead) : last.host.IsRead := by
  induction chain with
  | here => exact read
  | hop first rest ih =>
    obtain ⟨_, _, _, _, joined⟩ := first.leads
    exact ih (Url.isRead_of_join read joined)

theorem Stands.isRead {last : Url} {sent : List Request}
    (h : Stands network resolve client options text last sent) : last.host.IsRead := by
  obtain ⟨url, k, start, chain, _⟩ := h
  exact chain.isRead (Url.isRead_of_parse (startUrl_ok start).1)

theorem Meets.isRead {hop : Hop} {url : Url} {sent : List Request}
    (h : Meets network resolve client options text hop url sent) : url.host.IsRead := by
  cases h with
  | start nonempty web => exact Url.isRead_of_parse web
  | redirect asks points joined => exact Url.isRead_of_join asks.1.isRead joined

/-! ## Rounds that fail -/

variable (network resolve client options) in
/-- How a round of a course ends in a fault. -/
inductive Halts (before : List Request) (url : Url) : FetchFault → List Request → Prop where
  /-- The request cannot be made. -/
  | unmade (make : Request.make? client options.headers url = none) :
      Halts before url .badHeader before
  /-- The request is sent and not answered. -/
  | unanswered {request : Request} {fault : FetchFault}
      (make : Request.make? client options.headers url = some request)
      (delivery : (network.deliver before request).toReply request = .error fault) :
      Halts before url fault (before ++ [request])
  /-- The reply leads to where no request is sent. -/
  | stopped {request : Request} {location : String} {fault : FetchFault}
      (make : Request.make? client options.headers url = some request)
      (points : Points network before request location)
      (hop : nextHop resolve options url location = .error fault) :
      Halts before url fault (before ++ [request])

theorem Halts.after_follow {before sent : List Request} {url : Url} {fault : FetchFault}
    (h : Halts network resolve client options before url fault sent) (more : Nat) :
    (follow network resolve client options (more + 1) url).after before = (.error fault, sent) := by
  rw [after_follow_succ, after_send]
  cases h with
  | unmade make => simp only [make]
  | unanswered make delivery => simp only [make, delivery]
  | stopped make points hop =>
    obtain ⟨reply, answered, place⟩ := points
    simp only [make, answered, Delivery.toReply, place, hop]

/-- A course that ends in a fault has gone along a chain, to a round that ends in it or until it
could send no more requests. -/
theorem Follows.halts {more : Nat} {url : Url} {before sent : List Request} {fault : FetchFault}
    (h : Follows network resolve client options more url before (.error fault) sent) :
    ∃ k last between, Chain network resolve client options k url before last between ∧
      (k < more ∧ Halts network resolve client options between last fault sent ∨
        k = more ∧ fault = .tooManyRedirects ∧ sent = between) := by
  have one {more : Nat} {url : Url} {before sent : List Request} {other : FetchFault}
      (halts : Halts network resolve client options before url other sent)
      (same : other = fault) :
      ∃ k last between, Chain network resolve client options k url before last between ∧
        (k < more + 1 ∧ Halts network resolve client options between last fault sent ∨
          k = more + 1 ∧ fault = .tooManyRedirects ∧ sent = between) :=
    ⟨0, url, before, .here, .inl ⟨Nat.succ_pos more, same ▸ halts⟩⟩
  generalize outcome : (Except.error fault : Except FetchFault (Request × Reply)) = result at h
  induction h with
  | exhausted =>
    exact ⟨0, _, _, .here, .inr ⟨rfl, Except.error.inj outcome, rfl⟩⟩
  | unmade make => exact one (.unmade make) (Except.error.inj outcome).symm
  | unanswered make delivery =>
    exact one (.unanswered make delivery) (Except.error.inj outcome).symm
  | arrived => exact nomatch outcome
  | stopped make delivery place hop =>
    exact one (.stopped make ⟨_, delivery, place⟩ hop) (Except.error.inj outcome).symm
  | redirected make delivery place hop _ ih =>
    obtain ⟨k, last, between, chain, ends⟩ := ih outcome
    obtain ⟨joined, passes⟩ := nextHop_eq_ok_iff.mp hop
    refine ⟨k + 1, last, between, .hop ⟨make, ⟨_, _, delivery, place, joined⟩, passes⟩ chain, ?_⟩
    exact ends.imp (And.imp_left Nat.succ_lt_succ) (And.imp_left (congrArg Nat.succ))

/-! ## Fetching fails in these ways -/

section

variable {fault : FetchFault} {last : Url} {sent all : List Request} {request : Request}
  {reply : Reply}

/-- A course that stands at a round that fails makes fetching fail. -/
theorem Stands.fetch_eq (stands : Stands network resolve client options text last sent)
    (halts : Halts network resolve client options sent last fault all) :
    fetch network resolve client options text = ⟨.error (fault.toFailure text), all⟩ := by
  obtain ⟨url, k, start, chain, few⟩ := stands
  have steps : maxRedirects + 1 = maxRedirects - k + 1 + k := by omega
  rw [fetch_of_start start, steps, chain.after_follow, halts.after_follow]

theorem Concludes.fetch_eq
    (concludes : Concludes network resolve client options text last sent request reply)
    (document : documentOf options text request reply = .error fault) :
    fetch network resolve client options text =
      ⟨.error (fault.toFailure text), sent ++ [request]⟩ := by
  obtain ⟨⟨url, k, start, chain, few⟩, arrives⟩ := concludes
  rw [fetch_of_chain start chain few arrives, document]
  rfl

/-- A host that is refused where a course meets it makes fetching fail. -/
theorem Meets.fetch_eq {hop : Hop} {url : Url} (guard : options.allowPrivate = false)
    (meets : Meets network resolve client options text hop url sent)
    (refused : guardHost resolve hop url.host = .error fault) :
    fetch network resolve client options text = ⟨.error (fault.toFailure text), sent⟩ := by
  cases meets with
  | start nonempty web =>
    have found := webUrl_eq_ok_iff.mpr ⟨nonempty, web⟩
    exact fetch_of_no_start (guarded_eq_error_iff.mpr (.inr ⟨url, found, guard, refused⟩))
  | redirect asks points joined =>
    have found := redirectTarget_eq_ok_iff.mpr joined
    exact asks.1.fetch_eq (.stopped asks.2 points
      (guarded_eq_error_iff.mpr (.inr ⟨url, found, guard, refused⟩)))

/-- In each of these ways fetching fails. -/
theorem Fails.fetch_eq (h : Fails network resolve client options text fault sent) :
    fetch network resolve client options text = ⟨.error (fault.toFailure text), sent⟩ := by
  have unfound {fault : FetchFault} (web : webUrl text = .error fault) :
      fetch network resolve client options text = ⟨.error (fault.toFailure text), []⟩ :=
    fetch_of_no_start (guarded_eq_error_iff.mpr (.inl web))
  have astray {last : Url} {sent : List Request} {request : Request} {location : String}
      {fault : FetchFault} (asks : Asks network resolve client options text last sent request)
      (points : Points network sent request location)
      (target : redirectTarget last location = .error fault) :
      fetch network resolve client options text =
        ⟨.error (fault.toFailure text), sent ++ [request]⟩ :=
    asks.1.fetch_eq (.stopped asks.2 points (guarded_eq_error_iff.mpr (.inl target)))
  cases h with
  | noUrl empty => exact unfound (webUrl_eq_error_iff.mpr (.inl ⟨empty, rfl⟩))
  | badUrl nonempty parsed =>
    exact unfound (webUrl_eq_error_iff.mpr (.inr ⟨nonempty, .inl ⟨_, parsed, rfl⟩⟩))
  | notWeb nonempty parsed =>
    exact unfound (webUrl_eq_error_iff.mpr (.inr ⟨nonempty, .inr ⟨_, parsed, rfl⟩⟩))
  | privateHost guard meets hidden =>
    exact meets.fetch_eq guard
      ((guardHost_eq_error_iff resolve _ meets.isRead).mpr (.inl ⟨hidden, rfl⟩))
  | lookupFailed guard meets name unknown =>
    exact meets.fetch_eq guard ((guardHost_eq_error_iff resolve _ meets.isRead).mpr
      (.inr ⟨_, _, name, unknown, rfl⟩))
  | badHeader stands unmade => exact stands.fetch_eq (.unmade unmade)
  | unanswered asks lost =>
    exact asks.1.fetch_eq (.unanswered asks.2 (congrArg (Delivery.toReply _) lost))
  | unansweredInTime asks late =>
    exact asks.1.fetch_eq (.unanswered asks.2 (congrArg (Delivery.toReply _) late))
  | badLocation asks points joined =>
    exact astray asks points (redirectTarget_eq_error_iff.mpr (.inl ⟨_, joined, rfl⟩))
  | foreignRedirect asks points joined =>
    exact astray asks points (redirectTarget_eq_error_iff.mpr (.inr ⟨_, joined, rfl⟩))
  | tooManyRedirects start chain =>
    have gone := chain.after_follow 0
    rw [Nat.zero_add] at gone
    rw [fetch_of_start start, gone]
    rfl
  | tooLarge concludes large =>
    exact concludes.fetch_eq (documentOf_eq_error_iff.mpr (.inl ⟨large, rfl⟩))
  | bodyBroken concludes fits broken =>
    exact concludes.fetch_eq (documentOf_eq_error_iff.mpr (.inr ⟨fits, .inl ⟨broken, rfl⟩⟩))
  | bodyStalled concludes fits stalled =>
    exact concludes.fetch_eq (documentOf_eq_error_iff.mpr (.inr ⟨fits, .inr (.inl ⟨stalled, rfl⟩)⟩))
  | badStatus concludes fits complete status only =>
    exact concludes.fetch_eq (documentOf_eq_error_iff.mpr
      (.inr ⟨fits, .inr (.inr ⟨complete, status, only, rfl⟩)⟩))

/-! ## Fetching fails in no other way -/

theorem Meets.fails {hop : Hop} {url : Url} (guard : options.allowPrivate = false)
    (meets : Meets network resolve client options text hop url sent)
    (refused : guardHost resolve hop url.host = .error fault) :
    Fails network resolve client options text fault sent := by
  rcases (guardHost_eq_error_iff resolve hop meets.isRead).mp refused with
    ⟨hidden, rfl⟩ | ⟨domain, reason, name, unknown, rfl⟩
  · exact .privateHost guard meets hidden
  · exact .lookupFailed guard meets name unknown

theorem fails_of_startUrl (start : startUrl resolve options text = .error fault) :
    Fails network resolve client options text fault [] := by
  rcases guarded_eq_error_iff.mp start with web | ⟨url, web, guard, refused⟩
  · rcases webUrl_eq_error_iff.mp web with ⟨empty, rfl⟩ | ⟨nonempty, bad | other⟩
    · exact .noUrl empty
    · obtain ⟨fault, parsed, rfl⟩ := bad
      exact .badUrl nonempty parsed
    · obtain ⟨scheme, parsed, rfl⟩ := other
      exact .notWeb nonempty parsed
  · obtain ⟨nonempty, parsed⟩ := webUrl_eq_ok_iff.mp web
    exact Meets.fails guard (.start nonempty parsed) refused

theorem Stands.fails (stands : Stands network resolve client options text last sent)
    (halts : Halts network resolve client options sent last fault all) :
    Fails network resolve client options text fault all := by
  cases halts with
  | unmade make => exact .badHeader stands make
  | @unanswered request _ make delivery =>
    cases delivered : network.deliver sent request with
    | answered reply => exact nomatch delivered ▸ delivery
    | failed =>
      rw [delivered] at delivery
      cases delivery
      exact .unanswered ⟨stands, make⟩ delivered
    | timedOut =>
      rw [delivered] at delivery
      cases delivery
      exact .unansweredInTime ⟨stands, make⟩ delivered
  | stopped make points hop =>
    rcases guarded_eq_error_iff.mp hop with astray | ⟨next, found, guard, refused⟩
    · rcases redirectTarget_eq_error_iff.mp astray with bad | other
      · obtain ⟨fault, joined, rfl⟩ := bad
        exact .badLocation ⟨stands, make⟩ points joined
      · obtain ⟨scheme, joined, rfl⟩ := other
        exact .foreignRedirect ⟨stands, make⟩ points joined
    · exact Meets.fails guard
        (.redirect ⟨stands, make⟩ points (redirectTarget_eq_ok_iff.mp found)) refused

theorem Concludes.fails
    (concludes : Concludes network resolve client options text last sent request reply)
    (document : documentOf options text request reply = .error fault) :
    Fails network resolve client options text fault (sent ++ [request]) := by
  rcases documentOf_eq_error_iff.mp document with
    ⟨large, rfl⟩ | ⟨fits, ⟨broken, rfl⟩ | ⟨stalled, rfl⟩ | ⟨complete, status, only, rfl⟩⟩
  · exact .tooLarge concludes large
  · exact .bodyBroken concludes fits broken
  · exact .bodyStalled concludes fits stalled
  · exact .badStatus concludes fits complete status only

/-- If fetching fails, then in one of these ways. -/
theorem exists_fails {failure : Failure}
    (h : (fetch network resolve client options text).result = .error failure) :
    ∃ fault sent, Fails network resolve client options text fault sent := by
  cases start : startUrl resolve options text with
  | error fault => exact ⟨fault, [], fails_of_startUrl start⟩
  | ok url =>
    rw [fetch_of_start start] at h
    cases course : (follow network resolve client options (maxRedirects + 1) url).after [] with
    | mk result sent =>
      rw [course] at h
      cases result with
      | error fault =>
        have follows := follows_follow network resolve client options (maxRedirects + 1) url []
        rw [course] at follows
        obtain ⟨k, last, between, chain, ⟨few, halts⟩ | ⟨rfl, rfl, rfl⟩⟩ := follows.halts
        · exact ⟨fault, sent,
            Stands.fails ⟨url, k, start, chain, Nat.le_of_lt_succ few⟩ halts⟩
        · exact ⟨_, _, .tooManyRedirects start chain⟩
      | ok answer =>
        obtain ⟨request, reply⟩ := answer
        obtain ⟨k, last, between, few, chain, arrives⟩ :=
          follow_eq_ok_iff.mp (congrArg Prod.fst course)
        have concludes : Concludes network resolve client options text last between request reply :=
          ⟨⟨url, k, start, chain, Nat.le_of_lt_succ few⟩, arrives⟩
        cases document : documentOf options text request reply with
        | error fault => exact ⟨fault, _, concludes.fails document⟩
        | ok f =>
          dsimp only at h
          rw [document] at h
          exact nomatch h

end

/-- Fetching fails exactly in these ways, with the failure that a fault is for the text that was
asked for. -/
theorem fetch_eq_error_iff {failure : Failure} {sent : List Request} :
    fetch network resolve client options text = ⟨.error failure, sent⟩ ↔
      ∃ fault, Fails network resolve client options text fault sent ∧
        failure = fault.toFailure text := by
  constructor
  · intro h
    obtain ⟨fault, all, fails⟩ := exists_fails (congrArg Outcome.result h)
    have same := fails.fetch_eq.symm.trans h
    cases same
    exact ⟨fault, fails, rfl⟩
  · rintro ⟨fault, fails, rfl⟩
    exact fails.fetch_eq

/-! ## Kinds of failure -/

/-- Whether an outcome is a failure of some kind. -/
def Outcome.FailsAs {α : Type} (outcome : Outcome α) (kind : FailureKind) : Prop :=
  ∃ failure, outcome.result = .error failure ∧ failure.kind = kind

theorem failsAs_iff {kind : FailureKind} :
    (fetch network resolve client options text).FailsAs kind ↔
      ∃ fault sent, Fails network resolve client options text fault sent ∧ fault.kind = kind := by
  constructor
  · rintro ⟨failure, failed, rfl⟩
    obtain ⟨fault, sent, fails⟩ := exists_fails failed
    rw [fails.fetch_eq] at failed
    exact ⟨fault, sent, fails, congrArg Failure.kind (Except.error.inj failed)⟩
  · rintro ⟨fault, sent, fails, rfl⟩
    rw [fails.fetch_eq]
    exact ⟨_, rfl, rfl⟩

theorem failsAs_invalidUrl_iff :
    (fetch network resolve client options text).FailsAs .invalidUrl ↔
      text = "" ∨ (∃ fault, Url.parse text = .error fault) ∨
        ∃ scheme, Url.parse text = .ok (.other scheme) := by
  rw [failsAs_iff]
  constructor
  · rintro ⟨fault, sent, fails, kind⟩
    cases fails with
    | noUrl empty => exact .inl empty
    | badUrl nonempty parsed => exact .inr (.inl ⟨_, parsed⟩)
    | notWeb nonempty parsed => exact .inr (.inr ⟨_, parsed⟩)
    | _ => exact nomatch kind
  · intro unfit
    by_cases empty : text = ""
    · exact ⟨_, _, .noUrl empty, rfl⟩
    · rcases unfit with h | ⟨fault, parsed⟩ | ⟨scheme, parsed⟩
      · exact absurd h empty
      · exact ⟨_, _, .badUrl empty parsed, rfl⟩
      · exact ⟨_, _, .notWeb empty parsed, rfl⟩

theorem failsAs_blocked_iff :
    (fetch network resolve client options text).FailsAs .blocked ↔
      options.allowPrivate = false ∧ ∃ hop url sent,
        Meets network resolve client options text hop url sent ∧ url.host.IsPrivate resolve := by
  rw [failsAs_iff]
  constructor
  · rintro ⟨fault, sent, fails, kind⟩
    cases fails with
    | privateHost guard meets hidden => exact ⟨guard, _, _, _, meets, hidden⟩
    | _ => exact nomatch kind
  · rintro ⟨guard, hop, url, sent, meets, hidden⟩
    exact ⟨_, _, .privateHost guard meets hidden, rfl⟩

theorem failsAs_timeout_iff :
    (fetch network resolve client options text).FailsAs .timeout ↔
      (∃ last sent request, Asks network resolve client options text last sent request ∧
        network.deliver sent request = .timedOut) ∨
      ∃ last sent request reply,
        Concludes network resolve client options text last sent request reply ∧
          reply.Fits ∧ reply.ending = .stalled := by
  rw [failsAs_iff]
  constructor
  · rintro ⟨fault, sent, fails, kind⟩
    cases fails with
    | unansweredInTime asks late => exact .inl ⟨_, _, _, asks, late⟩
    | bodyStalled concludes fits stalled => exact .inr ⟨_, _, _, _, concludes, fits, stalled⟩
    | _ => exact nomatch kind
  · rintro (h | h)
    · obtain ⟨last, sent, request, asks, late⟩ := h
      exact ⟨_, _, .unansweredInTime asks late, rfl⟩
    · obtain ⟨last, sent, request, reply, concludes, fits, stalled⟩ := h
      exact ⟨_, _, .bodyStalled concludes fits stalled, rfl⟩

/-- The faults that are failures to fetch and nothing more special. -/
def FetchFault.IsPlain (fault : FetchFault) : Prop :=
  (∃ host reason, fault = .lookupFailed host reason) ∨
    (fault = .badHeader ∨ ∃ url, fault = .unanswered url) ∨
    ((∃ location bad, fault = .badLocation location bad) ∨
      ∃ scheme, fault = .foreignRedirect scheme) ∨
    fault = .tooManyRedirects ∨ (fault = .tooLarge ∨ fault = .bodyBroken) ∨
    ∃ status, fault = .badStatus status

theorem FetchFault.kind_eq_fetch_iff {fault : FetchFault} :
    fault.kind = .fetch ↔ fault.IsPlain := by
  cases fault <;> simp [kind, IsPlain]

theorem FetchFault.isTransport_kind (fault : FetchFault) : fault.kind.isTransport = true := by
  cases fault <;> rfl

end

/-- A failure of fetching is about the text that was asked for, wherever it comes from, and its
kind tells what has happened.  Clients fail with it and with nothing else. -/
theorem fetch_failures (network : Network) (resolve : Resolver) (client : HttpClient)
    (options : FetchOptions) (text : String) :
    let outcome := fetch network resolve client options text
    (∀ failure, outcome.result = .error failure →
      failure.action = "Fetch" ∧ failure.place = text ∧ failure.kind.isTransport = true ∧
        failure.kind ≠ .config ∧ failure.kind ≠ .io) ∧
    (outcome.FailsAs .invalidUrl ↔ text = "" ∨ (∃ fault, Url.parse text = .error fault) ∨
      ∃ scheme, Url.parse text = .ok (.other scheme)) ∧
    (outcome.FailsAs .invalidUrl → outcome.requests = []) ∧
    (outcome.FailsAs .blocked ↔ options.allowPrivate = false ∧ ∃ hop url sent,
      Meets network resolve client options text hop url sent ∧ url.host.IsPrivate resolve) ∧
    (outcome.FailsAs .timeout ↔
      (∃ last sent request, Asks network resolve client options text last sent request ∧
        network.deliver sent request = .timedOut) ∨
      ∃ last sent request reply,
        Concludes network resolve client options text last sent request reply ∧
          reply.Fits ∧ reply.ending = .stalled) ∧
    (outcome.FailsAs .fetch ↔ ∃ fault sent,
      Fails network resolve client options text fault sent ∧ fault.IsPlain) ∧
    (∀ failure sent, outcome = ⟨.error failure, sent⟩ ↔ ∃ fault,
      Fails network resolve client options text fault sent ∧ failure = fault.toFailure text) ∧
    ∀ (c : Client) (detect : Charset.Detector),
      (c.fetchDocument network resolve text detect).FailsLike
        (fetch network resolve c.http c.fetchOptions text) ∧
      ∀ rules cache, ((c.tryExtract network resolve text rules detect).run cache).1.FailsLike
        (fetch network resolve c.http c.fetchOptions text) := by
  intro outcome
  refine ⟨?_, failsAs_invalidUrl_iff, ?_, failsAs_blocked_iff, failsAs_timeout_iff, ?_,
    fun _ _ => fetch_eq_error_iff,
    fun c detect => Client.fails_iff_fetch_fails network resolve c text detect⟩
  · intro failure failed
    obtain ⟨fault, sent, fails⟩ := exists_fails failed
    have same : outcome = _ := fails.fetch_eq
    rw [same] at failed
    obtain rfl := Except.error.inj failed
    have transport : (fault.toFailure text).kind.isTransport = true := fault.isTransport_kind
    refine ⟨rfl, rfl, transport, ?_, ?_⟩
    · intro kind
      rw [kind] at transport
      exact nomatch transport
    · intro kind
      rw [kind] at transport
      exact nomatch transport
  · intro invalid
    obtain ⟨fault, sent, fails, kind⟩ := failsAs_iff.mp invalid
    have same : outcome = _ := fails.fetch_eq
    rw [same]
    cases fails with
    | noUrl | badUrl | notWeb => rfl
    | _ => exact nomatch kind
  · simp only [← FetchFault.kind_eq_fetch_iff]
    exact failsAs_iff

/-- A redirect leads to a private address: nothing is asked there, and the failure is about the
URL that was asked for. -/
theorem fetch_failures_private :
    let network : Network :=
      ⟨fun _ _ => .answered ⟨302, [("Location", "//10.0.0.1/")], none, [], .complete⟩⟩
    let outcome := fetch network .alone ⟨"t"⟩ {} "http://8.8.8.8/"
    outcome.FailsAs .blocked ∧
      ∀ failure, outcome.result = .error failure → failure.place = "http://8.8.8.8/" := by
  intro network outcome
  let url (octets : List Nat) : Url :=
    ⟨.http, [], none, .address (.v4 (Ipv4.ofOctets octets)), none, [[]], none, none⟩
  obtain ⟨request, made⟩ :
      ∃ request, Request.make? ⟨"t"⟩ .empty (url [8, 8, 8, 8]) = some request := ⟨_, rfl⟩
  obtain ⟨about, -, -, blocked, -⟩ := fetch_failures network .alone ⟨"t"⟩ {} "http://8.8.8.8/"
  have stands : Stands network .alone ⟨"t"⟩ {} "http://8.8.8.8/" (url [8, 8, 8, 8]) [] :=
    ⟨_, 0, by decide +kernel, .here, Nat.zero_le _⟩
  have points : Points network [] request "//10.0.0.1/" := ⟨_, rfl, by decide +kernel⟩
  have meets : Meets network .alone ⟨"t"⟩ {} "http://8.8.8.8/" .redirect (url [10, 0, 0, 1])
      ([] ++ [request]) :=
    .redirect ⟨stands, made⟩ points (by decide +kernel)
  have hidden : (url [10, 0, 0, 1]).host.IsPrivate .alone := by
    show Ip.isPrivate _ = true
    decide
  exact ⟨blocked.mpr ⟨rfl, _, _, _, meets, hidden⟩,
    fun failure failed => (about failure failed).2.1⟩

end PageExtract
