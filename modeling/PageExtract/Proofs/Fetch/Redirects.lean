import Mathlib.Data.List.Forall2
import PageExtract.Proofs.Fetch.Body
import PageExtract.Proofs.Fetch.Chain

/-!
# Where redirects lead

The requests of a course are *linked*: the first is made for the URL that was asked
for, and each of the others for the URL that the reply to the one before names, as
seen from where that one was sent.  There are at most eleven of them.

A chain of at most ten redirects is followed to its end.  A longer one, and so every
one that leads in a circle, is given up after eleven requests.
-/

namespace PageExtract

/-- How requests, which come after some others, and the URLs that they are made for follow from
one another. -/
structure Linked (network : Network) (client : HttpClient) (headers : Headers)
    (before : List Request) (urls : List Url) (requests : List Request) : Prop where
  /-- Each request is made for its URL. -/
  made : List.Forall₂ (fun url request => Request.make? client headers url = some request)
    urls requests
  /-- The reply to each request but the last is a redirect, and the next URL is the place that it
  names, as seen from where the request was sent. -/
  next : ∀ i url next, urls[i]? = some url → urls[i + 1]? = some next →
    ∃ request reply location, requests[i]? = some request ∧
      network.deliver (before ++ requests.take i) request = .answered reply ∧
      (300 ≤ reply.status ∧ reply.status < 400) ∧
      header? reply.headers "location" = some location ∧ url.join location = .ok (.web next)

namespace Linked

variable {network : Network} {client : HttpClient} {headers : Headers}
  {before : List Request} {url : Url} {request : Request}

theorem nil : Linked network client headers before [] [] :=
  ⟨.nil, fun _ _ _ h => (nomatch h)⟩

theorem singleton (made : Request.make? client headers url = some request) :
    Linked network client headers before [url] [request] :=
  ⟨.cons made .nil, fun _ _ _ _ h => (nomatch h)⟩

theorem cons {reply : Reply} {location : String} {next : Url} {urls : List Url}
    {requests : List Request} (made : Request.make? client headers url = some request)
    (answered : network.deliver before request = .answered reply)
    (place : reply.location? = some location) (joined : url.join location = .ok (.web next))
    (first : ∀ u ∈ urls.head?, u = next)
    (rest : Linked network client headers (before ++ [request]) urls requests) :
    Linked network client headers before (url :: urls) (request :: requests) := by
  refine ⟨.cons made rest.made, ?_⟩
  intro i here there hi hnext
  cases i with
  | zero =>
    obtain rfl : url = here := Option.some.inj hi
    obtain rfl : there = next := first there (List.head?_eq_getElem?.trans hnext)
    obtain ⟨status, named⟩ := Reply.location?_eq_some_iff.mp place
    exact ⟨request, reply, location, rfl, by rwa [List.take_zero, List.append_nil], status, named,
      joined⟩
  | succ i =>
    obtain ⟨r, answer, l, sent, delivered, leads⟩ := rest.next i here there hi hnext
    refine ⟨r, answer, l, sent, ?_, leads⟩
    rw [List.take_succ_cons, ← List.singleton_append, ← List.append_assoc]
    exact delivered

/-- The last request is made for the last URL. -/
theorem made_last {urls : List Url} {requests : List Request}
    (h : Linked network client headers before urls requests)
    (last : request ∈ requests.getLast?) :
    ∃ url ∈ urls.getLast?, Request.make? client headers url = some request := by
  have made := List.forall₂_reverse_iff.mpr h.made
  rw [List.getLast?_eq_head?_reverse] at last ⊢
  generalize urls.reverse = us at made ⊢
  generalize requests.reverse = rs at made last
  cases made with
  | nil => exact nomatch last
  | cons first _ => exact ⟨_, rfl, Option.some.inj last ▸ first⟩

end Linked

/-- A request is for the URL that it is made for, up to user name and password. -/
theorem withoutUserinfo_of_make? {client : HttpClient} {headers : Headers} {url : Url}
    {request : Request} (h : Request.make? client headers url = some request) :
    request.url.withoutUserinfo = url.withoutUserinfo := by
  unfold Request.make? at h
  split at h
  · cases h
    dsimp only
    split <;> rfl
  · cases h

section

variable {network : Network} {resolve : Resolver} {client : HttpClient} {options : FetchOptions}

/-- The requests of a course are linked, the first is made for the URL that it starts from, and
there are no more than may be sent. -/
theorem Follows.linked {more : Nat} {url : Url} {before sent : List Request}
    {result : Except FetchFault (Request × Reply)}
    (h : Follows network resolve client options more url before result sent) :
    ∃ urls requests, sent = before ++ requests ∧
      Linked network client options.headers before urls requests ∧
      (∀ u ∈ urls.head?, u = url) ∧ requests.length ≤ more := by
  have one {more : Nat} {before : List Request} {url : Url} {request : Request}
      (make : Request.make? client options.headers url = some request) :
      ∃ urls requests, before ++ [request] = before ++ requests ∧
        Linked network client options.headers before urls requests ∧
        (∀ u ∈ urls.head?, u = url) ∧ requests.length ≤ more + 1 :=
    ⟨[url], [request], rfl, .singleton make, fun _ h => (Option.some.inj h).symm,
      Nat.succ_le_succ (Nat.zero_le more)⟩
  induction h with
  | exhausted => exact ⟨[], [], (List.append_nil _).symm, .nil, fun _ h => (nomatch h), Nat.le_refl _⟩
  | unmade => exact ⟨[], [], (List.append_nil _).symm, .nil, fun _ h => (nomatch h), Nat.zero_le _⟩
  | unanswered make => exact one make
  | arrived make => exact one make
  | stopped make => exact one make
  | @redirected more url next before sent request reply location result make delivery place hop _ ih =>
    obtain ⟨urls, requests, rfl, linked, first, few⟩ := ih
    refine ⟨url :: urls, request :: requests, ?_,
      .cons make delivery place (nextHop_ok hop).1 first linked,
      fun _ h => (Option.some.inj h).symm, Nat.succ_le_succ few⟩
    rw [List.append_assoc, List.singleton_append]

variable (network resolve client options) in
theorem fetch_linked (text : String) :
    ∃ urls, Linked network client options.headers [] urls
        (fetch network resolve client options text).requests ∧
      (∀ url ∈ urls.head?, Url.parse text = .ok (.web url)) ∧
      (fetch network resolve client options text).requests.length ≤ maxRedirects + 1 := by
  cases start : startUrl resolve options text with
  | error fault =>
    rw [fetch_of_no_start start]
    exact ⟨[], .nil, fun _ h => (nomatch h), Nat.zero_le _⟩
  | ok url =>
    obtain ⟨urls, requests, sent, linked, first, few⟩ :=
      (follows_follow network resolve client options (maxRedirects + 1) url []).linked
    rw [List.nil_append] at sent
    rw [requests_of_start start, sent]
    refine ⟨urls, linked, ?_, few⟩
    intro u hu
    rw [first u hu]
    exact (startUrl_ok start).1

/-- A chain that is too long is given up. -/
theorem fetch_of_long_chain {text : String} {url last : Url} {k : Nat} {sent : List Request}
    (start : startUrl resolve options text = .ok url)
    (chain : Chain network resolve client options k url [] last sent) (long : maxRedirects < k) :
    (fetch network resolve client options text).requests.length = maxRedirects + 1 ∧
      (fetch network resolve client options text).result =
        .error ⟨.fetch, text, "Fetch", some (.text "too many redirects")⟩ := by
  obtain ⟨all, gone, length⟩ := chain.after_follow_of_long long
  rw [fetch_of_start start, gone]
  exact ⟨length.trans (Nat.zero_add _), rfl⟩

/-- A document is at the URL of the last request. -/
theorem fetched_urls {text : String} {f : Fetched}
    (h : (fetch network resolve client options text).result = .ok f) :
    f.url = text ∧ ∃ request ∈ (fetch network resolve client options text).requests.getLast?,
      f.finalUrl = request.url.text := by
  obtain ⟨url, k, last, sent, request, reply, start, chain, few, arrives, document⟩ :=
    fetch_result_eq_ok_iff.mp h
  obtain ⟨_, _, _, rfl⟩ := documentOf_eq_ok_iff.mp document
  refine ⟨rfl, request, ?_, rfl⟩
  rw [fetch_of_chain start chain few arrives]
  exact List.getLast?_concat

/-! ## Circles -/

variable (network resolve client options) in
/-- From each of some URLs, whatever was sent before, a redirect leads to another of them. -/
def LeadsAround (among : Url → Prop) : Prop :=
  ∀ url, among url → ∀ before, ∃ request next,
    Redirects network resolve client options before url request next ∧ among next

/-- Redirects that lead around make chains of every length. -/
theorem LeadsAround.chain {among : Url → Prop}
    (h : LeadsAround network resolve client options among) {url : Url} (inside : among url)
    (k : Nat) (before : List Request) :
    ∃ last sent, Chain network resolve client options k url before last sent := by
  induction k generalizing url before with
  | zero => exact ⟨url, before, .here⟩
  | succ k ih =>
    obtain ⟨request, next, redirects, stays⟩ := h url inside before
    obtain ⟨last, sent, rest⟩ := ih stays (before ++ [request])
    exact ⟨last, sent, .hop redirects rest⟩

/-! ## Fetching -/

/-- The requests of a course are linked and at most eleven, and the document is at the last of
their URLs.  A chain of redirects is followed to its end if there are at most ten of them, and else
given up, like one that leads around. -/
theorem fetch_follows_redirects (network : Network) (resolve : Resolver) (client : HttpClient)
    (options : FetchOptions) (text : String) :
    let outcome := fetch network resolve client options text
    (∃ urls, Linked network client options.headers [] urls outcome.requests ∧
      (∀ url ∈ urls.head?, Url.parse text = .ok (.web url)) ∧
      (∀ url ∈ urls, url.scheme = .http ∨ url.scheme = .https) ∧
      outcome.requests.length ≤ maxRedirects + 1 ∧
      ∀ f, outcome.result = .ok f → f.url = text ∧
        ∃ url ∈ urls.getLast?, ∃ request ∈ outcome.requests.getLast?,
          f.finalUrl = request.url.text ∧ request.url.withoutUserinfo = url.withoutUserinfo) ∧
    ∀ url, startUrl resolve options text = .ok url →
      (∀ k last sent, Chain network resolve client options k url [] last sent →
        (k ≤ 10 → ∀ request reply, Arrives network client options sent last request reply →
          outcome.requests = sent ++ [request] ∧ outcome.requests.length = k + 1 ∧
          outcome.result = (documentOf options text request reply).mapError (·.toFailure text)) ∧
        (11 ≤ k → outcome.requests.length = 11 ∧
          outcome.result = .error ⟨.fetch, text, "Fetch", some (.text "too many redirects")⟩)) ∧
      (∀ among, LeadsAround network resolve client options among → among url →
        outcome.requests.length = 11 ∧
          outcome.result = .error ⟨.fetch, text, "Fetch", some (.text "too many redirects")⟩) := by
  intro outcome
  refine ⟨?_, fun url start => ⟨fun k last sent chain => ⟨fun few request reply arrives => ?_,
    fun many => fetch_of_long_chain start chain many⟩, fun among around inside => ?_⟩⟩
  · obtain ⟨urls, linked, first, few⟩ := fetch_linked network resolve client options text
    refine ⟨urls, linked, first, fun url _ => ?_, few, fun f ok => ?_⟩
    · cases url.scheme with
      | http => exact .inl rfl
      | https => exact .inr rfl
    · obtain ⟨same, request, sent, final⟩ := fetched_urls ok
      obtain ⟨url, asked, made⟩ := linked.made_last sent
      exact ⟨same, url, asked, request, sent, final, withoutUserinfo_of_make? made⟩
  · have given : outcome = _ := fetch_of_chain start chain few arrives
    rw [given]
    refine ⟨rfl, ?_, rfl⟩
    rw [List.length_append, chain.length_sent]
    exact congrArg (· + 1) (Nat.zero_add k)
  · obtain ⟨last, sent, chain⟩ := around.chain inside 11 []
    exact fetch_of_long_chain start chain (Nat.le_refl _)

/-- One page leads to another, and a third leads to itself. -/
theorem fetch_follows_redirects_page :
    let reply (status : Nat) (headers : List (String × String)) : Delivery :=
      .answered ⟨status, headers, none, [[7]], .complete⟩
    let network : Network := ⟨fun _ request =>
      if request.url.path = [['a']] then reply 302 [("Location", "b")]
      else if request.url.path = [['b']] then reply 200 []
      else reply 302 [("Location", "c")]⟩
    let fetchOf := fetch network .alone ⟨"t"⟩ {}
    (fetchOf "http://8.8.8.8/a").requests.length = 2 ∧
      (fetchOf "http://8.8.8.8/a").result =
        .ok ⟨200, "http://8.8.8.8/a", "http://8.8.8.8/b", none, [7]⟩ ∧
      (fetchOf "http://8.8.8.8/c").requests.length = 11 ∧
      (fetchOf "http://8.8.8.8/c").result =
        .error ⟨.fetch, "http://8.8.8.8/c", "Fetch", some (.text "too many redirects")⟩ := by
  intro reply network fetchOf
  let page (c : Char) : Url :=
    ⟨.http, [], none, .address (.v4 (Ipv4.ofOctets [8, 8, 8, 8])), none, [[c]], none, none⟩
  have asked (c : Char) : ∃ request, Request.make? ⟨"t"⟩ .empty (page c) = some request ∧
      request.url = page c := ⟨_, rfl, rfl⟩
  obtain ⟨a, madeA, urlA⟩ := asked 'a'
  obtain ⟨b, madeB, urlB⟩ := asked 'b'
  obtain ⟨c, madeC, urlC⟩ := asked 'c'
  have delivered (before : List Request) : network.deliver before a = reply 302 [("Location", "b")] ∧
      network.deliver before b = reply 200 [] ∧
      network.deliver before c = reply 302 [("Location", "c")] := by
    simp only [network, urlA, urlB, urlC]
    exact ⟨rfl, rfl, rfl⟩
  have toSecond : Chain network .alone ⟨"t"⟩ {} 1 (page 'a') [] (page 'b') [a] :=
    .hop ⟨madeA, ⟨_, "b", (delivered []).1, by decide +kernel, by decide +kernel⟩,
      fun _ => by decide +kernel⟩ .here
  have final : Arrives network ⟨"t"⟩ {} [a] (page 'b') b ⟨200, [], none, [[7]], .complete⟩ :=
    ⟨madeB, (delivered [a]).2.1, .inr rfl⟩
  have around : LeadsAround network .alone ⟨"t"⟩ {} (· = page 'c') := by
    rintro _ rfl before
    exact ⟨c, page 'c', ⟨madeC, ⟨_, "c", (delivered before).2.2, by decide +kernel,
      by decide +kernel⟩, fun _ => by decide +kernel⟩, rfl⟩
  obtain ⟨_, first⟩ := fetch_follows_redirects network .alone ⟨"t"⟩ {} "http://8.8.8.8/a"
  obtain ⟨_, two, document⟩ :=
    ((first (page 'a') (by decide +kernel)).1 1 _ _ toSecond).1 (by decide) _ _ final
  obtain ⟨_, third⟩ := fetch_follows_redirects network .alone ⟨"t"⟩ {} "http://8.8.8.8/c"
  obtain ⟨eleven, gone⟩ := (third (page 'c') (by decide +kernel)).2 _ around rfl
  refine ⟨two, document.trans ?_, eleven, gone⟩
  have read : readBody maxContentLength ⟨200, [], none, [[7]], .complete⟩ = .ok [7] :=
    readBody_eq_ok_iff.mpr ⟨rfl, by decide, fun _ h => absurd h (Option.not_mem_none _), rfl⟩
  have written : (page 'b').text = "http://8.8.8.8/b" := by decide +kernel
  rw [documentOf_of_body read, if_pos (.inl rfl), urlB, written]
  rfl

end

end PageExtract
