import PageExtract.Proofs.Fetch.Failures
import PageExtract.Proofs.Fetch.Options
import PageExtract.Proofs.Fetch.PublicHosts

/-!
# Hosts that are addresses

However the host of a URL was spelled, once it was read as an address the guard reads the same
address from it again (`Host.parse?_bare`).  So the guard judges the address itself and never takes
it for a name: whatever looking up a name does, on an address the guard does nothing at all
(`guardAsking_address`).

A course that meets a private address stops there.  One that meets an address that is not private
goes on, and if it is refused after all, then it is refused elsewhere: the next request that it
sends goes to that address (`Meets.passed`, `Asks.prefix_requests`).
-/

namespace PageExtract

/-! ## Going on from an address -/

variable {network : Network} {resolve : Resolver} {client : HttpClient} {options : FetchOptions}
  {text : String} {url last : Url} {sent : List Request} {request : Request} {hop : Hop}

/-- The URL that a text is, is met before any request. -/
theorem meets_of_parse (parsed : Url.parse text = .ok (.web url)) :
    Meets network resolve client options text .start url [] := by
  refine .start ?_ parsed
  rintro rfl
  exact nomatch (show Url.parse "" = _ from rfl).symm.trans parsed

/-- A course goes on from a URL that passes the guard, unless there were too many redirects. -/
theorem Meets.passed (meets : Meets network resolve client options text hop url sent)
    (passes : guardHost resolve hop url.host = .ok ()) :
    Stands network resolve client options text url sent ∨
      Fails network resolve client options text .tooManyRedirects sent := by
  cases meets with
  | start nonempty web =>
    exact .inl ⟨url, 0, startUrl_eq_ok_iff.mpr ⟨⟨nonempty, web⟩, fun _ => passes⟩, .here,
      Nat.zero_le _⟩
  | redirect asks points joined =>
    obtain ⟨⟨first, k, start, chain, few⟩, made⟩ := asks
    obtain ⟨reply, answered, place⟩ := points
    have longer := chain.snoc ⟨made, ⟨reply, _, answered, place, joined⟩, fun _ => passes⟩
    rcases Nat.lt_or_eq_of_le few with few | rfl
    · exact .inl ⟨first, k + 1, start, longer, few⟩
    · exact .inr (.tooManyRedirects start longer)

/-- What a course sends begins with the requests up to any that it asks. -/
theorem Asks.prefix_requests (asks : Asks network resolve client options text last sent request) :
    sent ++ [request] <+: (fetch network resolve client options text).requests := by
  obtain ⟨⟨url, k, start, chain, few⟩, made⟩ := asks
  have steps : maxRedirects + 1 = maxRedirects - k + 1 + k := by omega
  rw [requests_of_start start, steps, chain.after_follow, after_follow_succ, after_send, made]
  dsimp only
  cases (network.deliver sent request).toReply request with
  | error fault => exact List.prefix_rfl
  | ok answer =>
    dsimp only
    cases answer.2.location? with
    | none => exact List.prefix_rfl
    | some location =>
      dsimp only
      cases nextHop resolve options last location with
      | error fault => exact List.prefix_rfl
      | ok next => exact adds_follow network resolve client options _ next _

/-! ## Refusals -/

/-- Fetching fails in one way only. -/
theorem Fails.kind_eq {fault : FetchFault} {kind : FailureKind}
    (fails : Fails network resolve client options text fault sent)
    (failed : (fetch network resolve client options text).FailsAs kind) : fault.kind = kind := by
  obtain ⟨failure, same, rfl⟩ := failed
  rw [fails.fetch_eq] at same
  exact congrArg Failure.kind (Except.error.inj same)

/-- A guarded course that meets an address that is not private asks it before it is refused. -/
theorem Meets.asked {ip : Ip} (meets : Meets network resolve client options text hop url sent)
    (address : url.host = .address ip) (visible : ip.isPrivate = false)
    (refused : (fetch network resolve client options text).FailsAs .blocked) :
    ∃ request ∈ (fetch network resolve client options text).requests.drop sent.length,
      request.url.host = .address ip := by
  have passes : guardHost resolve hop url.host = .ok () := by
    rw [address, guardHost_address, visible]
    rfl
  rcases meets.passed passes with stands | fails
  · cases made : Request.make? client options.headers url with
    | none => exact nomatch (Fails.badHeader stands made).kind_eq refused
    | some request =>
      obtain ⟨rest, all⟩ := Asks.prefix_requests ⟨stands, made⟩
      refine ⟨request, ?_, (host_of_make? made).trans address⟩
      rw [← all, List.append_assoc, List.drop_left]
      exact List.mem_cons_self
  · exact nomatch fails.kind_eq refused

/-- A guarded course asks no private address. -/
theorem host_ne_of_mem_requests {ip : Ip} (guard : options.allowPrivate = false)
    (hidden : ip.isPrivate = true)
    (sends : request ∈ (fetch network resolve client options text).requests) :
    request.url.host ≠ .address ip := by
  obtain ⟨u, asked, made⟩ := fetch_requests (P := Url.MayBeAsked resolve)
    (fun _ h => mayBeAsked_of_startUrl guard h)
    (fun _ _ _ asked h => mayBeAsked_of_nextHop guard asked h) request sends
  intro address
  have isPublic := asked.2
  rw [← host_of_make? made, address] at isPublic
  exact nomatch hidden.symm.trans isPublic

/-- A guarded course that meets a URL with an address for its host, from the start or by a
redirect, is refused there and asks that address nothing exactly if the address is private.  The
guard reads the address that the URL has, and looks up no name. -/
theorem fetch_refuses_addresses (network : Network) (resolve : Resolver) (client : HttpClient)
    (options : FetchOptions) (text : String) (guard : options.allowPrivate = false)
    {hop : Hop} {url : Url} {sent : List Request} {ip : Ip}
    (meets : Meets network resolve client options text hop url sent)
    (address : url.host = .address ip) :
    let outcome := fetch network resolve client options text
    Ip.parse? url.host.bare = some ip ∧
    (∀ {m : Type → Type} [Monad m] (ask : List Char → m (Except String (List Ip))),
      guardAsking ask hop url.host = pure (guardHost resolve hop url.host)) ∧
    (outcome.FailsAs .blocked ∧
      (∀ r ∈ outcome.requests.drop sent.length, r.url.host ≠ .address ip) ↔
        ip.isPrivate = true) ∧
    (ip.isPrivate = true →
      outcome = ⟨.error ((FetchFault.privateHost hop).toFailure text), sent⟩ ∧
        ∀ r ∈ outcome.requests, r.url.host ≠ .address ip) := by
  intro outcome
  have stops (hidden : ip.isPrivate = true) :
      outcome = ⟨.error ((FetchFault.privateHost hop).toFailure text), sent⟩ := by
    refine meets.fetch_eq guard ?_
    rw [address, guardHost_address, hidden]
    rfl
  have spares (hidden : ip.isPrivate = true) :
      ∀ r ∈ outcome.requests, r.url.host ≠ .address ip :=
    fun r sends => host_ne_of_mem_requests guard hidden sends
  refine ⟨?_, ?_, ⟨?_, ?_⟩, fun hidden => ⟨stops hidden, spares hidden⟩⟩
  · rw [address, Host.parse?_bare]
  · intro m _ ask
    rw [address, guardAsking_address, guardHost_address]
  · rintro ⟨refused, unasked⟩
    by_contra visible
    obtain ⟨request, sends, host⟩ := meets.asked address (by simpa using visible) refused
    exact unasked request sends host
  · intro hidden
    refine ⟨⟨_, congrArg Outcome.result (stops hidden), rfl⟩, ?_⟩
    intro r sends
    exact spares hidden r (List.mem_of_mem_drop sends)

/-- An address that is spelled as one number is asked, and a redirect from there to a private one
in brackets is refused. -/
theorem fetch_refuses_addresses_spelled :
    let network : Network :=
      ⟨fun _ _ => .answered ⟨302, [("Location", "//[::ffff:10.0.0.1]/")], none, [], .complete⟩⟩
    let text := "http://134744072/"
    let outcome := fetch network .alone ⟨"t"⟩ {} text
    ∃ request next, Meets network .alone ⟨"t"⟩ {} text .redirect next [request] ∧
      next.host = .address (.v6 (Ipv6.ofPieces [0, 0, 0, 0, 0, 0xFFFF, 0x0A00, 1])) ∧
      outcome.FailsAs .blocked ∧ outcome.requests = [request] ∧
      ∃ r ∈ outcome.requests, r.url.host = .address (.v4 (Ipv4.ofOctets [8, 8, 8, 8])) := by
  intro network text outcome
  let url (ip : Ip) : Url := ⟨.http, [], none, .address ip, none, [[]], none, none⟩
  let shown : Ip := .v4 (Ipv4.ofOctets [8, 8, 8, 8])
  let inner : Ip := .v6 (Ipv6.ofPieces [0, 0, 0, 0, 0, 0xFFFF, 0x0A00, 1])
  obtain ⟨request, made⟩ :
      ∃ request, Request.make? ⟨"t"⟩ .empty (url shown) = some request := ⟨_, rfl⟩
  have first : Meets network .alone ⟨"t"⟩ {} text .start (url shown) [] :=
    meets_of_parse (by decide +kernel)
  have stands : Stands network .alone ⟨"t"⟩ {} text (url shown) [] :=
    ⟨_, 0, by decide +kernel, .here, Nat.zero_le _⟩
  have points : Points network [] request "//[::ffff:10.0.0.1]/" := ⟨_, rfl, by decide +kernel⟩
  have second : Meets network .alone ⟨"t"⟩ {} text .redirect (url inner) [request] :=
    .redirect ⟨stands, made⟩ points (by decide +kernel)
  obtain ⟨-, -, visible, -⟩ := fetch_refuses_addresses network .alone ⟨"t"⟩ {} text rfl first rfl
  obtain ⟨-, -, refused, stops⟩ :=
    fetch_refuses_addresses network .alone ⟨"t"⟩ {} text rfl second rfl
  have hidden : inner.isPrivate = true := by decide
  have blocked := (refused.mpr hidden).1
  have sent : outcome.requests = [request] := congrArg Outcome.requests (stops hidden).1
  refine ⟨request, url inner, second, rfl, blocked, sent, ?_⟩
  by_contra unasked
  exact absurd (visible.mp ⟨blocked, fun r sends host => unasked ⟨r, sends, host⟩⟩) (by decide)

end PageExtract
