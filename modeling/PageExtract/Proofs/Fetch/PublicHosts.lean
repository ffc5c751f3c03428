import PageExtract.Proofs.Fetch.Course
import PageExtract.Proofs.Fetch.Guard

/-!
# Requests go to public hosts

If private networks are not allowed, then no request of a course goes to a
private host, whatever the network answers and wherever redirects lead.  Being
read and being public is what the first URL has and what every hop keeps: a hop
leads to a URL that is read from where the one before it stands, and no URL
passes the guard without a public host.
-/

namespace PageExtract

variable {resolve : Resolver} {options : FetchOptions}

/-- A URL that was read and that a request may be sent to. -/
def Url.MayBeAsked (resolve : Resolver) (u : Url) : Prop :=
  u.host.IsRead ∧ u.host.IsPublic resolve

theorem mayBeAsked_of_startUrl (hguard : options.allowPrivate = false) {text : String} {url : Url}
    (h : startUrl resolve options text = .ok url) : url.MayBeAsked resolve := by
  obtain ⟨hparse, hpass⟩ := startUrl_ok h
  have hread := Url.isRead_of_parse hparse
  exact ⟨hread, (guardHost_eq_ok_iff resolve .start hread).mp (hpass hguard)⟩

theorem mayBeAsked_of_nextHop (hguard : options.allowPrivate = false) {current next : Url}
    {location : String} (hcurrent : current.MayBeAsked resolve)
    (h : nextHop resolve options current location = .ok next) : next.MayBeAsked resolve := by
  obtain ⟨hjoin, hpass⟩ := nextHop_ok h
  have hread := Url.isRead_of_join hcurrent.1 hjoin
  exact ⟨hread, (guardHost_eq_ok_iff resolve .redirect hread).mp (hpass hguard)⟩

/-- Every request of a guarded course goes to a public host. -/
theorem requests_isPublic (network : Network) (client : HttpClient) (text : String)
    (hguard : options.allowPrivate = false) :
    ∀ r ∈ (fetch network resolve client options text).requests, r.url.host.IsPublic resolve := by
  intro r hr
  obtain ⟨u, hu, hmake⟩ := fetch_requests (P := Url.MayBeAsked resolve)
    (fun _ h => mayBeAsked_of_startUrl hguard h)
    (fun _ _ _ hu h => mayBeAsked_of_nextHop hguard hu h) r hr
  rw [host_of_make? hmake]
  exact hu.2

/-- A redirect from an address leads to a name, which is asked since it is public. -/
theorem requests_isPublic_redirect :
    let resolve : Resolver := fun name =>
      if name = ['a', '.', 't', 'e', 's', 't'] then .ok [.v4 (Ipv4.ofOctets [9, 9, 9, 9])]
      else .error "unknown"
    let network : Network := .scripted [.answered
      { status := 302, headers := [("location", "//a.test")], declared := none, chunks := [],
        ending := .complete }]
    let options : FetchOptions := {}
    options.allowPrivate = false ∧
      ∃ r ∈ (fetch network resolve ⟨"t"⟩ options "http://8.8.8.8/").requests,
        r.url.host = .name ['a', '.', 't', 'e', 's', 't'] ∧ r.url.host.IsPublic resolve := by
  intro resolve network options
  have hsent : ∃ r ∈ (fetch network resolve ⟨"t"⟩ options "http://8.8.8.8/").requests,
      r.url.host = .name ['a', '.', 't', 'e', 's', 't'] := by decide +kernel
  obtain ⟨r, hr, hhost⟩ := hsent
  exact ⟨rfl, r, hr, hhost, requests_isPublic network ⟨"t"⟩ "http://8.8.8.8/" rfl r hr⟩

end PageExtract
