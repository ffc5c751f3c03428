import PageExtract.Proofs.Fetch.Body
import PageExtract.Proofs.Fetch.Chain

/-!
# When a document is fetched

A document is fetched exactly if a URL of the web is asked for that passes the guard,
at most ten redirects lead from it to a reply that names no other place, the body of
that reply comes whole and is not too large, and the status of the reply is 200 or
does not matter.

The document has the bytes, the status and the type of that reply.  What the replies
before it hold is not looked at.
-/

namespace PageExtract

/-- How a document is fetched, and which: there is a URL to start from, redirects lead from it to a
last reply, and that reply holds the document. -/
theorem fetch_eq_ok_iff (network : Network) (resolve : Resolver) (client : HttpClient)
    (options : FetchOptions) (text : String) (f : Fetched) :
    (fetch network resolve client options text).result = .ok f ↔
      ∃ url k last sent request reply,
        (text ≠ "" ∧ Url.parse text = .ok (.web url)) ∧
        (options.allowPrivate = false → guardHost resolve .start url.host = .ok ()) ∧
        Chain network resolve client options k url [] last sent ∧ k ≤ 10 ∧
        Arrives network client options sent last request reply ∧
        (reply.ending = .complete ∧ reply.chunks.flatten.length ≤ maxContentLength ∧
          ∀ length ∈ reply.declared, length ≤ maxContentLength) ∧
        (reply.status = 200 ∨ options.anyStatus = true) ∧
        f = {
          status := reply.status
          url := text
          finalUrl := request.url.text
          contentType := (header? reply.headers "content-type").map Text.lower
          body := reply.chunks.flatten } := by
  rw [fetch_result_eq_ok_iff]
  constructor
  · rintro ⟨url, k, last, sent, request, reply, start, chain, few, arrives, document⟩
    obtain ⟨web, passes⟩ := startUrl_eq_ok_iff.mp start
    obtain ⟨body, read, status, rfl⟩ := documentOf_eq_ok_iff.mp document
    obtain ⟨complete, come, said, rfl⟩ := readBody_eq_ok_iff.mp read
    exact ⟨url, k, last, sent, request, reply, web, passes, chain, few, arrives,
      ⟨complete, come, said⟩, status, rfl⟩
  · rintro ⟨url, k, last, sent, request, reply, web, passes, chain, few, arrives,
      ⟨complete, come, said⟩, status, rfl⟩
    have start := startUrl_eq_ok_iff.mpr ⟨web, passes⟩
    have read := readBody_eq_ok_iff.mpr ⟨complete, come, said, rfl⟩
    exact ⟨url, k, last, sent, request, reply, start, chain, few, arrives,
      documentOf_eq_ok_iff.mpr ⟨_, read, status, rfl⟩⟩

/-- A redirect that leads nowhere is the document if its status does not matter. -/
theorem fetch_eq_ok_iff_without_location :
    let network : Network := ⟨fun _ _ =>
      .answered ⟨302, [("Content-Type", "Text/HTML")], some 2, [[7], [8]], .complete⟩⟩
    (fetch network .alone ⟨"t"⟩ { anyStatus := true } "http://8.8.8.8/").result =
      .ok ⟨302, "http://8.8.8.8/", "http://8.8.8.8/", some "text/html", [7, 8]⟩ := by
  intro network
  let url : Url :=
    ⟨.http, [], none, .address (.v4 (Ipv4.ofOctets [8, 8, 8, 8])), none, [[]], none, none⟩
  obtain ⟨request, made, same⟩ : ∃ request, Request.make? ⟨"t"⟩ .empty url = some request ∧
      request.url = url := ⟨_, rfl, rfl⟩
  have written : url.text = "http://8.8.8.8/" := by decide +kernel
  refine (fetch_eq_ok_iff network .alone ⟨"t"⟩ { anyStatus := true } _ _).mpr
    ⟨url, 0, url, [], request, _, ⟨by decide, rfl⟩, fun _ => rfl, .here,
      by decide, ⟨made, rfl, .inr (by decide)⟩, ⟨rfl, by decide, by decide⟩, .inr rfl, ?_⟩
  rw [same, written]
  decide +kernel

end PageExtract
