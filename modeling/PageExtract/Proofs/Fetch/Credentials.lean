import Mathlib.Data.List.TakeWhile
import PageExtract.Proofs.Fetch.Failures
import PageExtract.Proofs.Fetch.Headers

/-!
# Where credentials are sent

A request carries the user name and the password of the URL that it is made for, and these come
before the path.  What comes before the path of a URL is all taken over from the URL that the course
was at before, or all of it is read from the location that led there (`Linked.site_next`).

So along a course each stretch of URLs that take over from one another starts with the URL that was
asked for or with a location (`Linked.site_since`).  All requests of a stretch go to one origin, and
they carry what was written at its start.  Once a redirect has left the origin of the first request,
its user name and password are not sent again unless a location writes them.
-/

namespace PageExtract

/-! ## User names and passwords in texts -/

namespace Url

/-- The scheme, the host and the port that a URL leads to. -/
def origin (u : Url) : Scheme × Host × Nat := (u.scheme, u.host, u.portOrDefault)

theorem origin_of_site {u v : Url} (same : u.site = v.site) : u.origin = v.origin := by
  have scheme : u.scheme = v.scheme := congrArg Site.scheme same
  have host : u.host = v.host := congrArg Site.host same
  have port : u.port = v.port := congrArg Site.port same
  rw [origin, origin, portOrDefault, portOrDefault, scheme, host, port]

theorem credentials?_of_site {u v : Url} (same : u.site = v.site) :
    u.credentials? = v.credentials? := by
  have name : u.username = v.username := congrArg Site.username same
  have password : u.password = v.password := congrArg Site.password same
  rw [credentials?, credentials?, name, password]

/-- Whether a text writes a user name and a password: they stand after the colon of a scheme or
after slashes, before the last at sign of the part that names the host. -/
def WritesCredentials (text : String) (c : List Char × Option (List Char)) : Prop :=
  ∃ rest info host, IsAfterMark (clean text.toList) rest ∧
    rest.takeWhile (!endsHost ·) = info ++ '@' :: host ∧ '@' ∉ host ∧
    ∃ u : Url, (u.username, u.password) = readUserinfo info ∧ u.credentials? = some c

/-- What names the host is cut at its last at sign. -/
theorem eq_append_of_splitUserinfo {cs info host : List Char}
    (h : splitUserinfo cs = (some info, host)) : cs = info ++ '@' :: host ∧ '@' ∉ host := by
  rw [splitUserinfo] at h
  split at h
  next inside =>
    cases h
    have mem : '@' ∈ cs.reverse := List.mem_reverse.mpr (List.contains_iff_mem.mp inside)
    have whole := List.takeWhile_append_dropWhile (p := fun c => decide (c ≠ '@')) (l := cs.reverse)
    cases behind : cs.reverse.dropWhile fun c => decide (c ≠ '@') with
    | nil =>
      have all := List.dropWhile_eq_nil_iff.mp behind '@' mem
      simp at all
    | cons c before =>
      have filled : (cs.reverse.dropWhile fun c => decide (c ≠ '@')) ≠ [] := by
        rw [behind]
        exact List.cons_ne_nil _ _
      have sign := List.head_dropWhile_not _ filled
      simp only [behind, List.head_cons, decide_eq_false_iff_not, not_not] at sign
      subst sign
      rw [behind] at whole
      refine ⟨?_, fun later => ?_⟩
      · have back := congrArg List.reverse whole
        rw [List.reverse_reverse, List.reverse_append, List.reverse_cons, List.append_assoc,
          List.singleton_append] at back
        exact back.symm
      · have other := List.mem_takeWhile_imp (List.mem_reverse.mp later)
        simp at other
  next => cases h

/-- A user name and a password that are read with a host are written before it. -/
theorem writesCredentials_of_readAuthority {text : String} {scheme : Scheme} {rest : List Char}
    {u : Url} {c : List Char × Option (List Char)} (after : IsAfterMark (clean text.toList) rest)
    (h : readAuthority scheme rest = .ok u) (given : u.credentials? = some c) :
    WritesCredentials text c := by
  obtain ⟨userinfo, hostPort, host, port, split, -, site⟩ := site_of_readAuthority h
  have name : u.username = _ := congrArg Site.username site
  have password : u.password = _ := congrArg Site.password site
  cases userinfo with
  | none =>
    rw [credentials?, name, password] at given
    exact nomatch given
  | some info =>
    obtain ⟨cut, last⟩ := eq_append_of_splitUserinfo split
    exact ⟨rest, info, hostPort, after, cut, last, u, Prod.ext name password, given⟩

/-- What comes before the path is taken over, or the location writes it. -/
theorem site_of_join {base next : Url} {location : String}
    (h : base.join location = .ok (.web next)) :
    next.site = base.site ∨ ∀ c, next.credentials? = some c → WritesCredentials location c := by
  rcases site_of_read h with ⟨b, same, site⟩ | ⟨scheme, rest, after, read⟩
  · cases same
    exact .inl site
  · exact .inr fun c => writesCredentials_of_readAuthority after read

end Url

/-! ## Lines -/

theorem eq_of_prefix_colon {name key more : List Char} (plain : ':' ∉ name) (plain' : ':' ∉ key)
    (h : key ++ [':'] <+: name ++ ':' :: more) : name = key := by
  have upTo {cs : List Char} (plain : ':' ∉ cs) (after : List Char) :
      (cs ++ ':' :: after).takeWhile (· ≠ ':') = cs := by
    rw [List.takeWhile_append_of_pos, List.takeWhile_cons_of_neg, List.append_nil]
    · simp
    · intro c mem
      rw [decide_eq_true_eq]
      rintro rfl
      exact plain mem
  obtain ⟨after, same⟩ := h
  rw [List.append_assoc, List.singleton_append] at same
  rw [← upTo plain more, ← same, upTo plain' after]

theorem colon_not_mem_asciiLower {name : String} (h : isHeaderName name = true) :
    ':' ∉ (Text.asciiLower name).toList := by
  rw [Text.asciiLower, String.toList_ofList, List.mem_map]
  rintro ⟨c, mem, colon⟩
  have allowed := List.all_eq_true.mp (Bool.and_eq_true_iff.mp h).2 c mem
  rcases Text.toLower_cases c with same | ⟨_, small⟩
  · obtain rfl : c = ':' := same.symm.trans colon
    exact absurd allowed (by decide)
  · rw [colon] at small
    have : ':'.toNat = 58 := rfl
    omega

/-- The start of the header line that stands for a user name and a password. -/
def authorizationStart : List Char := "authorization:".toList

/-- Only the line of a header has its name. -/
theorem eq_of_authorizationStart {name value : String} (plain : ':' ∉ name.toList)
    (h : authorizationStart <+: (headerLine name value).toList) : name = "authorization" := by
  rw [headerLine, String.toList_append, String.toList_append, List.append_assoc] at h
  exact String.toList_inj.mp (eq_of_prefix_colon plain (by decide) h)

theorem authorizationStart_headerLine (value : String) :
    authorizationStart <+: (headerLine "authorization" value).toList := by
  rw [headerLine, String.toList_append, String.toList_append, List.append_assoc]
  exact List.prefix_append _ _

/-- The lines that all requests have name no credentials, unless the caller does. -/
theorem Headers.not_authorizationStart {client : HttpClient} {headers : Headers} {line : String}
    (sendable : headers.Sendable) (unnamed : ¬ headers.Names "authorization")
    (mem : line ∈ headers.lines client) : ¬ authorizationStart <+: line.toList := by
  intro starts
  rcases (headers.mem_lines_iff client line).mp mem with
    ⟨entry, inside, rfl⟩ | ⟨rfl, -⟩ | ⟨rfl, -⟩
  · have name := eq_of_authorizationStart (colon_not_mem_asciiLower (sendable entry inside).1) starts
    exact unnamed ⟨entry, inside, name⟩
  · exact absurd (eq_of_authorizationStart (by decide) starts) (by decide)
  · exact absurd (eq_of_authorizationStart (by decide) starts) (by decide)

/-- If the caller names no credentials, then a request carries those of the URL that it is made
for. -/
theorem Request.exists_credentials {client : HttpClient} {headers : Headers} {url : Url}
    {request : Request} {line : String} (made : Request.make? client headers url = some request)
    (unnamed : ¬ headers.Names "authorization") (mem : line ∈ request.headers)
    (starts : authorizationStart <+: line.toList) :
    ∃ c, url.credentials? = some c ∧ line = headerLine "authorization" (authorization c) := by
  have sendable : headers.Sendable := by
    by_contra refused
    rw [Request.make?_eq_none_iff.mpr refused] at made
    cases made
  rcases List.mem_append.mp ((perm_headers_of_make? made).mem_iff.mp mem) with own | common
  · obtain ⟨c, given, rfl⟩ := List.mem_map.mp own
    exact ⟨c, Option.mem_toList.mp given, rfl⟩
  · exact absurd starts (Headers.not_authorizationStart sendable unnamed common)

theorem origin_of_make? {client : HttpClient} {headers : Headers} {url : Url} {request : Request}
    (made : Request.make? client headers url = some request) : request.url.origin = url.origin := by
  have plain (u : Url) : u.withoutUserinfo.origin = u.origin := rfl
  rw [← plain, withoutUserinfo_of_make? made, plain]

/-! ## Along a course -/

/-- Whether the reply to a request, given by its number, leads to a place. -/
def Receives (network : Network) (requests : List Request) (k : Nat) (location : String) : Prop :=
  ∃ request, requests[k]? = some request ∧ Points network (requests.take k) request location

section

variable {network : Network} {client : HttpClient} {headers : Headers} {urls : List Url}
  {requests : List Request}

/-- What comes before the path of the next URL is taken over, or the location that leads there
writes it. -/
theorem Linked.site_next (linked : Linked network client headers [] urls requests) {i : Nat}
    {url next : Url} (here : urls[i]? = some url) (there : urls[i + 1]? = some next) :
    next.site = url.site ∨ ∃ location, Receives network requests i location ∧
      ∀ c, next.credentials? = some c → Url.WritesCredentials location c := by
  obtain ⟨request, reply, location, sent, answered, status, named, joined⟩ :=
    linked.next i url next here there
  rcases Url.site_of_join joined with same | written
  · exact .inl same
  · have place := Reply.location?_eq_some_iff.mpr ⟨status, named⟩
    exact .inr ⟨location, ⟨request, sent, reply, answered, place⟩, written⟩

/-- What comes before the path of a URL is that of all URLs since the first, or since a location
that writes it. -/
theorem Linked.site_since (linked : Linked network client headers [] urls requests) {i : Nat}
    {url : Url} (here : urls[i]? = some url) :
    ∃ since ≤ i, (∀ m u, since ≤ m → m ≤ i → urls[m]? = some u → u.site = url.site) ∧
      (since = 0 ∨ ∃ k location, since = k + 1 ∧ Receives network requests k location ∧
        ∀ c, url.credentials? = some c → Url.WritesCredentials location c) := by
  have alone {since i : Nat} {url : Url} (start : since = i) (here : urls[i]? = some url) :
      ∀ m u, since ≤ m → m ≤ i → urls[m]? = some u → u.site = url.site := by
    intro m u low high at_m
    obtain rfl : m = i := by omega
    rw [Option.some.inj (at_m.symm.trans here)]
  induction i generalizing url with
  | zero => exact ⟨0, Nat.le_refl 0, alone rfl here, .inl rfl⟩
  | succ i ih =>
    have bound : i < urls.length := Nat.lt_of_succ_lt (List.getElem?_eq_some_iff.mp here).1
    have before : urls[i]? = some urls[i] := List.getElem?_eq_getElem bound
    rcases linked.site_next before here with same | ⟨location, receives, written⟩
    · obtain ⟨since, le, stretch, start⟩ := ih before
      refine ⟨since, Nat.le_succ_of_le le, fun m u low high at_m => ?_, ?_⟩
      · rcases Nat.le_succ_iff.mp high with high | rfl
        · exact (stretch m u low high at_m).trans same.symm
        · rw [Option.some.inj (at_m.symm.trans here)]
      · rw [Url.credentials?_of_site same]
        exact start
    · exact ⟨i + 1, Nat.le_refl _, alone rfl here, .inr ⟨i, location, rfl, receives, written⟩⟩

/-- The URL that a request, given by its number, is made for. -/
theorem Linked.exists_url (linked : Linked network client headers [] urls requests) {i : Nat}
    {request : Request} (sent : requests[i]? = some request) :
    ∃ url, urls[i]? = some url ∧ Request.make? client headers url = some request := by
  obtain ⟨bound, same⟩ := List.getElem?_eq_some_iff.mp sent
  have bound' : i < urls.length := linked.made.length_eq ▸ bound
  refine ⟨urls[i], List.getElem?_eq_getElem bound', ?_⟩
  rw [← same]
  exact (List.forall₂_iff_get.mp linked.made).2 i bound' bound

end

/-! ## Fetching -/

/-- The credentials that a request carries were written where its stretch starts: in the URL that was
asked for, or in a location. -/
theorem exists_written_of_fetch {network : Network} {resolve : Resolver} {client : HttpClient}
    {options : FetchOptions} {text : String} {url : Url}
    (parsed : Url.parse text = .ok (.web url))
    (unnamed : ¬ options.headers.Names "authorization") {requests : List Request}
    (fetched : (fetch network resolve client options text).requests = requests) {i : Nat}
    {request : Request} (sent : requests[i]? = some request) {line : String}
    (mem : line ∈ request.headers) (starts : authorizationStart <+: line.toList) :
    ∃ c, line = headerLine "authorization" (authorization c) ∧
      ((url.credentials? = some c ∧
          ∀ m r, m ≤ i → requests[m]? = some r → r.url.origin = url.origin) ∨
        ∃ k location, k < i ∧ Receives network requests k location ∧
          Url.WritesCredentials location c ∧
          ∀ m r, k < m → m ≤ i → requests[m]? = some r → r.url.origin = request.url.origin) := by
  obtain ⟨urls, linked, first, -⟩ := fetch_linked network resolve client options text
  rw [fetched] at linked
  obtain ⟨last, here, made⟩ := linked.exists_url sent
  obtain ⟨c, given, rfl⟩ := Request.exists_credentials made unnamed mem starts
  obtain ⟨since, le, stretch, start⟩ := linked.site_since here
  have origin {m : Nat} {r : Request} (low : since ≤ m) (high : m ≤ i)
      (at_m : requests[m]? = some r) : r.url.origin = last.origin := by
    obtain ⟨u, asked, made⟩ := linked.exists_url at_m
    rw [origin_of_make? made, Url.origin_of_site (stretch m u low high asked)]
  refine ⟨c, rfl, ?_⟩
  rcases start with rfl | ⟨k, location, rfl, receives, written⟩
  · have bound : 0 < urls.length := Nat.zero_lt_of_lt (List.getElem?_eq_some_iff.mp here).1
    have asked : urls[0]? = some urls[0] := List.getElem?_eq_getElem bound
    have read := first urls[0] (List.head?_eq_getElem?.trans asked)
    rw [parsed] at read
    cases read
    have site : urls[0].site = last.site := stretch 0 urls[0] (Nat.le_refl 0) le asked
    refine .inl ⟨(Url.credentials?_of_site site).trans given, fun m r high at_m => ?_⟩
    rw [origin (Nat.zero_le m) high at_m, Url.origin_of_site site]
  · refine .inr ⟨k, location, le, receives, written c given, fun m r low high at_m => ?_⟩
    rw [origin low high at_m, origin_of_make? made]

/-- If the caller names no credentials, then a request carries those of the URL that was asked for
only if it and all requests before it go to the origin of that URL, and those that a location writes
only if all requests since go to one origin.  So after a request that went elsewhere the
credentials of the URL that was asked for are sent only if a location writes them. -/
theorem fetch_keeps_credentials (network : Network) (resolve : Resolver) (client : HttpClient)
    (options : FetchOptions) (text : String) {url : Url}
    (parsed : Url.parse text = .ok (.web url))
    (unnamed : ¬ options.headers.Names "authorization") :
    let requests := (fetch network resolve client options text).requests
    ∀ i request, requests[i]? = some request →
      (∀ line ∈ request.headers, authorizationStart <+: line.toList →
        ∃ c, line = headerLine "authorization" (authorization c) ∧
          ((url.credentials? = some c ∧
              ∀ m r, m ≤ i → requests[m]? = some r → r.url.origin = url.origin) ∨
            ∃ k location, k < i ∧ Receives network requests k location ∧
              Url.WritesCredentials location c ∧
              ∀ m r, k < m → m ≤ i → requests[m]? = some r →
                r.url.origin = request.url.origin)) ∧
      ∀ j r own, j ≤ i → requests[j]? = some r → r.url.origin ≠ url.origin →
        url.credentials? = some own →
        headerLine "authorization" (authorization own) ∈ request.headers →
        ∃ k location c, k < i ∧ Receives network requests k location ∧
          Url.WritesCredentials location c ∧
          headerLine "authorization" (authorization c) =
            headerLine "authorization" (authorization own) := by
  intro requests i request sent
  have written {line : String} (mem : line ∈ request.headers)
      (starts : authorizationStart <+: line.toList) :=
    exists_written_of_fetch parsed unnamed rfl sent mem starts
  refine ⟨fun line mem starts => written mem starts, fun j r own le left elsewhere given mem => ?_⟩
  obtain ⟨c, same, ⟨-, stays⟩ | ⟨k, location, few, receives, written, -⟩⟩ :=
    written mem (authorizationStart_headerLine _)
  · exact absurd (stays j r le left) elsewhere
  · exact ⟨k, location, c, few, receives, written, same.symm⟩

/-- A redirect stays at a host and another repeats the user name and the password for the next
host. -/
theorem fetch_keeps_credentials_repeated :
    let reply (location : String) : Delivery :=
      .answered ⟨302, [("Location", location)], none, [], .complete⟩
    let network : Network := ⟨fun _ r =>
      if r.url.path = [['a']] then reply "b"
      else if r.url.path = [['b']] then reply "//u:p@9.9.9.9/c"
      else .answered ⟨200, [], none, [], .complete⟩⟩
    let requests := (fetch network .alone ⟨"t"⟩ {} "http://u:p@8.8.8.8/a").requests
    requests.map (fun r => r.url.text) =
        ["http://8.8.8.8/a", "http://8.8.8.8/b", "http://9.9.9.9/c"] ∧
      ¬ Headers.empty.Names "authorization" ∧
      (∀ r ∈ requests, "authorization: Basic dTpw" ∈ r.headers) ∧
      ∃ k location c, k < 2 ∧ Receives network requests k location ∧
        Url.WritesCredentials location c ∧
        headerLine "authorization" (authorization c) = "authorization: Basic dTpw" := by
  intro reply network requests
  let url (octet : Nat) (c : Char) : Url :=
    ⟨.http, ['u'], some ['p'], .address (.v4 (Ipv4.ofOctets [octet, octet, octet, octet])), none,
      [[c]], none, none⟩
  have unnamed : ¬ Headers.empty.Names "authorization" := by
    rintro ⟨entry, mem, -⟩
    exact nomatch mem
  have line : headerLine "authorization" (authorization (['u'], some ['p'])) =
      "authorization: Basic dTpw" := by decide +kernel
  have asked (octet : Nat) (c : Char) :
      ∃ request, Request.make? ⟨"t"⟩ .empty (url octet c) = some request ∧
        request.url = (url octet c).withoutUserinfo ∧
        "authorization: Basic dTpw" ∈ request.headers := by
    have given : (url octet c).credentials? = some (['u'], some ['p']) := by rfl
    have sendable : Headers.empty.Sendable := fun entry mem => nomatch mem
    refine ⟨_, Request.make?_of_sendable sendable, by rw [given]; rfl, ?_⟩
    refine List.mem_mergeSort.mpr (List.mem_append_left _ ?_)
    rw [Url.authorizationLines, given, ← line]
    exact .head _
  obtain ⟨a, madeA, urlA, lineA⟩ := asked 8 'a'
  obtain ⟨b, madeB, urlB, lineB⟩ := asked 8 'b'
  obtain ⟨c, madeC, urlC, lineC⟩ := asked 9 'c'
  have leadsA : network.deliver [] a = reply "b" := by
    simp only [network, urlA]
    rfl
  have leadsB : network.deliver [a] b = reply "//u:p@9.9.9.9/c" := by
    simp only [network, urlB]
    rfl
  have endsC : network.deliver [a, b] c = .answered ⟨200, [], none, [], .complete⟩ := by
    simp only [network, urlC]
    rfl
  have chain : Chain network .alone ⟨"t"⟩ {} 2 (url 8 'a') [] (url 9 'c') [a, b] :=
    .hop ⟨madeA, ⟨_, "b", leadsA, by decide +kernel, by decide +kernel⟩, fun _ => by decide +kernel⟩
      (.hop ⟨madeB, ⟨_, "//u:p@9.9.9.9/c", leadsB, by decide +kernel, by decide +kernel⟩,
        fun _ => by decide +kernel⟩ .here)
  have sent : requests = [a, b, c] := by
    have start : startUrl .alone {} "http://u:p@8.8.8.8/a" = .ok (url 8 'a') := by decide +kernel
    exact congrArg Outcome.requests
      (fetch_of_chain start chain (by decide) ⟨madeC, endsC, .inr rfl⟩)
  have parsed : Url.parse "http://u:p@8.8.8.8/a" = .ok (.web (url 8 'a')) := by decide +kernel
  obtain ⟨-, left⟩ := fetch_keeps_credentials network .alone ⟨"t"⟩ {} _ parsed unnamed 2 c
    (congrArg (·[2]?) sent)
  have elsewhere : c.url.origin ≠ (url 8 'a').origin := by
    rw [urlC]
    decide +kernel
  have again := left 2 c (['u'], some ['p']) (Nat.le_refl 2) (congrArg (·[2]?) sent) elsewhere rfl
    (line ▸ lineC)
  rw [line] at again
  refine ⟨?_, unnamed, ?_, again⟩
  · rw [sent, List.map_cons, List.map_cons, List.map_cons, urlA, urlB, urlC]
    decide +kernel
  · rw [sent]
    exact List.forall_mem_cons.mpr ⟨lineA, List.forall_mem_cons.mpr
      ⟨lineB, List.forall_mem_singleton.mpr lineC⟩⟩

end PageExtract
