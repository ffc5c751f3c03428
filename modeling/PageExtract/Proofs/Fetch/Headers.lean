import PageExtract.Client
import PageExtract.Proofs.Fetch.Redirects

/-!
# The header lines of requests

All requests of a course have the same header lines: those of the caller and the two defaults, each
unless the caller names it (`Headers.mem_lines_iff`).  Only the line that stands for the user name
and the password in a URL differs from request to request, since it comes from the URL that the
request is made for (`Request.perm_headers_of_make?`).

Whether a request can be made does not depend on its URL.  So headers that cannot be sent end a
course before its first request (`fetch_of_not_sendable`).

The lines of a request are sorted, and so the order in which the headers were put together does not
show (`Request.make?_perm`).  A course knows its headers from the requests alone, and goes the same
way in every order (`fetch_headers_congr`).
-/

namespace PageExtract

/-! ## Lines -/

namespace Headers

/-- Whether the headers of a caller can be sent. -/
def Sendable (h : Headers) : Prop :=
  ∀ entry ∈ h.entries, isHeaderName entry.1 = true ∧ isHeaderValue entry.2 = true

/-- The headers of a caller, with their names in lower case. -/
def lowered (h : Headers) : List (String × String) :=
  h.entries.map fun (name, value) => (Text.asciiLower name, value)

/-- The header lines that every request has. -/
def lines (client : HttpClient) (h : Headers) : List String :=
  h.lowered.map (fun (name, value) => headerLine name value) ++
    (defaultLine h.lowered "accept" "*/*" ++ defaultLine h.lowered "user-agent" client.userAgent)

/-- Whether the caller names a header, in letters of any case. -/
def Names (h : Headers) (name : String) : Prop :=
  ∃ entry ∈ h.entries, Text.asciiLower entry.1 = name

theorem any_lowered_iff (h : Headers) (name : String) :
    (h.lowered.any fun entry => entry.1 == name) = true ↔ h.Names name := by
  simp [lowered, Names, List.any_map]

/-- A default stands among the lines unless the caller names it. -/
theorem mem_defaultLine_iff (h : Headers) (name value line : String) :
    line ∈ defaultLine h.lowered name value ↔ line = headerLine name value ∧ ¬ h.Names name := by
  rw [← any_lowered_iff, defaultLine]
  split
  next named => simp [named]
  next unnamed => simp [unnamed]

/-- The lines of every request are those of the caller's headers and the defaults that the caller
does not name. -/
theorem mem_lines_iff (client : HttpClient) (h : Headers) (line : String) :
    line ∈ h.lines client ↔
      (∃ entry ∈ h.entries, line = headerLine (Text.asciiLower entry.1) entry.2) ∨
      (line = headerLine "accept" "*/*" ∧ ¬ h.Names "accept") ∨
      (line = headerLine "user-agent" client.userAgent ∧ ¬ h.Names "user-agent") := by
  rw [lines, List.mem_append, List.mem_append, mem_defaultLine_iff, mem_defaultLine_iff]
  simp [lowered, @eq_comm _ _ line]

end Headers

/-- The header line that stands for the user name and the password in a URL, if it has any. -/
def Url.authorizationLines (u : Url) : List String :=
  u.credentials?.toList.map fun c => headerLine "authorization" (authorization c)

/-! ## Requests -/

section

variable {client : HttpClient} {headers : Headers} {url : Url}

theorem sendable_iff : (headers.entries.all fun (name, value) =>
    isHeaderName name && isHeaderValue value) = true ↔ headers.Sendable := by
  simp [Headers.Sendable]

theorem Request.make?_eq_none_iff :
    Request.make? client headers url = none ↔ ¬ headers.Sendable := by
  rw [← sendable_iff, Request.make?]
  split
  next sendable => simp [sendable]
  next refused => simp [refused]

theorem Request.make?_of_sendable (sendable : headers.Sendable) :
    Request.make? client headers url =
      some ⟨if url.credentials?.isSome then url.withoutUserinfo else url,
        (url.authorizationLines ++ headers.lines client).mergeSort fun a b => decide (a ≤ b)⟩ := by
  rw [Request.make?, if_pos (sendable_iff.mpr sendable)]
  simp only [Url.authorizationLines, Headers.lines, Headers.lowered, List.append_assoc]

/-- The lines of a request are the one that its URL asks for and those that every request has. -/
theorem Request.perm_headers_of_make? {request : Request}
    (h : Request.make? client headers url = some request) :
    request.headers.Perm (url.authorizationLines ++ headers.lines client) := by
  by_cases sendable : headers.Sendable
  · rw [Request.make?_of_sendable sendable] at h
    obtain rfl := Option.some.inj h
    exact List.mergeSort_perm _ _
  · rw [Request.make?_eq_none_iff.mpr sendable] at h
    cases h

/-- Texts in order are in one order only. -/
theorem mergeSort_eq_of_perm {lines others : List String} (h : lines.Perm others) :
    (lines.mergeSort fun a b => decide (a ≤ b)) = others.mergeSort fun a b => decide (a ≤ b) := by
  have sorted (l : List String) :
      (l.mergeSort fun a b => decide (a ≤ b)).Pairwise fun a b => a ≤ b := by
    refine (List.pairwise_mergeSort ?_ ?_ l).imp of_decide_eq_true
    · intro a b c ab bc
      exact decide_eq_true (String.le_trans (of_decide_eq_true ab) (of_decide_eq_true bc))
    · intro a b
      simpa using String.le_total a b
  refine List.Perm.eq_of_pairwise (fun _ _ _ _ => String.le_antisymm) (sorted lines)
    (sorted others) ?_
  exact (List.mergeSort_perm lines _).trans (h.trans (List.mergeSort_perm others _).symm)

theorem Headers.perm_lines {entries others : List (String × String)} (h : entries.Perm others) :
    (Headers.lines client ⟨entries⟩).Perm (Headers.lines client ⟨others⟩) := by
  have lowered : (Headers.lowered ⟨entries⟩).Perm (Headers.lowered ⟨others⟩) := h.map _
  have default (name value : String) :
      defaultLine (Headers.lowered ⟨entries⟩) name value =
        defaultLine (Headers.lowered ⟨others⟩) name value := by
    rw [defaultLine, defaultLine, lowered.any_eq]
  rw [lines, lines, default, default]
  exact (lowered.map _).append_right _

/-- The order of the headers does not show in a request. -/
theorem Request.make?_perm {entries others : List (String × String)} (h : entries.Perm others) :
    Request.make? client ⟨entries⟩ url = Request.make? client ⟨others⟩ url := by
  have same : Headers.Sendable ⟨entries⟩ ↔ Headers.Sendable ⟨others⟩ := by
    simp [Headers.Sendable, h.mem_iff]
  by_cases sendable : Headers.Sendable ⟨entries⟩
  · have lines : (Headers.lines client ⟨entries⟩).Perm (Headers.lines client ⟨others⟩) :=
      Headers.perm_lines h
    rw [make?_of_sendable sendable, make?_of_sendable (same.mp sendable),
      mergeSort_eq_of_perm (lines.append_left url.authorizationLines)]
  · rw [make?_eq_none_iff.mpr sendable, make?_eq_none_iff.mpr (fun h => sendable (same.mpr h))]

end

/-! ## Courses -/

section

variable (network : Network) (resolve : Resolver) (client : HttpClient)

/-- A course knows its headers from the requests alone. -/
theorem follow_headers_congr {headers others : Headers}
    (same : ∀ url, Request.make? client headers url = Request.make? client others url)
    (allowPrivate anyStatus : Bool) (more : Nat) (url : Url) :
    follow network resolve client ⟨headers, allowPrivate, anyStatus⟩ more url =
      follow network resolve client ⟨others, allowPrivate, anyStatus⟩ more url := by
  induction more generalizing url with
  | zero => rfl
  | succ more ih =>
    have sent : send network client headers url = send network client others url := by
      rw [send, send, same]
    rw [follow, follow, sent]
    refine bind_congr fun answer => ?_
    obtain ⟨request, reply⟩ := answer
    dsimp only
    cases reply.location? with
    | none => rfl
    | some location => exact bind_congr ih

theorem fetch_headers_congr {headers others : Headers}
    (same : ∀ url, Request.make? client headers url = Request.make? client others url)
    (allowPrivate anyStatus : Bool) (text : String) :
    fetch network resolve client ⟨headers, allowPrivate, anyStatus⟩ text =
      fetch network resolve client ⟨others, allowPrivate, anyStatus⟩ text := by
  have course : fetchCourse network resolve client ⟨headers, allowPrivate, anyStatus⟩ text =
      fetchCourse network resolve client ⟨others, allowPrivate, anyStatus⟩ text := by
    rw [fetchCourse, fetchCourse]
    refine bind_congr fun url => ?_
    rw [follow_headers_congr network resolve client same]
    rfl
  rw [fetch, fetch, course]

/-- Headers that cannot be sent end a course before its first request. -/
theorem fetch_of_not_sendable {options : FetchOptions} {text : String} {url : Url}
    (refused : ¬ options.headers.Sendable) (start : startUrl resolve options text = .ok url) :
    fetch network resolve client options text =
      ⟨.error (FetchFault.badHeader.toFailure text), []⟩ := by
  have unmade : Request.make? client options.headers url = none :=
    Request.make?_eq_none_iff.mpr refused
  rw [fetch_of_start start, after_follow_succ, after_send, unmade]

end

/-- All requests of a course have the lines of the caller's headers and the defaults that the caller
does not name, and besides only the line that stands for the user name and the password in the URL
that the request is made for.  Headers that cannot be sent make fetching fail before the first
request.  The order of the headers changes neither the requests nor what fetching comes to. -/
theorem fetch_sends_headers (network : Network) (resolve : Resolver) (client : HttpClient)
    (options : FetchOptions) (text : String) :
    let outcome := fetch network resolve client options text
    (∃ urls, Linked network client options.headers [] urls outcome.requests ∧
      (∀ url ∈ urls.head?, Url.parse text = .ok (.web url)) ∧
      List.Forall₂ (fun url request => request.headers.Perm
        (url.authorizationLines ++ options.headers.lines client)) urls outcome.requests) ∧
    (∀ line, line ∈ options.headers.lines client ↔
      (∃ entry ∈ options.headers.entries,
        line = headerLine (Text.asciiLower entry.1) entry.2) ∨
      (line = headerLine "accept" "*/*" ∧ ¬ options.headers.Names "accept") ∨
      (line = headerLine "user-agent" client.userAgent ∧
        ¬ options.headers.Names "user-agent")) ∧
    (¬ options.headers.Sendable →
      outcome.requests = [] ∧ (∃ failure, outcome.result = .error failure) ∧
      ∀ url, startUrl resolve options text = .ok url →
        outcome.result = .error (FetchFault.badHeader.toFailure text)) ∧
    (∀ entries, entries.Perm options.headers.entries →
      fetch network resolve client { options with headers := ⟨entries⟩ } text = outcome) ∧
    ∀ (c : Client) (entries : List (String × String)) (detect : Charset.Detector),
      entries.Perm c.options.headers.entries →
        Client.fetchDocument network resolve
            { c with options := { c.options with headers := ⟨entries⟩ } } text detect =
          c.fetchDocument network resolve text detect := by
  intro outcome
  have reorder (http : HttpClient) (headers : Headers) (entries : List (String × String))
      (h : entries.Perm headers.entries) (allowPrivate anyStatus : Bool) :
      fetch network resolve http ⟨⟨entries⟩, allowPrivate, anyStatus⟩ text =
        fetch network resolve http ⟨headers, allowPrivate, anyStatus⟩ text :=
    fetch_headers_congr network resolve http (fun _ => Request.make?_perm h) allowPrivate anyStatus
      text
  refine ⟨?_, options.headers.mem_lines_iff client, ?_, ?_, ?_⟩
  · obtain ⟨urls, linked, first, -⟩ := fetch_linked network resolve client options text
    exact ⟨urls, linked, first, linked.made.imp fun _ _ => Request.perm_headers_of_make?⟩
  · intro refused
    cases start : startUrl resolve options text with
    | error fault =>
      have stopped : outcome = _ := fetch_of_no_start start
      rw [stopped]
      exact ⟨rfl, ⟨_, rfl⟩, nofun⟩
    | ok url =>
      have stopped : outcome = _ := fetch_of_not_sendable network resolve client refused start
      rw [stopped]
      exact ⟨rfl, ⟨_, rfl⟩, fun _ _ => rfl⟩
  · intro entries h
    exact reorder client options.headers entries h options.allowPrivate options.anyStatus
  · intro c entries detect h
    have same := reorder c.http c.options.headers entries h c.options.allowPrivate false
    rw [Client.fetchDocument, Client.fetchDocument]
    exact congrArg
      (fun o => (⟨o.result.map fun page => page.text detect, o.requests⟩ : Outcome String)) same

/-- Two headers whose names differ in case only are sent to both hosts of a redirect, in either
order.  A blank in a name keeps all requests from being sent. -/
theorem fetch_sends_headers_redirect :
    let network : Network := .scripted [.answered ⟨302, [("location", "//9.9.9.9/")], none, [],
      .complete⟩]
    let fetchOf (entries : List (String × String)) :=
      fetch network .alone ⟨"t"⟩ { headers := ⟨entries⟩ } "http://u:p@8.8.8.8/"
    let entries := [("X-A", "1"), ("x-a", "2")]
    let turned := [("x-a", "2"), ("X-A", "1")]
    let blank := [("x a", "1")]
    (fetchOf entries).requests.map (fun r => r.url.text) = ["http://8.8.8.8/", "http://9.9.9.9/"] ∧
      (∀ r ∈ (fetchOf entries).requests, "x-a: 1" ∈ r.headers ∧ "x-a: 2" ∈ r.headers) ∧
      turned.Perm entries ∧ fetchOf turned = fetchOf entries ∧
      ¬ Headers.Sendable ⟨blank⟩ ∧ (fetchOf blank).requests = [] := by
  intro network fetchOf entries turned blank
  have refused : ¬ Headers.Sendable ⟨blank⟩ := by
    rw [← sendable_iff]
    decide +kernel
  have swapped : turned.Perm entries := .swap _ _ _
  obtain ⟨⟨urls, -, -, lines⟩, common, -, reorder, -⟩ :=
    fetch_sends_headers network .alone ⟨"t"⟩ { headers := ⟨entries⟩ } "http://u:p@8.8.8.8/"
  obtain ⟨-, -, stops, -, -⟩ :=
    fetch_sends_headers network .alone ⟨"t"⟩ { headers := ⟨blank⟩ } "http://u:p@8.8.8.8/"
  have both : "x-a: 1" ∈ Headers.lines ⟨"t"⟩ ⟨entries⟩ ∧ "x-a: 2" ∈ Headers.lines ⟨"t"⟩ ⟨entries⟩ :=
    ⟨(common _).mpr (.inl ⟨_, .head _, by decide +kernel⟩),
      (common _).mpr (.inl ⟨_, .tail _ (.head _), by decide +kernel⟩)⟩
  refine ⟨by decide +kernel, ?_, swapped, reorder turned swapped, refused, (stops refused).1⟩
  show ∀ r ∈ (fetch network .alone ⟨"t"⟩ { headers := ⟨entries⟩ } "http://u:p@8.8.8.8/").requests,
    "x-a: 1" ∈ r.headers ∧ "x-a: 2" ∈ r.headers
  generalize (fetch network .alone ⟨"t"⟩ { headers := ⟨entries⟩ } "http://u:p@8.8.8.8/").requests =
    requests at lines
  induction lines with
  | nil => exact fun _ h => nomatch h
  | cons first _ ih =>
    refine List.forall_mem_cons.mpr ⟨⟨first.mem_iff.mpr ?_, first.mem_iff.mpr ?_⟩, ih⟩
    · exact List.mem_append_right _ both.1
    · exact List.mem_append_right _ both.2

end PageExtract
