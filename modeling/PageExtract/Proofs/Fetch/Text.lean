import PageExtract.Proofs.Charset.Declared
import PageExtract.Proofs.Charset.Utf8
import PageExtract.Proofs.Client
import PageExtract.Proofs.Fetch.Body
import PageExtract.Proofs.Fetch.Chain

/-!
# The text that is sent

A document is *carried* by a reply if its bytes are those of the pieces, in whatever way they
are cut and however the end of the body is told, and all of them come.  The pieces may end in
the middle of a character.

With a type that can be read and declares UTF-8, the bytes of a text read as that text, whatever
detector there is (`Reply.HasType.textOf`), and a body that is carried is read as a whole
(`Reply.Carries.readBody`).  So a text that the last reply of a course carries is the text of the
document that is fetched.  Only a text that starts with U+FEFF is not: there its first character
is taken for a byte order mark.  A type that cannot be read says nothing, and then it is for the
detector to say what the bytes are.
-/

namespace PageExtract

/-! ## The type -/

namespace Charset

/-- The bytes of a text read as that text if UTF-8 is declared, and no detector is asked. -/
theorem textOf_encode {contentType : Option String} {cs : List Char}
    (unmarked : cs.head? ≠ some '\uFEFF') (utf8 : declared? contentType = some .utf8)
    (detect : Detector) : textOf contentType (Utf8.encode cs) detect = String.ofList cs := by
  rw [textOf, ofMark?_encode unmarked, utf8]
  exact congrArg String.ofList (Utf8.decode_encode cs)

end Charset

theorem ascii_of_isReadable {value : String} (h : isReadable value = true) :
    ∀ c ∈ value.toList, c.toNat < 0x80 := by
  intro c mem
  have readable := List.all_eq_true.mp h c mem
  simp only [Bool.or_eq_true, Bool.and_eq_true, decide_eq_true_eq] at readable
  rcases readable with ⟨_, below⟩ | rfl
  · exact Nat.lt_succ_of_lt below
  · decide

namespace Reply

/-- Whether the first type among the headers of a reply is some value, as it is written. -/
def HasType (reply : Reply) (value : String) : Prop :=
  ∃ name, reply.headers.find? (fun (n, _) => Text.asciiLower n == "content-type") =
    some (name, value)

variable {reply : Reply} {value : String}

/-- A type that can be read and declares UTF-8 is the declared type. -/
theorem HasType.declared? (typed : reply.HasType value) (readable : isReadable value = true)
    (utf8 : Charset.DeclaresUtf8 value) :
    Charset.declared? reply.contentType? = some .utf8 := by
  obtain ⟨name, found⟩ := typed
  have declares := Charset.declared?_of_declaresUtf8 (ascii_of_isReadable readable) utf8
  rw [contentType?, header?, found]
  dsimp only
  rwa [if_pos readable, Option.map_some]

/-- With a type that can be read and declares UTF-8 the bytes of a text read as that text. -/
theorem HasType.textOf {content : String} (typed : reply.HasType value)
    (readable : isReadable value = true) (utf8 : Charset.DeclaresUtf8 value)
    (unmarked : content.toList.head? ≠ some '\uFEFF') (detect : Charset.Detector) :
    Charset.textOf reply.contentType? content.toUTF8.data.toList detect = content := by
  have declared := typed.declared? readable utf8
  rw [← Charset.Utf8.encode_toList, Charset.textOf_encode unmarked declared, String.ofList_toList]

end Reply

/-! ## The body -/

/-- How the end of a body is told. -/
inductive Framing where
  /-- Its length is said beforehand. -/
  | length
  /-- It comes in chunks, and the last of them is marked. -/
  | chunked
  /-- The connection is closed. -/
  | close
  deriving DecidableEq, Repr

/-- The length that a body of some bytes is said to have. -/
def Framing.declared (body : List UInt8) : Framing → Option Nat
  | length => some body.length
  | chunked => none
  | close => none

/-- Whether a reply carries a body: its pieces make up the body, all of them come, and nothing
but the length of the body is said to be its length. -/
structure Reply.Carries (reply : Reply) (framing : Framing) (body : List UInt8) : Prop where
  /-- The pieces make up the body. -/
  pieces : reply.chunks.flatten = body
  /-- The framing tells the length or does not. -/
  declared : reply.declared = framing.declared body
  /-- All pieces come. -/
  complete : reply.ending = .complete

/-- A body that is carried is read if it is not too large. -/
theorem Reply.Carries.readBody {reply : Reply} {framing : Framing} {body : List UInt8}
    (h : reply.Carries framing body) {limit : Nat} (small : body.length ≤ limit) :
    readBody limit reply = .ok body := by
  refine readBody_eq_ok_iff.mpr ⟨h.complete, h.pieces.symm ▸ small, ?_, h.pieces.symm⟩
  intro length said
  rw [h.declared] at said
  cases framing with
  | length => exact Option.some.inj said ▸ small
  | chunked => exact nomatch said
  | close => exact nomatch said

/-! ## The text -/

/-- A text that is carried by the reply at the end of at most ten redirects, in any framing and
with a type that can be read and declares UTF-8, is the text of the document for every detector. -/
theorem Client.fetchDocument_carried (network : Network) (resolve : Resolver) (c : Client)
    (text content : String) (framing : Framing) (detect : Charset.Detector) {url last : Url}
    {k : Nat} {sent : List Request} {request : Request} {reply : Reply} {value : String}
    (small : content.utf8ByteSize ≤ maxContentLength)
    (unmarked : content.toList.head? ≠ some '\uFEFF')
    (asked : text ≠ "" ∧ Url.parse text = .ok (.web url))
    (passes : c.options.allowPrivate = false → guardHost resolve .start url.host = .ok ())
    (chain : Chain network resolve c.http c.fetchOptions k url [] last sent) (few : k ≤ 10)
    (made : Request.make? c.http c.options.headers last = some request)
    (answered : network.deliver sent request = .answered reply) (status : reply.status = 200)
    (typed : reply.HasType value) (readable : isReadable value = true)
    (utf8 : Charset.DeclaresUtf8 value)
    (carried : reply.Carries framing content.toUTF8.data.toList) :
    c.fetchDocument network resolve text detect = ⟨.ok content, sent ++ [request]⟩ := by
  have start : startUrl resolve c.fetchOptions text = .ok url :=
    startUrl_eq_ok_iff.mpr ⟨asked, passes⟩
  have arrives : Arrives network c.http c.fetchOptions sent last request reply :=
    ⟨made, answered, .inl fun redirect => by omega⟩
  have read : readBody maxContentLength reply = .ok content.toUTF8.data.toList :=
    carried.readBody small
  have document : documentOf c.fetchOptions text request reply =
      .ok ⟨reply.status, text, request.url.text, reply.contentType?, _⟩ :=
    documentOf_eq_ok_iff.mpr ⟨_, read, .inl status, rfl⟩
  have fetched := fetch_of_chain start chain few arrives
  rw [document] at fetched
  rw [fetchDocument_of_ok (congrArg Outcome.result fetched), congrArg Outcome.requests fetched,
    Fetched.text, typed.textOf readable utf8 unmarked]

/-- A redirect leads to a page in two pieces, the first of which ends in the middle of a
character. -/
theorem Client.fetchDocument_carried_split :
    let type := "text/html; Charset=\"UTF-8\"; charset=latin1"
    let redirect : Delivery := .answered ⟨302, [("Location", "b")], none, [], .complete⟩
    let page : Delivery :=
      .answered ⟨200, [("Content-type", type)], none, [[0x63, 0xC3], [0xA9]], .complete⟩
    let network : Network := ⟨fun _ r => if r.url.path = [['a']] then redirect else page⟩
    let fetched := (Client.mk {} ⟨"t"⟩).fetchDocument network .alone "http://8.8.8.8/a" .plain
    fetched.result = .ok "cé" ∧ fetched.requests.length = 2 := by
  intro type redirect page network fetched
  let url (c : Char) : Url :=
    ⟨.http, [], none, .address (.v4 (Ipv4.ofOctets [8, 8, 8, 8])), none, [[c]], none, none⟩
  have asked (c : Char) : ∃ request, Request.make? ⟨"t"⟩ .empty (url c) = some request ∧
      request.url = url c := ⟨_, rfl, rfl⟩
  obtain ⟨a, madeA, urlA⟩ := asked 'a'
  obtain ⟨b, madeB, urlB⟩ := asked 'b'
  have leads : network.deliver [] a = redirect := by
    simp only [network, urlA]
    rfl
  have answered : network.deliver [a] b = page := by
    simp only [network, urlB]
    rfl
  have chain : Chain network .alone ⟨"t"⟩ {} 1 (url 'a') [] (url 'b') [a] :=
    .hop ⟨madeA, ⟨_, "b", leads, by decide +kernel, rfl⟩, fun _ => rfl⟩ .here
  have utf8 : Charset.DeclaresUtf8 type :=
    ⟨["text/html".toList], " Charset=\"UTF-8\"".toList, [" charset=latin1".toList],
      by decide +kernel, by decide +kernel, by decide +kernel, by decide +kernel⟩
  have given := Client.fetchDocument_carried network .alone (Client.mk {} ⟨"t"⟩)
    "http://8.8.8.8/a" "cé" .chunked .plain (by decide) (by decide) ⟨by decide, rfl⟩ (fun _ => rfl)
    chain (by decide) madeB answered rfl ⟨"Content-type", by decide +kernel⟩ (by decide +kernel)
    utf8 ⟨by decide +kernel, rfl, rfl⟩
  have same : fetched = _ := given
  rw [same]
  exact ⟨rfl, rfl⟩

end PageExtract
