import PageExtract.Proofs.Url.Address
import PageExtract.Url.Parser

/-!
# Hosts of URLs

A host that is read is either an address or a domain name, and a domain name is
never read as an address: it has no character that stands between the pieces of a
long one (`IsDomain.ipv6_parse?`), and its last label is no number
(`IsDomain.ipv4_parse?`).

Reading a URL from where another one stands changes what comes before the path
only as a whole.  Either all of it is taken over, or it is read anew
(`Url.site_of_read`).  So what holds of every host that is read holds of the host
of every URL that is reached by links (`Url.isRead_of_join`).
-/

namespace PageExtract

/-! ## Addresses that are read -/

theorem Ip.isDigit_of_hexValue? {c : Char} {d : Nat} (h : hexValue? c = some d) (hd : d < 10) :
    isDigit c = true := by
  unfold hexValue? at h
  split at h
  · next hc => simpa [isDigit] using hc
  · split at h
    · rw [Option.some.injEq] at h
      omega
    · split at h
      · rw [Option.some.injEq] at h
        omega
      · cases h

/-- An octet has digits and nothing else. -/
theorem Ipv4.digits_of_octet? {cs : List Char} {d : Nat} (h : octet? cs = some d) :
    cs ≠ [] ∧ cs.all Ip.isDigit = true := by
  unfold octet? at h
  split at h
  · cases h
  · cases h
  · next hnil _ =>
    refine ⟨hnil, List.all_eq_true.mpr fun c hc => ?_⟩
    split at h
    · obtain ⟨e, he, hlt⟩ := Ip.digit_of_number? (Option.eq_some_of_filter_eq_some h) hc
      exact Ip.isDigit_of_hexValue? he hlt
    · cases h

/-- The last piece of a short address has digits and nothing else. -/
theorem Ipv4.last_of_parse? {cs : List Char} {a : Ipv4} (h : parse? cs = some a) :
    ∃ last, (Text.splitAt '.' cs).getLast? = some last ∧ last ≠ [] ∧
      last.all Ip.isDigit = true := by
  have hne := Text.splitAt_ne_nil '.' cs
  refine ⟨_, List.getLast?_eq_some_getLast hne, ?_⟩
  simp only [parse?] at h
  split at h
  · obtain ⟨numbers, hnumbers, -⟩ := Option.map_eq_some_iff.mp h
    obtain ⟨d, hd⟩ := isSome_of_mapM_eq_some hnumbers _ (List.getLast_mem hne)
    exact digits_of_octet? hd
  · cases h

/-- One group stands for two pieces at most. -/
theorem Ipv6.length_le_of_groups?_singleton {endsHere : Bool} {group : List Char}
    {numbers : List Nat} (h : groups? endsHere [group] = some numbers) : numbers.length ≤ 2 := by
  rw [groups?] at h
  split at h
  · obtain ⟨a, -, rfl⟩ := Option.map_eq_some_iff.mp h
    exact Nat.le_refl 2
  · obtain ⟨d, -, rfl⟩ := Option.map_eq_some_iff.mp h
    exact Nat.le_succ 1

/-! ## Domain names -/

/-- What a domain name is in a URL: it has no character that ends it, and its last
label does not look like a number. -/
structure IsDomain (name : List Char) : Prop where
  /-- No character ends the name. -/
  plain : ∀ c ∈ name, Url.endsDomain c = false
  /-- The last label is no number. -/
  notNumber : Host.endsInNumber name = false

namespace IsDomain

variable {name : List Char}

theorem not_mem (h : IsDomain name) {c : Char} (hc : Url.endsDomain c = true) : c ∉ name := by
  intro hm
  rw [h.plain c hm] at hc
  cases hc

/-- A domain name is not read as a short address. -/
theorem ipv4_parse? (h : IsDomain name) : Ipv4.parse? name = none := by
  by_contra hne
  obtain ⟨a, ha⟩ := Option.ne_none_iff_exists'.mp hne
  obtain ⟨last, hlast, hdigits⟩ := Ipv4.last_of_parse? ha
  have hlabels : Host.labels name = Text.splitAt '.' name := by
    rw [Host.labels, if_neg]
    rw [hlast, Option.some.injEq]
    exact hdigits.1
  have hnumber : Host.endsInNumber name = true := by
    rw [Host.endsInNumber, hlabels, hlast]
    simp [hdigits.1, hdigits.2]
  rw [h.notNumber] at hnumber
  cases hnumber

/-- A domain name is not read as a long address. -/
theorem ipv6_parse? (h : IsDomain name) : Ipv6.parse? name = none := by
  have hcolon : ':' ∉ name := h.not_mem (by decide)
  have hdouble : Ipv6.atDouble? name = none := by
    simpa [Ipv6.atDouble?] using Ipv6.atDouble?_append hcolon []
  have hshort : ∀ all, Ipv6.side? true name = some all → all.length ≠ 8 := by
    intro all hall
    rw [Ipv6.side?, Text.splitAt_of_not_mem hcolon] at hall
    by_cases hempty : name.isEmpty
    · rw [if_pos hempty, Option.some.injEq] at hall
      simp [← hall]
    · rw [if_neg hempty] at hall
      have := Ipv6.length_le_of_groups?_singleton hall
      omega
  rw [Ipv6.parse?, hdouble]
  cases hall : Ipv6.side? true name with
  | none => simp
  | some all => simp [hshort all hall]

/-- A domain name is not read as an address. -/
theorem ip_parse? (h : IsDomain name) : Ip.parse? name = none := by
  rw [Ip.parse?, h.ipv4_parse?, h.ipv6_parse?]
  rfl

end IsDomain

/-! ## Hosts that are read -/

/-- What reading can give as a host: an address, or a name that is a domain name. -/
def Host.IsRead : Host → Prop
  | .name domain => IsDomain domain
  | .address _ => True

/-- A name that is given only if no character ends it is plain. -/
theorem Url.plain_of_bind {given : Option (List Char)} {name : List Char}
    (h : (given.bind fun n => if n.any endsDomain then none else some n) = some name) :
    ∀ c ∈ name, endsDomain c = false := by
  obtain ⟨n, -, h⟩ := Option.bind_eq_some_iff.mp h
  split at h
  · cases h
  · next hplain =>
    rw [Option.some.injEq] at h
    subst h
    simpa using hplain

theorem Url.plain_of_domain? {bytes : List UInt8} {name : List Char}
    (h : domain? bytes = some name) : ∀ c ∈ name, endsDomain c = false := by
  obtain ⟨cs, -, h⟩ := Option.bind_eq_some_iff.mp h
  simp only at h
  split at h
  · exact plain_of_bind h
  · exact plain_of_bind h

theorem Host.isRead_of_parse {cs : List Char} {host : Host} (h : parse cs = .ok host) :
    host.IsRead := by
  unfold parse at h
  split at h
  · unfold parseBracketed at h
    split at h
    · cases h
      trivial
    · cases h
  · split at h
    · cases h
    · next domain hdomain =>
      split at h
      · cases h
      · split at h
        · split at h
          · cases h
            trivial
          · cases h
        · next hnumber =>
          cases h
          exact ⟨Url.plain_of_domain? hdomain, by simpa using hnumber⟩

/-- A name that ends in a number is no domain but an address, whatever the number is written in. -/
example : (Host.parse "017700000001.".toList).toOption.map Host.chars =
    some "127.0.0.1".toList := by decide +kernel

/-! ## What comes before the path -/

/-- The parts of a URL before its path. -/
structure Site where
  /-- The scheme. -/
  scheme : Scheme
  /-- The name of the user. -/
  username : List Char
  /-- The password. -/
  password : Option (List Char)
  /-- The host. -/
  host : Host
  /-- The port, unless it is that of the scheme. -/
  port : Option Nat

namespace Url

/-- What comes before the path of a URL. -/
def site (u : Url) : Site := ⟨u.scheme, u.username, u.password, u.host, u.port⟩

theorem site_withQuery (u : Url) (cs : List Char) : (u.withQuery cs).site = u.site := by
  unfold withQuery
  split <;> rfl

theorem site_withPath (u : Url) (before : List (List Char)) (cs : List Char) :
    (u.withPath before cs).site = u.site := by
  simp only [withPath]
  rw [site_withQuery]
  rfl

/-- What is read from after the slashes: all that comes before the path. -/
theorem site_of_readAuthority {scheme : Scheme} {cs : List Char} {u : Url}
    (h : readAuthority scheme cs = .ok u) :
    ∃ userinfo hostPort host port,
      splitUserinfo (cs.takeWhile (!endsHost ·)) = (userinfo, hostPort) ∧
      Host.parse (splitPort false hostPort).1 = .ok host ∧
      u.site = ⟨scheme, (readUserinfo (userinfo.getD [])).1, (readUserinfo (userinfo.getD [])).2,
        host, port⟩ := by
  cases hsplit : splitUserinfo (cs.takeWhile (!endsHost ·)) with
  | mk userinfo hostPort =>
    simp only [readAuthority, hsplit, bind, Except.bind] at h
    split at h
    · cases h
    · cases hhost : Host.parse (splitPort false hostPort).1 with
      | error fault =>
        rw [hhost] at h
        cases h
      | ok host =>
        rw [hhost] at h
        simp only at h
        cases hport : readPort (some scheme.port) ((splitPort false hostPort).2.getD []) with
        | error fault =>
          rw [hport] at h
          cases h
        | ok port =>
          rw [hport] at h
          refine ⟨userinfo, hostPort, host, port, rfl, hhost, ?_⟩
          simp only at h
          split at h
          · split at h
            · cases h
              exact site_withPath _ _ _
            · cases h
              exact site_withQuery _ _
          · cases h
            rfl

theorem isRead_of_readAuthority {scheme : Scheme} {cs : List Char} {u : Url}
    (h : readAuthority scheme cs = .ok u) : u.host.IsRead := by
  obtain ⟨userinfo, hostPort, host, port, -, hhost, hsite⟩ := site_of_readAuthority h
  have : u.host = host := congrArg Site.host hsite
  rw [this]
  exact Host.isRead_of_parse hhost

/-- Whether some characters are the end of a text after a colon or a slash, as what names the host
is. -/
def IsAfterMark (cs rest : List Char) : Prop :=
  ∃ front c, cs = front ++ c :: rest ∧ (c = ':' ∨ isSlash c = true)

/-- What stands after slashes stands after a mark, if there is a slash or another mark. -/
theorem isAfterMark_dropWhile {c : Char} (mark : c = ':' ∨ isSlash c = true) (cs : List Char) :
    IsAfterMark (c :: cs) (cs.dropWhile isSlash) := by
  induction cs generalizing c with
  | nil => exact ⟨[], c, rfl, mark⟩
  | cons d cs ih =>
    by_cases slash : isSlash d = true
    · obtain ⟨front, e, same, after⟩ := ih (.inr slash)
      rw [List.dropWhile_cons_of_pos slash]
      exact ⟨c :: front, e, congrArg (c :: ·) same, after⟩
    · rw [List.dropWhile_cons_of_neg slash]
      exact ⟨[], c, rfl, mark⟩

theorem IsAfterMark.append {cs rest : List Char} (h : IsAfterMark cs rest) (front : List Char) :
    IsAfterMark (front ++ cs) rest := by
  obtain ⟨inner, c, rfl, mark⟩ := h
  exact ⟨front ++ inner, c, (List.append_assoc ..).symm, mark⟩

/-- What stands after a scheme stands after its colon. -/
theorem eq_append_of_splitScheme? {cs name rest : List Char}
    (h : splitScheme? cs = some (name, rest)) : ∃ front, cs = front ++ ':' :: rest := by
  unfold splitScheme? at h
  split at h
  · cases h
  · split at h
    · split at h
      · next c _ _ _ hcolon =>
        cases h
        exact ⟨_, hcolon ▸ (List.takeWhile_append_dropWhile).symm⟩
      · cases h
    · cases h

/-- A text without a scheme is read from slashes on, or it takes over all that comes
before the path. -/
theorem site_of_readRelative {base u : Url} {cs : List Char} (h : readRelative base cs = .ok u) :
    u.site = base.site ∨ ∃ rest, IsAfterMark cs rest ∧ readAuthority base.scheme rest = .ok u := by
  unfold readRelative at h
  split at h
  · cases h
    exact Or.inl rfl
  · next c rest =>
    split at h
    · next hslash =>
      split at h
      · split at h
        · refine Or.inr ⟨_, ?_, h⟩
          rw [List.dropWhile_cons_of_pos hslash]
          exact isAfterMark_dropWhile (Or.inr hslash) _
        · cases h
          exact Or.inl (site_withPath _ _ _)
      · cases h
        exact Or.inl (site_withPath _ _ _)
    · split at h
      · cases h
        exact Or.inl (site_withQuery _ _)
      · split at h
        · cases h
          exact Or.inl rfl
        · cases h
          exact Or.inl (site_withPath _ _ _)

/-- A URL of the web takes over all that comes before the path, or all of it is read from what
stands after a scheme or slashes. -/
theorem site_of_read {base : Option Url} {text : String} {u : Url}
    (h : read base text = .ok (.web u)) :
    (∃ b, base = some b ∧ u.site = b.site) ∨
      ∃ scheme rest, IsAfterMark (clean text.toList) rest ∧ readAuthority scheme rest = .ok u := by
  simp only [read, bind, Except.bind] at h
  split at h
  · next name rest hscheme =>
    obtain ⟨front, hfront⟩ := eq_append_of_splitScheme? hscheme
    have hafter : IsAfterMark (clean text.toList) (rest.dropWhile isSlash) :=
      hfront ▸ (isAfterMark_dropWhile (Or.inl rfl) rest).append front
    split at h
    · split at h
      · cases h
      · cases h
    · next scheme =>
      split at h
      · next b =>
        split at h
        · split at h
          · cases h
          · next v hv =>
            cases h
            rcases site_of_readRelative hv with hs | ⟨inner, hinner, hr⟩
            · exact Or.inl ⟨b, rfl, hs⟩
            · refine Or.inr ⟨_, inner, ?_, hr⟩
              rw [hfront, List.append_cons]
              exact hinner.append _
        · split at h
          · cases h
          · next v hv =>
            cases h
            exact Or.inr ⟨_, _, hafter, hv⟩
      · split at h
        · cases h
        · next v hv =>
          cases h
          exact Or.inr ⟨_, _, hafter, hv⟩
  · split at h
    · next b =>
      split at h
      · cases h
      · next v hv =>
        cases h
        rcases site_of_readRelative hv with hs | ⟨rest, hafter, hr⟩
        · exact Or.inl ⟨b, rfl, hs⟩
        · exact Or.inr ⟨_, rest, hafter, hr⟩
    · cases h

/-! ## Links -/

/-- The host of a URL that is read on its own is read. -/
theorem isRead_of_parse {text : String} {u : Url} (h : parse text = .ok (.web u)) :
    u.host.IsRead := by
  rcases site_of_read h with ⟨b, hb, -⟩ | ⟨scheme, rest, -, hr⟩
  · cases hb
  · exact isRead_of_readAuthority hr

/-- The host of a URL that a link leads to is read, if that of the URL with the link is. -/
theorem isRead_of_join {base u : Url} {text : String} (hb : base.host.IsRead)
    (h : base.join text = .ok (.web u)) : u.host.IsRead := by
  rcases site_of_read h with ⟨b, hbase, hs⟩ | ⟨scheme, rest, -, hr⟩
  · cases hbase
    rw [show u.host = base.host from congrArg Site.host hs]
    exact hb
  · exact isRead_of_readAuthority hr

end Url

end PageExtract
