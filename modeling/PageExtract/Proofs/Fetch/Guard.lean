import PageExtract.Proofs.Url.Host
import PageExtract.Fetch.Guard

/-!
# What the guard lets pass

The guard looks at a host as it is written.  On a host that was read this is as
good as looking at the host itself: an address is judged by itself and is not
looked up (`guardAsking_address`), and a name is judged by what it resolves to
(`guardHost_name`).

So what passes are the *public* hosts: nothing private answers for them
(`guardHost_eq_ok_iff`).  A host that does not pass is private, or a name that cannot be
resolved (`guardHost_eq_error_iff`).
-/

namespace PageExtract

/-! ## Brackets -/

theorem dropWhile_eq_of_not_mem {b : Char} {cs : List Char} (h : b ∉ cs) :
    cs.dropWhile (· = b) = cs := by
  cases cs with
  | nil => rfl
  | cons c rest =>
    have : c ≠ b := fun e => h (e ▸ List.mem_cons_self ..)
    simp [this]

/-- What has no brackets stays as it is when those around it are taken away. -/
theorem strip_of_not_mem {cs : List Char} (hl : '[' ∉ cs) (hr : ']' ∉ cs) :
    ((cs.dropWhile (· = '[')).reverse.dropWhile (· = ']')).reverse = cs := by
  rw [dropWhile_eq_of_not_mem hl, dropWhile_eq_of_not_mem (by simpa using hr),
    List.reverse_reverse]

namespace Host

theorem bare_v4 (a : Ipv4) : (address (.v4 a)).bare = a.chars :=
  strip_of_not_mem (a.not_mem_chars (by decide)) (a.not_mem_chars (by decide))

theorem bare_v6 (a : Ipv6) : (address (.v6 a)).bare = a.chars := by
  have hl : '[' ∉ a.chars ++ [']'] := by simp [a.not_mem_chars (c := '[') (by decide)]
  have hr : ']' ∉ a.chars.reverse := by simp [a.not_mem_chars (c := ']') (by decide)]
  have hchars : (address (.v6 a)).chars = '[' :: (a.chars ++ [']']) := rfl
  rw [bare, hchars, List.dropWhile_cons_of_pos (by simp), dropWhile_eq_of_not_mem hl,
    List.reverse_append, List.reverse_singleton, List.singleton_append,
    List.dropWhile_cons_of_pos (by simp), dropWhile_eq_of_not_mem hr, List.reverse_reverse]

theorem bare_name {domain : List Char} (h : IsDomain domain) : (name domain).bare = domain :=
  strip_of_not_mem (h.not_mem (by decide)) (h.not_mem (by decide))

/-- What stands between the brackets of a host is read as its address. -/
theorem parse?_bare (ip : Ip) : Ip.parse? (address ip).bare = some ip := by
  cases ip with
  | v4 a => rw [bare_v4, Ip.parse?, Ipv4.parse?_chars]
  | v6 a =>
    have hv4 : Ipv4.parse? a.chars = none := by
      rw [Ipv4.parse?, Text.splitAt_of_not_mem (a.not_mem_chars (by decide))]
      rfl
    rw [bare_v6, Ip.parse?, hv4, Ipv6.parse?_chars]
    rfl

end Host

/-! ## The guard -/

variable (resolve : Resolver) (hop : Hop)

/-- An address is judged without looking it up. -/
theorem guardAsking_address {m : Type → Type} [Monad m]
    (ask : List Char → m (Except String (List Ip))) (ip : Ip) :
    guardAsking ask hop (.address ip) =
      pure (if ip.isPrivate then .error (.privateHost hop) else .ok ()) := by
  rw [guardAsking, Host.parse?_bare]

/-- An address passes if it is not private. -/
theorem guardHost_address (ip : Ip) :
    guardHost resolve hop (.address ip) =
      if ip.isPrivate then .error (.privateHost hop) else .ok () := by
  rw [guardHost, guardAsking_address]
  rfl

/-- What is written as an address is judged by it, and all else by what it resolves to. -/
theorem guardHost_eq (host : Host) :
    guardHost resolve hop host =
      match Ip.parse? host.bare with
      | some ip => if ip.isPrivate then .error (.privateHost hop) else .ok ()
      | none =>
        match resolve host.chars with
        | .error reason => .error (.lookupFailed (String.ofList host.chars) reason)
        | .ok ips => if ips.any Ip.isPrivate then .error (.privateHost hop) else .ok () := by
  rw [guardHost, guardAsking]
  cases Ip.parse? host.bare with
  | some ip => rfl
  | none =>
    rw [pure_bind]
    cases resolve host.chars with
    | error reason => rfl
    | ok ips => rfl

/-- A name passes if it can be resolved and none of its addresses is private. -/
theorem guardHost_name {domain : List Char} (h : IsDomain domain) :
    guardHost resolve hop (.name domain) =
      match resolve domain with
      | .error reason => .error (.lookupFailed (String.ofList domain) reason)
      | .ok ips => if ips.any Ip.isPrivate then .error (.privateHost hop) else .ok () := by
  rw [guardHost_eq, Host.bare_name h, h.ip_parse?]
  rfl

/-- Whether nothing private answers for a host: it is an address that is not private, or
a name, and no address in disguise, that is resolved to such addresses only. -/
def Host.IsPublic : Host → Prop
  | .address ip => ip.isPrivate = false
  | .name domain =>
      Ip.parse? domain = none ∧ ∃ ips, resolve domain = .ok ips ∧ ∀ ip ∈ ips, ip.isPrivate = false

/-- A host that was read passes the guard if and only if it is public. -/
theorem guardHost_eq_ok_iff {host : Host} (h : host.IsRead) :
    guardHost resolve hop host = .ok () ↔ host.IsPublic resolve := by
  cases host with
  | address ip =>
    rw [guardHost_address, Host.IsPublic]
    cases ip.isPrivate <;> simp
  | name domain =>
    rw [guardHost_name resolve hop h, Host.IsPublic, h.ip_parse?]
    cases resolve domain with
    | error reason => simp
    | ok ips => by_cases hany : ips.any Ip.isPrivate <;> simp_all

/-- Whether something private answers for a host: it is a private address, or a name that is
resolved to one among others. -/
def Host.IsPrivate : Host → Prop
  | .address ip => ip.isPrivate = true
  | .name domain => ∃ ips, resolve domain = .ok ips ∧ ∃ ip ∈ ips, ip.isPrivate = true

/-- A host that was read is refused if it is private, or if it is a name that cannot be
resolved. -/
theorem guardHost_eq_error_iff {host : Host} (h : host.IsRead) {fault : FetchFault} :
    guardHost resolve hop host = .error fault ↔
      host.IsPrivate resolve ∧ fault = .privateHost hop ∨
        ∃ domain reason, host = .name domain ∧ resolve domain = .error reason ∧
          fault = .lookupFailed (String.ofList domain) reason := by
  cases host with
  | address ip =>
    rw [guardHost_address, Host.IsPrivate]
    cases ip.isPrivate with
    | true => simp [@eq_comm _ fault]
    | false => simp
  | name domain =>
    rw [guardHost_name resolve hop h, Host.IsPrivate]
    cases resolved : resolve domain with
    | error reason =>
      simp only [Except.error.injEq, reduceCtorEq, false_and, exists_false, false_or]
      constructor
      · rintro rfl
        exact ⟨domain, reason, rfl, resolved, rfl⟩
      · rintro ⟨_, _, same, failed, rfl⟩
        obtain rfl := Host.name.inj same
        rw [Except.error.inj (resolved.symm.trans failed)]
    | ok ips =>
      have known : ¬ ∃ d reason, Host.name domain = .name d ∧ resolve d = .error reason ∧
          fault = .lookupFailed (String.ofList d) reason := by
        rintro ⟨_, _, same, failed, -⟩
        obtain rfl := Host.name.inj same
        exact nomatch resolved.symm.trans failed
      have anyone : ips.any Ip.isPrivate = true ↔ ∃ ip ∈ ips, ip.isPrivate = true :=
        List.any_eq_true
      simp only [known, or_false, Except.ok.injEq, exists_eq_left', ← anyone]
      cases ips.any Ip.isPrivate with
      | true => simp [@eq_comm _ fault]
      | false => simp

end PageExtract
