import PageExtract.Fetch.Basic

/-!
# What comes of a body

How a body is cut into pieces does not matter.  What counts is how many bytes it is
said to have, which bytes come, and how they end (`readBody_eq`).  If either number
is above the limit, the body is too large.  Otherwise all bytes are given if the body
is complete.

The pieces are taken into a buffer one after another.  A buffer has no room for more
bytes than the limit, so a piece is taken in only if it leaves the buffer within it, and
then it is taken in as a whole (`Buffer.add_eq_ok_iff`).  Hence after some of the pieces
the buffer holds just their bytes (`Buffer.fill_eq_ok_iff`), and reading goes on from
there with the others (`readBody_of_fill`).  At the first piece for which there is no room
reading ends (`readBody_of_fill_error`).
-/

namespace PageExtract

/-! ## Buffers -/

namespace Buffer

variable {limit : Nat}

theorem bytes_empty : (empty : Buffer limit).bytes = [] := rfl

theorem ok_eq_ok_iff {b filled : Buffer limit} :
    (.ok b : Except FetchFault (Buffer limit)) = .ok filled ↔ filled.bytes = b.bytes := by
  rw [Except.ok.injEq, Buffer.ext_iff]
  exact eq_comm

/-- A piece is refused exactly if there is no room for it, as too large. -/
theorem add_eq_error_iff {b : Buffer limit} {piece : List UInt8} {fault : FetchFault} :
    b.add piece = .error fault ↔ fault = .tooLarge ∧ limit < b.bytes.length + piece.length := by
  rw [add]
  split
  next large =>
    constructor
    · rintro ⟨⟩
      exact ⟨rfl, large⟩
    · rintro ⟨rfl, -⟩
      rfl
  next small => exact iff_of_false nofun fun h => small h.2

/-- A piece is taken in as a whole, and exactly if there is room for it. -/
theorem add_eq_ok_iff {b filled : Buffer limit} {piece : List UInt8} :
    b.add piece = .ok filled ↔ filled.bytes = b.bytes ++ piece := by
  rw [add]
  split
  next large =>
    refine iff_of_false nofun fun same => ?_
    have within := filled.within
    rw [same, List.length_append] at within
    exact absurd large (Nat.not_lt_of_le within)
  next => exact ok_eq_ok_iff

theorem fill_cons (b : Buffer limit) (piece : List UInt8) (rest : List (List UInt8)) :
    b.fill (piece :: rest) = (b.add piece).bind fun filled => filled.fill rest :=
  List.foldlM_cons

theorem fill_append (b : Buffer limit) (before after : List (List UInt8)) :
    b.fill (before ++ after) = (b.fill before).bind fun filled => filled.fill after :=
  List.foldlM_append

/-- Pieces are refused exactly if there is no room for all of them, as too large. -/
theorem fill_eq_error_iff {b : Buffer limit} {pieces : List (List UInt8)} {fault : FetchFault} :
    b.fill pieces = .error fault ↔
      fault = .tooLarge ∧ limit < b.bytes.length + pieces.flatten.length := by
  induction pieces generalizing b with
  | nil => exact iff_of_false nofun fun h => absurd h.2 (Nat.not_lt_of_le b.within)
  | cons piece rest ih =>
    rw [fill_cons, List.flatten_cons, List.length_append, ← Nat.add_assoc]
    cases added : b.add piece with
    | ok next =>
      rw [← List.length_append, ← add_eq_ok_iff.mp added]
      exact ih
    | error other =>
      obtain ⟨rfl, large⟩ := add_eq_error_iff.mp added
      constructor
      · rintro ⟨⟩
        exact ⟨rfl, Nat.lt_of_lt_of_le large (Nat.le_add_right ..)⟩
      · rintro ⟨rfl, -⟩
        rfl

/-- A buffer holds the bytes of the pieces that it took in, and takes them in exactly if it can
hold them. -/
theorem fill_eq_ok_iff {b filled : Buffer limit} {pieces : List (List UInt8)} :
    b.fill pieces = .ok filled ↔ filled.bytes = b.bytes ++ pieces.flatten := by
  induction pieces generalizing b with
  | nil =>
    rw [List.flatten_nil, List.append_nil]
    exact ok_eq_ok_iff
  | cons piece rest ih =>
    rw [fill_cons, List.flatten_cons, ← List.append_assoc]
    cases added : b.add piece with
    | ok next =>
      rw [← add_eq_ok_iff.mp added]
      exact ih
    | error fault =>
      refine iff_of_false nofun fun same => ?_
      have within := filled.within
      rw [same, List.length_append, List.length_append] at within
      exact absurd (add_eq_error_iff.mp added).2 (Nat.not_lt_of_le (Nat.le_of_add_right_le within))

end Buffer

/-! ## Reading -/

variable {limit : Nat} {reply : Reply}

/-- If it is not said to be too large, a body is taken into a buffer. -/
theorem readBody_eq_fill (said : ∀ length ∈ reply.declared, length ≤ limit) :
    readBody limit reply =
      ((Buffer.empty : Buffer limit).fill reply.chunks).bind fun b =>
        reply.ending.outcome b.bytes := by
  have fits : (reply.declared.any fun length => limit < length) = false := by
    cases declared : reply.declared with
    | none => rfl
    | some length => exact decide_eq_false (Nat.not_lt_of_le (said length declared))
  rw [readBody, fits]
  rfl

theorem readBody_of_declared {length : Nat} (declared : reply.declared = some length)
    (large : limit < length) : readBody limit reply = .error .tooLarge := by
  rw [readBody, declared, Option.any_some, decide_eq_true large]
  rfl

/-- Reading goes on from a buffer with the pieces that are still to come. -/
theorem readBody_of_fill {before after : List (List UInt8)} {b : Buffer limit}
    (said : ∀ length ∈ reply.declared, length ≤ limit)
    (pieces : reply.chunks = before ++ after) (filled : Buffer.empty.fill before = .ok b) :
    readBody limit reply = (b.fill after).bind fun b => reply.ending.outcome b.bytes := by
  rw [readBody_eq_fill said, pieces, Buffer.fill_append, filled]
  rfl

/-- A body is too large by what is said of it or by what comes, and else ends as it ends. -/
theorem readBody_eq (limit : Nat) (reply : Reply) :
    readBody limit reply =
      if (∃ length ∈ reply.declared, limit < length) ∨ limit < reply.chunks.flatten.length then
        .error .tooLarge
      else reply.ending.outcome reply.chunks.flatten := by
  by_cases said : ∃ length ∈ reply.declared, limit < length
  · obtain ⟨length, declared, large⟩ := said
    rw [if_pos (.inl ⟨length, declared, large⟩), readBody_of_declared declared large]
  · rw [readBody_eq_fill fun length declared => Nat.le_of_not_lt fun more =>
      said ⟨length, declared, more⟩]
    cases filled : (Buffer.empty : Buffer limit).fill reply.chunks with
    | ok b =>
      have bytes : b.bytes = reply.chunks.flatten := Buffer.fill_eq_ok_iff.mp filled
      rw [← bytes, if_neg (not_or.mpr ⟨said, Nat.not_lt_of_le b.within⟩)]
      rfl
    | error fault =>
      obtain ⟨rfl, large⟩ := Buffer.fill_eq_error_iff.mp filled
      rw [Buffer.bytes_empty, List.length_nil, Nat.zero_add] at large
      rw [if_pos (.inr large)]
      rfl

/-- Reading ends with the first piece for which there is no room. -/
theorem readBody_of_fill_error {before after : List (List UInt8)} {fault : FetchFault}
    (pieces : reply.chunks = before ++ after)
    (refused : (Buffer.empty : Buffer limit).fill before = .error fault) :
    readBody limit reply = .error .tooLarge := by
  obtain ⟨rfl, large⟩ := Buffer.fill_eq_error_iff.mp refused
  rw [Buffer.bytes_empty, List.length_nil, Nat.zero_add] at large
  have more : limit < reply.chunks.flatten.length := by
    rw [pieces, List.flatten_append, List.length_append]
    exact Nat.lt_of_lt_of_le large (Nat.le_add_right ..)
  rw [readBody_eq, if_pos (.inr more)]

/-- A body is read if it is complete and neither number is above the limit. -/
theorem readBody_eq_ok_iff {body : List UInt8} :
    readBody limit reply = .ok body ↔
      reply.ending = .complete ∧ reply.chunks.flatten.length ≤ limit ∧
        (∀ length ∈ reply.declared, length ≤ limit) ∧ body = reply.chunks.flatten := by
  rw [readBody_eq]
  split
  next large =>
    refine ⟨fun h => (nomatch h), ?_⟩
    rintro ⟨_, come, said, _⟩
    rcases large with ⟨length, declared, more⟩ | more
    · exact absurd more (Nat.not_lt_of_le (said length declared))
    · exact absurd more (Nat.not_lt_of_le come)
  next small =>
    obtain ⟨said, come⟩ := not_or.mp small
    have lengths :
        reply.chunks.flatten.length ≤ limit ∧ ∀ length ∈ reply.declared, length ≤ limit :=
      ⟨Nat.le_of_not_lt come, fun length declared =>
        Nat.le_of_not_lt fun more => said ⟨length, declared, more⟩⟩
    cases reply.ending with
    | complete =>
      refine ⟨fun h => ⟨rfl, lengths.1, lengths.2, (Except.ok.inj h).symm⟩, ?_⟩
      rintro ⟨_, _, _, rfl⟩
      rfl
    | broken => exact ⟨fun h => (nomatch h), fun h => (nomatch h.1)⟩
    | stalled => exact ⟨fun h => (nomatch h), fun h => (nomatch h.1)⟩

/-! ## Outcomes -/

/-- A body that is too large fails as no other body does. -/
theorem Ending.mapError_outcome_ne (ending : Ending) (body : List UInt8) (url : String) :
    (ending.outcome body).mapError (·.toFailure url) ≠
      .error ⟨.fetch, url, "Fetch", some (.text "content too large")⟩ := by
  have other {fault : FetchFault} (ne : fault.toFailure url ≠ FetchFault.tooLarge.toFailure url) :
      (Except.error (fault.toFailure url) : Except Failure (List UInt8)) ≠
        .error (FetchFault.tooLarge.toFailure url) := fun h => ne (Except.error.inj h)
  cases ending with
  | complete => exact fun h => nomatch h
  | broken =>
    refine other fun same => ?_
    have words := congrArg Failure.source same
    simp [FetchFault.toFailure, FetchFault.message?, FetchFault.reading] at words
  | stalled => exact other fun same => nomatch congrArg Failure.kind same

theorem readBody_tooLarge_iff {url : String} :
    (readBody limit reply).mapError (·.toFailure url) =
        .error ⟨.fetch, url, "Fetch", some (.text "content too large")⟩ ↔
      (∃ length ∈ reply.declared, limit < length) ∨ limit < reply.chunks.flatten.length := by
  rw [readBody_eq]
  split
  next large => exact iff_of_true rfl large
  next fits => exact iff_of_false (reply.ending.mapError_outcome_ne _ url) fits

theorem readBody_congr {other : Reply} (declared : other.declared = reply.declared)
    (bytes : other.chunks.flatten = reply.chunks.flatten) (ending : other.ending = reply.ending)
    (limit : Nat) : readBody limit other = readBody limit reply := by
  rw [readBody_eq, readBody_eq, declared, bytes, ending]

/-- A body is too large exactly if it is said to have more bytes than the limit or more come, and
else it ends as it ends, with all bytes if it is complete.  So its pieces do not matter, and a body
of as many bytes as the limit is read.  Whatever pieces have come, the buffer holds just their
bytes, and they are no more than the limit.  From there reading goes on with the pieces that are
still to come.  If there is no such buffer, the body is too large, whatever comes then. -/
theorem readBody_limits (limit : Nat) (reply : Reply) (url : String) :
    ((readBody limit reply).mapError (·.toFailure url) =
        .error ⟨.fetch, url, "Fetch", some (.text "content too large")⟩ ↔
      (∃ length ∈ reply.declared, limit < length) ∨ limit < reply.chunks.flatten.length) ∧
    (¬ ((∃ length ∈ reply.declared, limit < length) ∨ limit < reply.chunks.flatten.length) →
      readBody limit reply = match reply.ending with
        | .complete => .ok reply.chunks.flatten
        | .broken => .error .bodyBroken
        | .stalled => .error .bodyStalled) ∧
    (∀ other : Reply, other.declared = reply.declared →
      other.chunks.flatten = reply.chunks.flatten → other.ending = reply.ending →
        readBody limit other = readBody limit reply) ∧
    (reply.chunks.flatten.length = limit → (∀ length ∈ reply.declared, length ≤ limit) →
      reply.ending = .complete → readBody limit reply = .ok reply.chunks.flatten) ∧
    ∀ before after, reply.chunks = before ++ after →
      (∀ b : Buffer limit, b.bytes.length ≤ limit ∧
        (Buffer.empty.fill before = .ok b ↔ b.bytes = before.flatten) ∧
        (Buffer.empty.fill before = .ok b → (∀ length ∈ reply.declared, length ≤ limit) →
          readBody limit reply =
            (b.fill after).bind fun filled => reply.ending.outcome filled.bytes)) ∧
      ∀ fault, (Buffer.empty : Buffer limit).fill before = .error fault →
        fault = .tooLarge ∧ readBody limit reply = .error .tooLarge := by
  refine ⟨readBody_tooLarge_iff, ?_, ?_, ?_, ?_⟩
  · intro fits
    rw [readBody_eq, if_neg fits]
    cases reply.ending with
    | complete => rfl
    | broken => rfl
    | stalled => rfl
  · intro other declared bytes ending
    exact readBody_congr declared bytes ending limit
  · intro full said complete
    exact readBody_eq_ok_iff.mpr ⟨complete, Nat.le_of_eq full, said, rfl⟩
  · intro before after pieces
    constructor
    · intro b
      exact ⟨b.within, Buffer.fill_eq_ok_iff, fun filled said =>
        readBody_of_fill said pieces filled⟩
    · intro fault refused
      exact ⟨(Buffer.fill_eq_error_iff.mp refused).1, readBody_of_fill_error pieces refused⟩

/-- Two pieces that fill the limit, with one byte more, and without an end. -/
theorem readBody_limits_full :
    let reply (more : List UInt8) (ending : Ending) : Reply :=
      ⟨200, [], none, [[1, 2], [], [3] ++ more], ending⟩
    readBody 3 (reply [] .complete) = .ok [1, 2, 3] ∧
      (readBody 3 (reply [4] .broken)).mapError (·.toFailure "u") =
        .error ⟨.fetch, "u", "Fetch", some (.text "content too large")⟩ ∧
      readBody 3 (reply [] .stalled) = .error .bodyStalled ∧
      readBody 3 (reply [] .broken) = readBody 3 ⟨200, [], none, [[1], [2, 3]], .broken⟩ ∧
      readBody 3 (reply [4] .broken) = .error .tooLarge ∧
      ∃ b : Buffer 3, Buffer.empty.fill [[1, 2], []] = .ok b ∧ b.bytes = [1, 2] ∧
        readBody 3 (reply [4] .broken) =
          (b.fill [[3, 4]]).bind fun filled => Ending.broken.outcome filled.bytes := by
  intro reply
  have unsaid : ∀ length ∈ (none : Option Nat), length ≤ 3 := fun _ said =>
    absurd said (Option.not_mem_none _)
  obtain ⟨-, -, -, full, -⟩ := readBody_limits 3 (reply [] .complete) "u"
  obtain ⟨large, -, -, -, kept⟩ := readBody_limits 3 (reply [4] .broken) "u"
  obtain ⟨-, fits, -⟩ := readBody_limits 3 (reply [] .stalled) "u"
  obtain ⟨-, -, alike, -⟩ := readBody_limits 3 ⟨200, [], none, [[1], [2, 3]], .broken⟩ "u"
  obtain ⟨-, holds, goesOn⟩ := (kept [[1, 2], []] [[3, 4]] rfl).1 ⟨[1, 2], by decide⟩
  obtain ⟨-, refused⟩ := (kept [[1, 2], [], [3, 4]] [] rfl).2 .tooLarge rfl
  have filled := holds.mpr rfl
  refine ⟨full rfl unsaid rfl, large.mpr (.inr (by decide)), fits ?_, alike _ rfl rfl rfl, refused,
    ⟨_, by decide⟩, filled, rfl, goesOn filled unsaid⟩
  rintro (⟨_, declared, _⟩ | more)
  · exact absurd declared (Option.not_mem_none _)
  · exact absurd more (by decide)

end PageExtract
