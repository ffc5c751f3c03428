import PageExtract.Folder
import PageExtract.Proofs.Checks

/-!
# Reading and writing files

A path *leads* from place to place, name by name.  A file can stand at its end only if the
last name goes down: it is not empty, not `.`, and not `..`, since going up leads to a
folder.  So a file can be read at a path, and one can be written there, only if the path
*ends at a name* in a folder.  This is all that both need of the path
(`Folder.read_eq_ok_iff`, `Folder.write_eq_ok_iff`).

What was written can be read (`Folder.read_of_write`), and where something can be read,
anything can be written (`Folder.exists_write_of_read`).
-/

namespace PageExtract.Folder

/-! ## Following names -/

/-- Whether some names lead from a place to another. -/
inductive Leads (f : Folder) : List String → List String → List String → Prop where
  | here {place : List String} : f.Leads place [] place
  | enter {place rest last : List String} {name : String}
      (folder : f.entry? place = some .folder) (short : name.utf8ByteSize ≤ maxNameBytes)
      (there : f.entry? (enter place name) ≠ none) (go : f.Leads (enter place name) rest last) :
      f.Leads place (name :: rest) last

variable {f : Folder} {place last : List String} {name path : String}

theorem needFolder_eq_ok_iff {u : Unit} :
    f.needFolder place = .ok u ↔ f.entry? place = some .folder := by
  rw [needFolder]
  split
  next folder => exact iff_of_true rfl folder
  next file => exact iff_of_false nofun fun folder => nomatch file.symm.trans folder
  next missing => exact iff_of_false nofun fun folder => nomatch missing.symm.trans folder

theorem follow_eq_ok_iff {names : List String} :
    f.follow place names = .ok last ↔ f.Leads place names last := by
  induction names generalizing place with
  | nil =>
    constructor
    · intro h
      obtain rfl := Except.ok.inj h
      exact .here
    · rintro ⟨⟩
      rfl
  | cons name rest ih =>
    rw [follow, except_bind_eq_ok_iff]
    simp only [needFolder_eq_ok_iff]
    constructor
    · rintro ⟨_, folder, h⟩
      split at h
      next => exact nomatch h
      next short =>
        cases there : f.entry? (enter place name) with
        | none =>
          rw [there] at h
          exact nomatch h
        | some entry =>
          rw [there] at h
          exact .enter folder (Nat.le_of_not_lt short) (by simp [there]) (ih.mp h)
    · rintro (_ | ⟨folder, short, there, go⟩)
      refine ⟨(), folder, ?_⟩
      rw [if_neg (Nat.not_lt_of_le short)]
      obtain ⟨entry, found⟩ := Option.ne_none_iff_exists'.mp there
      rw [found]
      exact ih.mpr go

theorem Leads.append {middle : List String} {names others : List String}
    (h : f.Leads place names middle) (h' : f.Leads middle others last) :
    f.Leads place (names ++ others) last := by
  induction h with
  | here => exact h'
  | enter folder short there _ ih => exact .enter folder short there (ih h')

theorem Leads.split {names others : List String} (h : f.Leads place (names ++ others) last) :
    ∃ middle, f.Leads place names middle ∧ f.Leads middle others last := by
  induction names generalizing place with
  | nil => exact ⟨place, .here, h⟩
  | cons name rest ih =>
    cases h with
    | enter folder short there go =>
      obtain ⟨middle, first, later⟩ := ih go
      exact ⟨middle, .enter folder short there first, later⟩

/-! ## Places -/

theorem folder_of_isOrigin (h : isOrigin place = true) : f.entry? place = some .folder := by
  rw [ Folder.entry?, if_pos h]

theorem isOrigin_origin (path : String) : isOrigin (origin path) = true := by
  rw [origin]
  split
  next => rfl
  next => rfl

/-- Whether a name goes down. -/
def IsProper (name : String) : Prop := name ≠ "" ∧ name ≠ "." ∧ name ≠ ".."

theorem enter_of_isProper (h : IsProper name) (place : List String) :
    enter place name = place ++ [name] := by
  rw [enter, if_neg (not_or.mpr ⟨h.1, h.2.1⟩), if_neg h.2.2]

/-- Whether a place is below a starting place, with folders all the way. -/
inductive Rooted (f : Folder) : List String → Prop where
  | origin {place : List String} (h : isOrigin place = true) : f.Rooted place
  | down {place : List String} {name : String} (h : f.Rooted place)
      (folder : f.entry? place = some .folder) : f.Rooted (place ++ [name])

theorem enter_up (place : List String) :
    enter place ".." = place ∨ isOrigin (enter place "..") = true ∨
      (isOrigin place = false ∧ enter place ".." = place.dropLast) := by
  rw [enter, if_neg (by decide), if_pos rfl]
  by_cases slash : place = ["/"]
  · rw [if_pos slash]
    exact .inl rfl
  rw [if_neg slash]
  cases top : isOrigin place with
  | false => exact .inr (.inr ⟨rfl, rfl⟩)
  | true =>
    refine .inr (.inl ?_)
    rw [isOrigin, Bool.or_eq_true, decide_eq_true_iff] at top
    rw [if_pos rfl, isOrigin, Bool.or_eq_true]
    refine .inr ?_
    rw [List.all_append, (top.resolve_left slash)]
    rfl

/-- Going up from a folder leads to a folder, and so it goes on. -/
theorem Rooted.up (h : f.Rooted place) (folder : f.entry? place = some .folder) :
    f.Rooted (enter place "..") ∧ f.entry? (enter place "..") = some .folder := by
  obtain same | top | ⟨inside, drop⟩ := enter_up place
  · rw [same]
    exact ⟨h, folder⟩
  · exact ⟨.origin top, folder_of_isOrigin top⟩
  · cases h with
    | origin top => exact nomatch top.symm.trans inside
    | down above folder' =>
      rw [drop, List.dropLast_concat]
      exact ⟨above, folder'⟩

/-- A name leads down, or it leads to a folder. -/
theorem Rooted.enter (h : f.Rooted place) (folder : f.entry? place = some .folder)
    (name : String) :
    f.Rooted (enter place name) ∧
      (IsProper name ∨ f.entry? (Folder.enter place name) = some .folder) := by
  by_cases stays : name = "" ∨ name = "."
  · rw [Folder.enter, if_pos stays]
    exact ⟨h, .inr folder⟩
  by_cases up : name = ".."
  · subst up
    exact (h.up folder).imp_right .inr
  · have proper : IsProper name := ⟨fun e => stays (.inl e), fun e => stays (.inr e), up⟩
    rw [enter_of_isProper proper]
    exact ⟨.down h folder, .inl proper⟩

theorem Leads.rooted {names : List String} (h : f.Leads place names last)
    (rooted : f.Rooted place) : f.Rooted last := by
  induction h with
  | here => exact rooted
  | enter folder _ _ _ ih => exact ih (rooted.enter folder _).1

/-! ## Paths that end at a name -/

/-- Whether a path leads to a folder and ends at a name in it. -/
structure EndsAt (f : Folder) (path : String) (place : List String) (name : String) : Prop where
  leads : ∃ before, names path = .ok (before ++ [name]) ∧ f.Leads (origin path) before place
  folder : f.entry? place = some .folder
  proper : IsProper name
  short : name.utf8ByteSize ≤ maxNameBytes

/-- A file can be read at a path exactly if the path ends at the name of a file. -/
theorem read_eq_ok_iff {content : List UInt8} :
    f.read path = .ok content ↔ ∃ place name, f.EndsAt path place name ∧
      f.entry? (place ++ [name]) = some (.file content) := by
  rw [read]
  simp only [except_bind_eq_ok_iff, follow_eq_ok_iff]
  constructor
  · rintro ⟨all, named, last, leads, h⟩
    have file : f.entry? last = some (.file content) := by
      split at h
      next content' file =>
        obtain rfl := Except.ok.inj h
        exact file
      next => exact nomatch h
      next => exact nomatch h
    obtain rfl | ⟨before, name, rfl⟩ := all.eq_nil_or_concat
    · cases leads
      exact nomatch (folder_of_isOrigin (isOrigin_origin path)).symm.trans file
    · rw [List.concat_eq_append] at named leads
      obtain ⟨place, first, final⟩ := leads.split
      cases final with
      | enter folder short _ go =>
        cases go
        have rooted := first.rooted (.origin (isOrigin_origin path))
        obtain proper | folder' := (rooted.enter folder name).2
        · rw [enter_of_isProper proper] at file
          exact ⟨place, name, ⟨⟨before, named, first⟩, folder, proper, short⟩, file⟩
        · exact nomatch folder'.symm.trans file
  · rintro ⟨place, name, ⟨⟨before, named, first⟩, folder, proper, short⟩, file⟩
    have there : f.entry? (enter place name) = some (.file content) := by
      rwa [enter_of_isProper proper]
    refine ⟨_, named, _, first.append (.enter folder short (by simp [there]) .here), ?_⟩
    rw [there]
    rfl

theorem eq_concat_of_reverse {all before : List String}
    (none : all.reverse.takeWhile (· = "") = [])
    (rest : all.reverse.dropWhile (· = "") = name :: before) :
    all = before.reverse ++ [name] ∧ name ≠ "" := by
  have whole := List.takeWhile_append_dropWhile (p := (· = "")) (l := all.reverse)
  rw [none, rest, List.nil_append] at whole
  constructor
  · rw [← List.reverse_reverse all, ← whole, List.reverse_cons]
  · rintro rfl
    rw [← whole, List.takeWhile_cons_of_pos (by simp)] at none
    exact nomatch none

/-- A file can be written at a path exactly if the path ends at a name that is not that of a
folder. -/
theorem write_eq_ok_iff {content : List UInt8} {g : Folder} :
    f.write path content = .ok g ↔ ∃ place name, f.EndsAt path place name ∧
      f.entry? (place ++ [name]) ≠ some .folder ∧
      f.insert (place ++ [name]) (.file content) = g := by
  rw [write, except_bind_eq_ok_iff]
  constructor
  · rintro ⟨all, named, h⟩
    dsimp only at h
    split at h
    next => exact nomatch h
    next name before rest =>
      simp only [except_bind_eq_ok_iff, follow_eq_ok_iff, needFolder_eq_ok_iff] at h
      obtain ⟨place, leads, _, folder, h⟩ := h
      split at h
      next => exact nomatch h
      next down =>
        split at h
        next => exact nomatch h
        next short =>
          simp only [not_or, Bool.not_eq_true, Bool.not_eq_false', List.isEmpty_iff] at down
          obtain ⟨none, notHere, notUp⟩ := down
          obtain ⟨rfl, filled⟩ := eq_concat_of_reverse none rest
          have proper : IsProper name := ⟨filled, notHere, notUp⟩
          rw [enter_of_isProper proper] at h
          split at h
          next => exact nomatch h
          next free =>
            exact ⟨place, name, ⟨⟨_, named, leads⟩, folder, proper, Nat.le_of_not_lt short⟩,
              free, Except.ok.inj h⟩
  · rintro ⟨place, name, ⟨⟨before, named, leads⟩, folder, proper, short⟩, free, rfl⟩
    refine ⟨_, named, ?_⟩
    have filled : decide (name = "") = false := decide_eq_false proper.1
    simp only [List.reverse_concat, List.takeWhile_cons, List.dropWhile_cons, filled]
    simp only [Bool.false_eq_true, if_false, except_bind_eq_ok_iff, follow_eq_ok_iff,
      needFolder_eq_ok_iff, List.reverse_reverse]
    refine ⟨place, leads, (), folder, ?_⟩
    rw [List.isEmpty_nil, Bool.not_true,
      if_neg (not_or.mpr ⟨Bool.false_ne_true, not_or.mpr proper.2⟩),
      if_neg (Nat.not_lt_of_le short), enter_of_isProper proper]
    split
    next folder' => exact absurd folder' free
    next => rfl

/-! ## Reading what was written -/

theorem lookup_cons_eq (place other : List String) (entry : FolderEntry)
    (entries : List (List String × FolderEntry)) :
    ((place, entry) :: entries).lookup other =
      if other = place then some entry else entries.lookup other := by
  by_cases same : other = place
  · rw [if_pos same, same, List.lookup_cons_self]
  · rw [if_neg same, List.lookup_cons, beq_false_of_ne same]

theorem lookup_put (place other : List String) (entry : FolderEntry)
    (entries : List (List String × FolderEntry)) :
    (put place entry entries).lookup other =
      if other = place then some entry else entries.lookup other := by
  induction entries with
  | nil => exact lookup_cons_eq place other entry []
  | cons first rest ih =>
    obtain ⟨p, e⟩ := first
    rw [put, lookup_cons_eq]
    by_cases replaced : p = place
    · subst replaced
      rw [if_pos rfl, lookup_cons_eq]
      by_cases here : other = p
      · rw [if_pos here, if_pos here]
      · rw [if_neg here, if_neg here, if_neg here]
    · rw [if_neg replaced, lookup_cons_eq, ih]
      by_cases here : other = p
      · rw [if_pos here, if_pos here, here, if_neg replaced]
      · rw [if_neg here, if_neg here]

theorem found_insert_self {entry : FolderEntry} (inside : isOrigin place = false) :
    Folder.entry? (f.insert place entry) place = some entry := by
  rw [ Folder.entry?, inside, if_neg Bool.false_ne_true, insert, lookup_put, if_pos rfl]

theorem found_insert_of_ne {other : List String} (apart : other ≠ place) (entry : FolderEntry) :
    Folder.entry? (f.insert place entry) other = f.entry? other := by
  rw [ Folder.entry?, Folder.entry?, insert, lookup_put, if_neg apart]

/-- A place that is no folder is no starting place. -/
theorem not_isOrigin (free : f.entry? place ≠ some .folder) : isOrigin place = false := by
  cases top : isOrigin place with
  | false => rfl
  | true => exact absurd (folder_of_isOrigin top) free

/-- Where no folder is, a file is in nobody's way. -/
theorem Leads.insert {names : List String} {new : List String} (h : f.Leads place names last)
    (free : f.entry? new ≠ some .folder) (entry : FolderEntry) :
    (f.insert new entry).Leads place names last := by
  induction h with
  | here => exact .here
  | @enter place rest last name folder short there _ ih =>
    refine .enter ?_ short ?_ ih
    · rw [found_insert_of_ne _ entry, folder]
      rintro rfl
      exact free folder
    · by_cases same : Folder.enter place name = new
      · rw [same, found_insert_self (not_isOrigin free)]
        exact Option.some_ne_none _
      · rwa [found_insert_of_ne same]

/-- What was written at a path can be read there. -/
theorem read_of_write {content : List UInt8} {g : Folder} (h : f.write path content = .ok g) :
    g.read path = .ok content := by
  obtain ⟨place, name, ends, free, rfl⟩ := write_eq_ok_iff.mp h
  obtain ⟨before, named, leads⟩ := ends.leads
  refine read_eq_ok_iff.mpr ⟨place, name, ⟨⟨before, named, leads.insert free _⟩, ?_, ends.proper,
    ends.short⟩, found_insert_self (not_isOrigin free)⟩
  rw [found_insert_of_ne _ _, ends.folder]
  simp

/-- A path may lead into a folder and up again, and other paths may lead to the same place. -/
example : (((Folder.mk [(["d"], .folder)]).write "d/../a" [0x61]).bind (·.read "./a")).toOption =
    some [0x61] := by decide +kernel

/-- Where something can be read, anything can be written. -/
theorem exists_write_of_read {content : List UInt8} (h : f.read path = .ok content)
    (other : List UInt8) : ∃ g, f.write path other = .ok g := by
  obtain ⟨place, name, ends, file⟩ := read_eq_ok_iff.mp h
  exact ⟨_, write_eq_ok_iff.mpr ⟨place, name, ends, by simp [file], rfl⟩⟩

end PageExtract.Folder
