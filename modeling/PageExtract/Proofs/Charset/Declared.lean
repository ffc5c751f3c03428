import PageExtract.Charset.Declared
import PageExtract.Proofs.Text.LowerCase

/-!
# Types that declare UTF-8

A declared type is looked at in lower case: its segments, the blanks around them, the start that
gives a label, the quotes around the label and the label itself.  For a type of ASCII characters
it makes no difference where in this the case is given up (`label?_of_ascii`), since no letter is
taken for a semicolon, a blank or a quote in the other case.

`DeclaresUtf8` says of a type as it is written that the first of its segments that gives a label
gives one of UTF-8.  Then UTF-8 is the character set that the type declares, in lower case too
(`declared?_of_declaresUtf8`).
-/

namespace PageExtract.Charset

/-! ## Letters and other characters -/

theorem beq_toLower {d : Char} (plain : d.toNat < 65) (c : Char) : (c.toLower == d) = (c == d) := by
  refine Text.apply_toLower (p := (· == d)) (fun c letter => ?_) c
  rw [beq_eq_false_iff_ne]
  rintro rfl
  omega

theorem isLabelSpace_toLower (c : Char) : isLabelSpace c.toLower = isLabelSpace c := by
  refine Text.apply_toLower (fun c letter => ?_) c
  have apart (d : Char) (plain : d.toNat < 65) : c ≠ d := by
    rintro rfl
    omega
  simp only [isLabelSpace, Bool.or_eq_false_iff, decide_eq_false_iff_not]
  exact ⟨⟨⟨⟨apart _ (by decide), apart _ (by decide)⟩, apart _ (by decide)⟩, apart _ (by decide)⟩,
    apart _ (by decide)⟩

/-! ## Segments in lower case -/

theorem dropWhile_toLower {p : Char → Bool} (same : ∀ c, p c.toLower = p c) (cs : List Char) :
    (cs.map Char.toLower).dropWhile p = (cs.dropWhile p).map Char.toLower := by
  have p_toLower : p ∘ Char.toLower = p := funext same
  rw [List.dropWhile_map, p_toLower]

theorem strip_toLower {quote : Char} (plain : quote.toNat < 65) (cs : List Char) :
    strip quote (cs.map Char.toLower) = (strip quote cs).map Char.toLower := by
  have same := beq_toLower plain
  rw [strip, strip, dropWhile_toLower same, ← List.map_reverse, dropWhile_toLower same,
    List.map_reverse]

/-- A label stands for the same character set in lower case. -/
theorem ofLabel?_toLower (cs : List Char) :
    ofLabel? (String.ofList (cs.map Char.toLower)) = ofLabel? (String.ofList cs) := by
  have twice : Char.toLower ∘ Char.toLower = Char.toLower := funext Text.toLower_toLower
  simp only [ofLabel?, String.toList_ofList, dropWhile_toLower isLabelSpace_toLower,
    ← List.map_reverse, List.map_map, twice]

/-! ## Types that declare UTF-8 -/

/-- Whether a segment of a type gives a label: trimmed, it starts with `charset=` in any case. -/
def GivesLabel (segment : List Char) : Prop :=
  ((Text.trimList segment).take labelStart.length).map Char.toLower = labelStart

/-- The label that a segment gives, as it is written and without the quotes around it. -/
def writtenLabel (segment : List Char) : List Char :=
  strip '\'' (strip '"' ((Text.trimList segment).drop labelStart.length))

/-- Whether the first segment of a type that gives a label gives one of UTF-8. -/
def DeclaresUtf8 (contentType : String) : Prop :=
  ∃ before segment after, Text.splitAt ';' contentType.toList = before ++ segment :: after ∧
    (∀ other ∈ before, ¬ GivesLabel other) ∧ GivesLabel segment ∧
    ofLabel? (String.ofList (writtenLabel segment)) = some .utf8

instance (segment : List Char) : Decidable (GivesLabel segment) :=
  inferInstanceAs (Decidable (_ = _))

/-- A segment in lower case gives the label of the segment in lower case. -/
theorem segmentLabel?_toLower (segment : List Char) :
    segmentLabel? (segment.map Char.toLower) =
      if GivesLabel segment then some (String.ofList ((writtenLabel segment).map Char.toLower))
      else none := by
  have starts : labelStart.isPrefixOf ((Text.trimList segment).map Char.toLower) = true ↔
      GivesLabel segment := by
    rw [List.isPrefixOf_iff_prefix, List.prefix_iff_eq_take, ← List.map_take]
    exact eq_comm
  rw [segmentLabel?, Text.trimList_map Text.isBlank_toLower]
  simp only [starts, ← List.map_drop, strip_toLower (by decide : '"'.toNat < 65),
    strip_toLower (by decide : '\''.toNat < 65)]
  rfl

/-- The first segment of a type of ASCII characters that gives a label gives that of the type. -/
theorem label?_of_ascii {contentType : String} (ascii : ∀ c ∈ contentType.toList, c.toNat < 0x80)
    {before after : List (List Char)} {segment : List Char}
    (segments : Text.splitAt ';' contentType.toList = before ++ segment :: after)
    (first : ∀ other ∈ before, ¬ GivesLabel other) (gives : GivesLabel segment) :
    label? contentType = some (String.ofList ((writtenLabel segment).map Char.toLower)) := by
  have apart (c : Char) : c.toLower = ';' ↔ c = ';' := by
    rw [← beq_iff_eq, beq_toLower (by decide), beq_iff_eq]
  have none_before : before.findSome? (segmentLabel? ∘ List.map Char.toLower) = none := by
    rw [List.findSome?_eq_none_iff]
    intro other h
    rw [Function.comp_apply, segmentLabel?_toLower, if_neg (first other h)]
  rw [label?, Text.lower, String.toList_ofList, Text.lowerList_of_ascii ascii,
    Text.splitAt_map apart, segments, List.findSome?_map, List.findSome?_append, none_before,
    Option.none_or, List.findSome?_cons, Function.comp_apply, segmentLabel?_toLower, if_pos gives]

/-- The quotes are taken off, and a second label does not count. -/
example : label? "text/html; Charset=\"UTF-8\"; charset=x" = some "utf-8" := by decide +kernel

/-- A type of ASCII characters that declares UTF-8 does so in lower case. -/
theorem declared?_of_declaresUtf8 {contentType : String}
    (ascii : ∀ c ∈ contentType.toList, c.toNat < 0x80) (h : DeclaresUtf8 contentType) :
    declared? (some (Text.lower contentType)) = some .utf8 := by
  obtain ⟨before, segment, after, segments, first, gives, names⟩ := h
  have label : label? (Text.lower contentType) = label? contentType := by
    rw [label?, label?, Text.lower_lower_of_ascii ascii]
  rw [declared?, Option.bind_some, label, label?_of_ascii ascii segments first gives,
    Option.bind_some, ofLabel?_toLower, names]

end PageExtract.Charset
