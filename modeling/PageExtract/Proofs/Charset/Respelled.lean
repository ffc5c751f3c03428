import Mathlib.Logic.Relation
import PageExtract.Fetch.Basic
import PageExtract.Proofs.Text.LowerCase

/-!
# Types that are spelled in another way

The label that a declared type gives is that of its first segment that is *labelled*: trimmed and in
lower case, it starts with `charset=`.  Since a type can be cut at its semicolons before it is
brought into lower case (`label?_eq_findSome?`), each segment can be looked at on its own
(`segmentLabel?_lowerList`).

`Respelled` has the ways in which a type can be spelled differently, one constructor for each.  None
of them changes the label (`Respelled.label?_eq`), so they can be done and undone in any order
without a change of the text of a document.
-/

namespace PageExtract

namespace Charset

/-! ## Segments of a type -/

/-- The segments of a declared type, as they are written. -/
def segments (contentType : String) : List (List Char) := Text.splitAt ';' contentType.toList

/-- Whether a segment gives a label: trimmed and in lower case, it starts with `charset=`. -/
def Labelled (segment : List Char) : Prop :=
  labelStart <+: Text.lowerList (Text.trimList segment)

instance (segment : List Char) : Decidable (Labelled segment) :=
  inferInstanceAs (Decidable (_ <+: _))

/-- The label in a segment, in lower case and without the quotes around it. -/
def labelIn (segment : List Char) : String :=
  String.ofList <| strip '\'' <| strip '"' <|
    (Text.lowerList (Text.trimList segment)).drop labelStart.length

theorem segmentLabel?_lowerList (segment : List Char) :
    segmentLabel? (Text.lowerList segment) =
      if Labelled segment then some (labelIn segment) else none := by
  simp only [segmentLabel?, Text.trimList_lowerList, List.isPrefixOf_iff_prefix]
  rfl

/-- A type gives the label of the first of its segments that gives one. -/
theorem label?_eq_findSome? (contentType : String) :
    label? contentType =
      (segments contentType).findSome? fun segment =>
        if Labelled segment then some (labelIn segment) else none := by
  rw [label?, Text.lower, String.toList_ofList, Text.splitAt_lowerList Text.separates_semicolon,
    List.findSome?_map]
  exact congrArg (List.findSome? · (segments contentType)) (funext segmentLabel?_lowerList)

/-- Types that differ in one segment give the same label if that segment does. -/
theorem label?_eq_of_segments {s t : String} {before after : List (List Char)}
    {one other : List Char} (first : segments s = before ++ one :: after)
    (second : segments t = before ++ other :: after)
    (same : segmentLabel? (Text.lowerList one) = segmentLabel? (Text.lowerList other)) :
    label? s = label? t := by
  rw [segmentLabel?_lowerList, segmentLabel?_lowerList] at same
  rw [label?_eq_findSome?, label?_eq_findSome?, first, second, List.findSome?_append,
    List.findSome?_append, List.findSome?_cons, List.findSome?_cons, same]

/-! ## Other spellings -/

/-- The ways in which a type can be spelled differently. -/
inductive Respelled : String → String → Prop
  /-- ASCII letters in another case. -/
  | case {s t : String} (same : Text.asciiLower s = Text.asciiLower t) : Respelled s t
  /-- Blanks around a segment. -/
  | blanks {s t : String} {before after : List (List Char)} {left segment right : List Char}
      (without : segments s = before ++ segment :: after)
      (leftBlank : ∀ c ∈ left, Text.isBlank c = true)
      (rightBlank : ∀ c ∈ right, Text.isBlank c = true)
      (added : segments t = before ++ (left ++ segment ++ right) :: after) : Respelled s t
  /-- Other segments, or none, after one that gives a label. -/
  | later {s t : String} {before after other : List (List Char)} {segment : List Char}
      (labelled : Labelled segment) (one : segments s = before ++ segment :: after)
      (another : segments t = before ++ segment :: other) : Respelled s t
  /-- One more segment that gives no label. -/
  | unlabelled {s t : String} {before after : List (List Char)} {segment : List Char}
      (without : segments s = before ++ after) (unlabelled : ¬ Labelled segment)
      (added : segments t = before ++ segment :: after) : Respelled s t
  /-- Double quotes around a label. -/
  | quotes {s t : String} {before after : List (List Char)}
      {left right segment start label : List Char}
      (without : segments s = before ++ segment :: after)
      (trimmed : Text.trimList segment = start ++ label) (starts : Text.lowerList start = labelStart)
      (leftBlank : ∀ c ∈ left, Text.isBlank c = true)
      (rightBlank : ∀ c ∈ right, Text.isBlank c = true)
      (quoted : segments t =
        before ++ (left ++ (start ++ '"' :: (label ++ ['"'])) ++ right) :: after) : Respelled s t

/-- Quotes that are added around a list are stripped again. -/
theorem strip_quoted (quote : Char) (cs : List Char) :
    strip quote (quote :: (cs ++ [quote])) = strip quote cs := by
  have drop (cs : List Char) : (quote :: cs).dropWhile (· == quote) = cs.dropWhile (· == quote) :=
    List.dropWhile_cons_of_pos (beq_self_eq_true quote)
  rw [strip, strip, drop, List.dropWhile_append]
  split
  next none => rw [List.isEmpty_iff.mp none, drop, List.dropWhile_nil]
  next => rw [List.reverse_append, List.reverse_singleton, List.singleton_append, drop]

theorem lowerList_quoted (label : List Char) :
    Text.lowerList ('"' :: (label ++ ['"'])) = '"' :: (Text.lowerList label ++ ['"']) := by
  have ends : Text.EndsWord '"' := Text.separates_quote.endsWord (Nat.le_refl _) (Nat.le_refl _)
  have cut := ends.lowerList_append_cons [] (label ++ ['"'])
  rw [ends.lowerList_append_cons label []] at cut
  exact cut

/-- A start with `=` at its end is brought into lower case on its own. -/
theorem lowerList_append_of_starts {start : List Char} (starts : Text.lowerList start = labelStart)
    (label : List Char) :
    Text.lowerList (start ++ label) = labelStart ++ Text.lowerList label := by
  have separates : Text.Separates '='.toNat '='.toNat := by decide +kernel
  have ends := separates.endsWord (Nat.le_refl _) (Nat.le_refl _)
  rcases List.eq_nil_or_concat start with rfl | ⟨front, c, rfl⟩
  next => exact nomatch starts
  next =>
    rw [List.concat_eq_append] at starts ⊢
    obtain rfl : '=' = c := by
      obtain ⟨lowered, earlier, same⟩ := Text.exists_lowerFrom_concat [] front c
      have last : '=' ∈ Text.lowerBetween earlier c [] := by
        have all := congrArg List.getLast? (same.symm.trans starts)
        obtain ⟨e, final⟩ := Option.ne_none_iff_exists'.mp
          (mt List.getLast?_eq_none_iff.mp (Text.lowerBetween_ne_nil earlier c []))
        rw [List.getLast?_append, final, Option.some_or] at all
        exact List.mem_of_getLast? (final.trans all)
      exact separates.eq_of_mem_lowerBetween last (Nat.le_refl _) (Nat.le_refl _)
    rw [List.append_assoc, List.singleton_append, ends.lowerList_append_cons, ← starts,
      ends.lowerList_append_cons, List.append_assoc]
    rfl

theorem segmentLabel?_of_starts {segment start label : List Char}
    (trimmed : Text.trimList segment = start ++ label) (starts : Text.lowerList start = labelStart) :
    segmentLabel? (Text.lowerList segment) =
      some (String.ofList (strip '\'' (strip '"' (Text.lowerList label)))) := by
  have lowered : Text.lowerList (Text.trimList segment) = labelStart ++ Text.lowerList label := by
    rw [trimmed, lowerList_append_of_starts starts]
  have labelled : Labelled segment := by
    rw [Labelled, lowered]
    exact List.prefix_append _ _
  rw [segmentLabel?_lowerList, if_pos labelled, labelIn, lowered, List.drop_left]

/-- What starts with no blank and is put in quotes at its end has no blanks at its ends. -/
theorem trimList_quoted {segment start label : List Char}
    (trimmed : Text.trimList segment = start ++ label) (starts : Text.lowerList start = labelStart) :
    Text.trimList (start ++ '"' :: (label ++ ['"'])) = start ++ '"' :: (label ++ ['"']) := by
  refine Text.trimList_of_ends (fun c rest first => ?_) (fun c rest last => ?_)
  next =>
    cases start with
    | nil => exact nomatch starts
    | cons d front =>
      obtain ⟨rfl, -⟩ := List.cons.inj first
      exact Text.trimList_head trimmed
  next =>
    have final := congrArg List.getLast? last
    rw [← List.cons_append, ← List.append_assoc, List.getLast?_concat, List.getLast?_concat] at final
    obtain rfl := Option.some.inj final
    rfl

/-- Another spelling gives the same label. -/
theorem Respelled.label?_eq {s t : String} (h : Respelled s t) : label? s = label? t := by
  cases h with
  | case same =>
    have lower_eq (s : String) : Text.lower s = Text.lower (Text.asciiLower s) := by
      rw [Text.lower, Text.lower, Text.asciiLower, String.toList_ofList, Text.lowerList_toLower]
    rw [label?, label?, lower_eq s, same, ← lower_eq]
  | blanks without leftBlank rightBlank added =>
    refine label?_eq_of_segments without added ?_
    rw [segmentLabel?, segmentLabel?, Text.lowerList_blanks leftBlank rightBlank,
      Text.trimList_blanks leftBlank rightBlank]
  | later labelled one another =>
    rw [label?_eq_findSome?, label?_eq_findSome?, one, another, List.findSome?_append,
      List.findSome?_append, List.findSome?_cons, List.findSome?_cons, if_pos labelled]
  | unlabelled without unlabelled added =>
    rw [label?_eq_findSome?, label?_eq_findSome?, without, added, List.findSome?_append,
      List.findSome?_append, List.findSome?_cons, if_neg unlabelled]
  | quotes without trimmed starts leftBlank rightBlank quoted =>
    have inner := (Text.trimList_blanks leftBlank rightBlank _).trans
      (trimList_quoted trimmed starts)
    refine label?_eq_of_segments without quoted ?_
    rw [segmentLabel?_of_starts trimmed starts, segmentLabel?_of_starts inner starts,
      lowerList_quoted, strip_quoted]

/-- Spellings that lead to each other, forwards and backwards, give the same label. -/
theorem label?_eq_of_eqvGen {s t : String} (h : Relation.EqvGen Respelled s t) :
    label? s = label? t := by
  induction h with
  | rel _ _ step => exact step.label?_eq
  | refl => rfl
  | symm _ _ _ ih => exact ih.symm
  | trans _ _ _ _ _ first second => exact first.trans second

/-- Nothing is declared if the first segment that gives a label, if there is one, gives none that is
known. -/
theorem declared?_eq_none {contentType : String}
    (unknown : ∀ before segment after, segments contentType = before ++ segment :: after →
      (∀ other ∈ before, ¬ Labelled other) → Labelled segment → ofLabel? (labelIn segment) = none) :
    declared? (some contentType) = none := by
  rw [declared?, Option.bind_some, Option.bind_eq_none_iff]
  intro label gives
  rw [label?_eq_findSome?, List.findSome?_eq_some_iff] at gives
  obtain ⟨before, segment, after, split, given, first⟩ := gives
  have unlabelled : ∀ other ∈ before, ¬ Labelled other := fun other mem labelled =>
    absurd (first other mem) (if_pos labelled ▸ Option.some_ne_none _)
  obtain ⟨labelled, same⟩ := Option.ite_none_right_eq_some.mp given
  obtain rfl := Option.some.inj same
  exact unknown before segment after split unlabelled labelled

end Charset

/-! ## The text of a document -/

/-- The text of a document is the same however its type is spelled, and the same as without a type
if the first label in that is not known or there is none. -/
theorem Fetched.text_of_respelled (f : Fetched) (detect : Charset.Detector) :
    (∀ s t, Relation.EqvGen Charset.Respelled s t →
      { f with contentType := some s }.text detect =
        { f with contentType := some t }.text detect) ∧
    ∀ s, (∀ before segment after, Charset.segments s = before ++ segment :: after →
        (∀ other ∈ before, ¬ Charset.Labelled other) → Charset.Labelled segment →
        Charset.ofLabel? (Charset.labelIn segment) = none) →
      { f with contentType := some s }.text detect =
        { f with contentType := none }.text detect := by
  constructor
  · intro s t respelled
    rw [Fetched.text, Fetched.text, Charset.textOf, Charset.textOf, Charset.declared?,
      Charset.declared?, Option.bind_some, Option.bind_some, Charset.label?_eq_of_eqvGen respelled]
  · intro s unknown
    rw [Fetched.text, Fetched.text, Charset.textOf, Charset.textOf,
      Charset.declared?_eq_none unknown]
    rfl

/-- A label in other letters and in quotes, before another label and among other segments; and a
label that is not known before one that is. -/
theorem Fetched.text_of_respelled_latin1 :
    let f : Fetched := ⟨200, "", "", none, [0xC3, 0xA9]⟩
    let one := "text/html; charset=latin1"
    let another := "TEXT/HTML ;v=1; CharSet=\"Latin1\"; charset=utf-8"
    let unknown := "text/html; charset=l33t; charset=latin1"
    { f with contentType := some one }.text = "Ã©" ∧
      { f with contentType := some another }.text = "Ã©" ∧
      { f with contentType := some unknown }.text = "é" := by
  intro f one another unknown
  let html := "text/html".toList
  let label := " charset=latin1".toList
  let quoted := " charset=\"latin1\"".toList
  have quotes : Charset.Respelled one "text/html; charset=\"latin1\"" := by
    have without : Charset.segments one = [html] ++ label :: [] := by decide +kernel
    have trimmed : Text.trimList label = "charset=".toList ++ "latin1".toList := by decide +kernel
    have space : ∀ c ∈ [' '], Text.isBlank c = true := List.forall_mem_singleton.mpr rfl
    exact .quotes without trimmed (by decide +kernel) space (List.forall_mem_nil _)
      (by decide +kernel)
  have later : Charset.Respelled "text/html; charset=\"latin1\""
      "text/html; charset=\"latin1\"; charset=utf-8" := by
    have labelled : Charset.Labelled quoted := by decide +kernel
    have without : Charset.segments "text/html; charset=\"latin1\"" = [html] ++ quoted :: [] := by
      decide +kernel
    have added : Charset.segments "text/html; charset=\"latin1\"; charset=utf-8" =
        [html] ++ quoted :: [" charset=utf-8".toList] := by decide +kernel
    exact .later labelled without added
  have version : Charset.Respelled "text/html; charset=\"latin1\"; charset=utf-8"
      "text/html;v=1; charset=\"latin1\"; charset=utf-8" := by
    have unlabelled : ¬ Charset.Labelled "v=1".toList := by decide +kernel
    have without : Charset.segments "text/html; charset=\"latin1\"; charset=utf-8" =
        [html] ++ [quoted, " charset=utf-8".toList] := by decide +kernel
    exact .unlabelled without unlabelled (by decide +kernel)
  have blanks : Charset.Respelled "text/html;v=1; charset=\"latin1\"; charset=utf-8"
      "text/html ;v=1; charset=\"latin1\"; charset=utf-8" := by
    have without : Charset.segments "text/html;v=1; charset=\"latin1\"; charset=utf-8" =
        [] ++ html :: ["v=1".toList, quoted, " charset=utf-8".toList] := by decide +kernel
    have space : ∀ c ∈ [' '], Text.isBlank c = true := List.forall_mem_singleton.mpr rfl
    exact .blanks without (List.forall_mem_nil _) space (by decide +kernel)
  have case : Charset.Respelled "text/html ;v=1; charset=\"latin1\"; charset=utf-8" another :=
    .case (by decide +kernel)
  have respelled : Relation.EqvGen Charset.Respelled one another :=
    (((Relation.EqvGen.rel _ _ quotes).trans _ _ _ (.rel _ _ later)).trans _ _ _
      (.rel _ _ version)).trans _ _ _ ((Relation.EqvGen.rel _ _ blanks).trans _ _ _ (.rel _ _ case))
  have written : { f with contentType := some one }.text = "Ã©" := by decide +kernel
  have plain : { f with contentType := none }.text = "é" := by decide +kernel
  obtain ⟨same, skipped⟩ := Fetched.text_of_respelled f .plain
  refine ⟨written, (same one another respelled).symm.trans written,
    (skipped unknown ?_).trans plain⟩
  have pieces : Charset.segments unknown =
      [html, " charset=l33t".toList, " charset=latin1".toList] := by decide +kernel
  intro before segment after split first labelled
  rw [pieces] at split
  match before with
  | [] =>
    obtain ⟨rfl, -⟩ := List.cons.inj split
    exact absurd labelled (by decide +kernel)
  | [_] =>
    obtain ⟨rfl, -⟩ := List.cons.inj (List.cons.inj split).2
    decide +kernel
  | _ :: second :: _ =>
    obtain ⟨rfl, -⟩ := List.cons.inj (List.cons.inj split).2
    exact absurd (by decide +kernel) (first _ (List.mem_cons_of_mem _ List.mem_cons_self))

end PageExtract
