import Mathlib.Data.List.Forall2
import PageExtract.Proofs.Text.LowerCase
import PageExtract.Rule.Kind

/-!
# How kinds are written

A kind is looked up in lower case, by the full mapping of Unicode.  That mapping takes some
characters outside ASCII to ASCII letters, but not to the letters of the names of kinds.  So a kind
is written with the letters of one of its names, small ones or capital ones, and with blanks at the
ends, and not in any other way (`RuleKind.parse?_exact`).
-/

namespace PageExtract.RuleKind

/-- The names of a kind. -/
def names : RuleKind → List String
  | text => ["text"]
  | attr => ["attribute", "attr"]
  | list => ["list"]

/-- Whether a word has the letters of a name, each as a small letter or as a capital one. -/
def HasLetters (word name : List Char) : Prop :=
  List.Forall₂ (fun c d => c = d ∨ c = d.toUpper) word name

/-- Whether a text is a name of a kind, apart from the case of its letters and from blanks at its
ends. -/
def Written (kind : RuleKind) (s : String) : Prop :=
  ∃ left word right, s.toList = left ++ word ++ right ∧ (∀ c ∈ left, Text.isBlank c = true) ∧
    (∀ c ∈ right, Text.isBlank c = true) ∧ ∃ name ∈ kind.names, HasLetters word name.toList

/-! ## Letters -/

/-- Whether a character is a small letter other than `k`. -/
def IsPlain (d : Char) : Prop := 97 ≤ d.toNat ∧ d.toNat ≤ 122 ∧ d ≠ 'k'

instance (d : Char) : Decidable (IsPlain d) := by
  unfold IsPlain
  infer_instance

theorem IsPlain.ascii {d : Char} (plain : IsPlain d) : d.toNat < 0x80 ∧ d ≠ 'k' :=
  ⟨Nat.lt_of_le_of_lt plain.2.1 (by decide), plain.2.2⟩

theorem isPlain_of_mem_names {kind : RuleKind} {name : String} (mem : name ∈ kind.names) :
    ∀ d ∈ name.toList, IsPlain d := by
  have all : ∀ name ∈ kind.names, name.toList.all (fun d => decide (IsPlain d)) = true := by
    cases kind <;> decide
  intro d inside
  exact of_decide_eq_true (List.all_eq_true.mp (all name mem) d inside)

theorem map_toLower_eq_iff {word name : List Char} (plain : ∀ d ∈ name, IsPlain d) :
    word.map Char.toLower = name ↔ HasLetters word name := by
  rw [HasLetters, ← List.forall₂_eq_eq_eq, List.forall₂_map_left_iff]
  induction name generalizing word with
  | nil => rw [List.forall₂_nil_right_iff, List.forall₂_nil_right_iff]
  | cons d name ih =>
    obtain ⟨⟨low, high, -⟩, later⟩ := List.forall_mem_cons.mp plain
    simp only [List.forall₂_cons_right_iff, Text.toLower_eq_iff low high, ih later]

/-- The lower case of a word is a name if the word has its letters. -/
theorem lowerList_eq_iff {kind : RuleKind} {name : String} (mem : name ∈ kind.names)
    (word : List Char) : Text.lowerList word = name.toList ↔ HasLetters word name.toList := by
  have plain := isPlain_of_mem_names mem
  rw [Text.lowerList_eq_iff fun d inside => (plain d inside).ascii, map_toLower_eq_iff plain]

/-! ## Names -/

theorem trimList_name {kind : RuleKind} {name : String} (mem : name ∈ kind.names) :
    Text.trimList name.toList = name.toList := by
  have all : ∀ name ∈ kind.names, Text.trimList name.toList = name.toList := by
    cases kind <;> decide
  exact all name mem

theorem ofName?_eq_some_iff {s : String} {kind : RuleKind} :
    ofName? s = some kind ↔ s ∈ kind.names := by
  have apart : ∀ name ∈ kind.names, ofName? name = some kind := by cases kind <;> decide
  constructor
  · intro known
    unfold ofName? at known
    split at known
    next is_text =>
      obtain rfl := Option.some.inj known
      exact List.mem_singleton.mpr is_text
    next =>
      split at known
      next is_attr =>
        obtain rfl := Option.some.inj known
        exact List.mem_pair.mpr is_attr
      next =>
        split at known
        next is_list =>
          obtain rfl := Option.some.inj known
          exact List.mem_singleton.mpr is_list
        next => exact nomatch known
  · exact apart s

theorem parse?_eq_some_iff {s : String} {kind : RuleKind} :
    parse? s = some kind ↔ kind.Written s := by
  have lowered : parse? s = some kind ↔
      ∃ name ∈ kind.names, HasLetters (Text.trimList s.toList) name.toList := by
    have word : (Text.lower (Text.trim s)).toList = Text.lowerList (Text.trimList s.toList) := by
      rw [Text.lower, Text.trim, String.toList_ofList, String.toList_ofList]
    rw [parse?, ofName?_eq_some_iff]
    constructor
    · intro mem
      exact ⟨_, mem, (lowerList_eq_iff mem _).mp word.symm⟩
    · rintro ⟨name, mem, letters⟩
      have same := word.trans ((lowerList_eq_iff mem _).mpr letters)
      rwa [String.toList_inj.mp same]
  rw [lowered]
  constructor
  · rintro ⟨name, mem, letters⟩
    obtain ⟨left, right, leftBlank, rightBlank, whole⟩ := Text.exists_blanks_trimList s.toList
    exact ⟨left, Text.trimList s.toList, right, whole, leftBlank, rightBlank, name, mem, letters⟩
  · rintro ⟨left, word, right, whole, leftBlank, rightBlank, name, mem, letters⟩
    have plain := isPlain_of_mem_names mem
    rw [← map_toLower_eq_iff plain] at letters
    refine ⟨name, mem, ?_⟩
    rw [← map_toLower_eq_iff plain, whole, Text.trimList_blanks leftBlank rightBlank,
      ← Text.trimList_map Text.isBlank_toLower, letters, trimList_name mem]

example : parse? "\u3000aTTr\n" = some attr := by decide +kernel

/-- A kind is what is written with the letters of one of its names, each in either case, between
blanks, and nothing else is a kind.  In no place does a character outside ASCII become a part of one
of the names in lower case. -/
theorem parse?_exact :
    (∀ s kind, parse? s = some kind ↔ Written kind s) ∧
    (∀ s, parse? s = none ↔ ∀ kind, ¬ Written kind s) ∧
    ∀ kind, ∀ name ∈ names kind, ∀ before c after, 0x80 ≤ c.toNat →
      ¬ Text.lowerBetween before c after <:+: name.toList := by
  refine ⟨fun _ _ => parse?_eq_some_iff, fun s => ?_, ?_⟩
  · simp only [← parse?_eq_some_iff, Option.eq_none_iff_forall_ne_some]
  · intro kind name mem before c after beyond part
    have ascii := Text.ascii_of_lowerBetween fun d inside =>
      (isPlain_of_mem_names mem d (part.subset inside)).ascii
    omega

theorem parse?_exact_list :
    "list" ∈ names list ∧ 0x80 ≤ '\u0130'.toNat ∧
      ¬ Text.lowerBetween ['l'] '\u0130' ['s', 't'] <:+: "list".toList ∧
      parse? "\u3000LiSt" = some list := by
  have listed : "list" ∈ names list := .head _
  have beyond : 0x80 ≤ '\u0130'.toNat := by decide
  refine ⟨listed, beyond, parse?_exact.2.2 list "list" listed _ _ _ beyond, ?_⟩
  refine (parse?_exact.1 _ list).mpr ⟨['\u3000'], ['L', 'i', 'S', 't'], [], rfl, ?_⟩
  refine ⟨List.forall_mem_singleton.mpr (by decide), List.forall_mem_nil _, "list", listed, ?_⟩
  exact (map_toLower_eq_iff (isPlain_of_mem_names listed)).mp (by decide +kernel)

end PageExtract.RuleKind
