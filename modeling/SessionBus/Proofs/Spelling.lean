import SessionBus.Proofs.Text.Numeral
import SessionBus.Version

/-!
# How identities and versions are spelled

A text names an identity or a version when it follows a small grammar over numerals.  The grammars
are told without the parsers; these accept exactly what the grammars spell, give every other text
back as it is, and undo the writing of identities and versions.
-/

namespace SessionBus

/-! ## Identities -/

namespace FrameId

/-- Blanks at both ends set aside, a text spells a number by a numeral, with the mark in front of it
or without. -/
def Spelled (text : String) (n : Nat) : Prop :=
  ∃ core numeral, Text.Core text.toList core ∧ (core = numeral ∨ core = mark ++ numeral) ∧
    Text.Numeral numeral n

theorem dropMark_append (text : List Char) : dropMark (mark ++ text) = text := by
  have marked : mark.isPrefixOf (mark ++ text) = true :=
    List.isPrefixOf_iff_prefix.mpr (List.prefix_append mark text)
  rw [dropMark, if_pos marked, List.drop_left]

theorem eq_or_eq_mark_append_dropMark (text : List Char) :
    text = dropMark text ∨ text = mark ++ dropMark text := by
  by_cases marked : mark.isPrefixOf text = true
  · rcases List.isPrefixOf_iff_prefix.mp marked with ⟨rest, rfl⟩
    exact .inr (congrArg (mark ++ ·) (dropMark_append rest).symm)
  · rw [dropMark, if_neg marked]
    exact .inl rfl

/-- A numeral has no mark. -/
theorem dropMark_of_numeral {text : List Char} {n : Nat} (numeral : Text.Numeral text n) :
    dropMark text = text := by
  rcases eq_or_eq_mark_append_dropMark text with same | marked
  · exact same.symm
  · have first : 'f' ∈ text := by
      rw [marked]
      exact List.mem_append_left _ List.mem_cons_self
    exact absurd (numeral.mem first) (by decide)

theorem numeral_dropMark_iff {text : List Char} {n : Nat} :
    Text.Numeral (dropMark text) n ↔
      ∃ numeral, (text = numeral ∨ text = mark ++ numeral) ∧ Text.Numeral numeral n := by
  constructor
  · intro numeral
    exact ⟨dropMark text, eq_or_eq_mark_append_dropMark text, numeral⟩
  · rintro ⟨numeral, rfl | rfl, spelled⟩
    · rw [dropMark_of_numeral spelled]
      exact spelled
    · rw [dropMark_append]
      exact spelled

theorem spelled_iff {text : String} {n : Nat} :
    Spelled text n ↔ Text.Numeral (dropMark (Text.trim text.toList)) n := by
  rw [numeral_dropMark_iff]
  constructor
  · rintro ⟨core, numeral, isCore, marked, spelled⟩
    rw [isCore.trim]
    exact ⟨numeral, marked, spelled⟩
  · rintro ⟨numeral, marked, spelled⟩
    exact ⟨_, numeral, Text.core_trim text.toList, marked, spelled⟩

/-- A text names the identity whose number it spells. -/
theorem ofText?_eq_some_iff {text : String} {frame : FrameId} :
    ofText? text = some frame ↔
      ∃ n < UInt64.size, Spelled text n ∧ frame = ⟨UInt64.ofNat n⟩ := by
  simp only [ofText?, Option.map_eq_some_iff, Text.numeral?_eq_some_iff, ← spelled_iff]
  constructor
  · rintro ⟨n, ⟨spelled, below⟩, rfl⟩
    exact ⟨n, below, spelled, rfl⟩
  · rintro ⟨n, below, spelled, rfl⟩
    exact ⟨n, ⟨spelled, below⟩, rfl⟩

theorem parse_eq_ok_iff {text : String} {frame : FrameId} :
    parse text = .ok frame ↔
      ∃ n < UInt64.size, Spelled text n ∧ frame = ⟨UInt64.ofNat n⟩ := by
  rw [← ofText?_eq_some_iff, parse]
  cases ofText? text <;> simp

/-- A text that spells no number in range is given back. -/
theorem parse_eq_error_iff {text : String} {error : FrameIdError} :
    parse text = .error error ↔
      (¬ ∃ n < UInt64.size, Spelled text n) ∧ error = .invalid text := by
  have unnamed : (¬ ∃ n < UInt64.size, Spelled text n) ↔ ofText? text = none := by
    rw [Option.eq_none_iff_forall_ne_some]
    constructor
    · intro none frame named
      rcases ofText?_eq_some_iff.mp named with ⟨n, below, spelled, _⟩
      exact none ⟨n, below, spelled⟩
    · rintro none ⟨n, below, spelled⟩
      exact none _ (ofText?_eq_some_iff.mpr ⟨n, below, spelled, rfl⟩)
  rw [unnamed, parse]
  cases ofText? text <;> simp [eq_comm]

/-- An identity is written as its number is spelled. -/
theorem spelled_text (frame : FrameId) : Spelled frame.text frame.value.toNat := by
  have digits := Text.digits_toDigits frame.value.toNat
  refine ⟨_, _, ⟨⟨[], [], ?_, nofun, nofun⟩, ?_, ?_⟩, .inr rfl, .inl digits⟩
  · rw [text, String.toList_ofList, List.nil_append, List.append_nil]
  · rintro c ⟨⟩
    decide
  · intro c last
    rw [List.getLast?_append, List.getLast?_eq_some_getLast digits.nonempty, Option.some_or] at last
    cases last
    exact Text.isBlank_of_isDigit (digits.digits _ (List.getLast_mem digits.nonempty))

end FrameId

/-! ## Versions -/

namespace Version

/-- A text with one point spells a major and a minor number by the numerals around it. -/
def Spelled (text : String) (major minor : Nat) : Prop :=
  text.toList.count '.' = 1 ∧
    ∃ before after, text.toList = before ++ '.' :: after ∧ Text.Numeral before major ∧
      Text.Numeral after minor

theorem point_notMem {text : List Char} {n : Nat} (numeral : Text.Numeral text n) :
    '.' ∉ text := by
  intro inside
  exact absurd (numeral.mem inside) (by decide)

/-- A text is split at its first point. -/
theorem splitPoint_append {before : List Char} (fresh : '.' ∉ before) (after : List Char) :
    splitPoint (before ++ '.' :: after) = some (before, after) := by
  induction before with
  | nil =>
      rfl
  | cons c before ih =>
      rw [List.mem_cons, not_or] at fresh
      rcases fresh with ⟨other, later⟩
      rw [List.cons_append, splitPoint, if_neg (Ne.symm other), ih later]
      rfl

theorem eq_of_splitPoint {text before after : List Char}
    (split : splitPoint text = some (before, after)) : text = before ++ '.' :: after := by
  induction text generalizing before with
  | nil =>
      cases split
  | cons c rest ih =>
      by_cases point : c = '.'
      · rw [splitPoint, if_pos point] at split
        rcases Prod.mk.inj (Option.some.inj split) with ⟨rfl, rfl⟩
        exact congrArg (· :: rest) point
      · rw [splitPoint, if_neg point] at split
        rcases Option.map_eq_some_iff.mp split with ⟨⟨front, back⟩, found, same⟩
        cases same
        exact congrArg (c :: ·) (ih found)

theorem spelled_iff {text : String} {major minor : Nat} :
    Spelled text major minor ↔
      ∃ before after, splitPoint text.toList = some (before, after) ∧
        Text.Numeral before major ∧ Text.Numeral after minor := by
  constructor
  · rintro ⟨_, before, after, split, first, second⟩
    refine ⟨before, after, ?_, first, second⟩
    rw [split]
    exact splitPoint_append (point_notMem first) after
  · rintro ⟨before, after, split, first, second⟩
    have whole := eq_of_splitPoint split
    refine ⟨?_, before, after, whole, first, second⟩
    rw [whole, List.count_append, List.count_eq_zero.mpr (point_notMem first),
      List.count_cons_self, List.count_eq_zero.mpr (point_notMem second)]

theorem ofText?_eq_some_iff {text : String} {version : Version} :
    ofText? text = some version ↔
      ∃ major < UInt16.size, ∃ minor < UInt16.size, Spelled text major minor ∧
        version = ⟨UInt16.ofNat major, UInt16.ofNat minor⟩ := by
  simp only [ofText?, Option.bind_eq_bind, Option.pure_def, Option.bind_eq_some_iff,
    Option.some.injEq, Prod.exists, Text.numeral?_eq_some_iff, spelled_iff]
  constructor
  · rintro ⟨before, after, split, major, ⟨first, majorBelow⟩, minor, ⟨second, minorBelow⟩, rfl⟩
    exact ⟨major, majorBelow, minor, minorBelow, ⟨before, after, split, first, second⟩, rfl⟩
  · rintro ⟨major, majorBelow, minor, minorBelow, ⟨before, after, split, first, second⟩, rfl⟩
    exact ⟨before, after, split, major, ⟨first, majorBelow⟩, minor, ⟨second, minorBelow⟩, rfl⟩

theorem parse_eq_ok_iff {text : String} {version : Version} :
    parse text = .ok version ↔
      ∃ major < UInt16.size, ∃ minor < UInt16.size, Spelled text major minor ∧
        version = ⟨UInt16.ofNat major, UInt16.ofNat minor⟩ := by
  rw [← ofText?_eq_some_iff, parse]
  cases ofText? text <;> simp

theorem parse_eq_error_iff {text : String} {error : VersionError} :
    parse text = .error error ↔
      (¬ ∃ major < UInt16.size, ∃ minor < UInt16.size, Spelled text major minor) ∧
        error = .invalidFormat text := by
  have unnamed :
      (¬ ∃ major < UInt16.size, ∃ minor < UInt16.size, Spelled text major minor) ↔
        ofText? text = none := by
    rw [Option.eq_none_iff_forall_ne_some]
    constructor
    · intro none version named
      rcases ofText?_eq_some_iff.mp named with ⟨major, majorBelow, minor, minorBelow, spelled, _⟩
      exact none ⟨major, majorBelow, minor, minorBelow, spelled⟩
    · rintro none ⟨major, majorBelow, minor, minorBelow, spelled⟩
      exact none _
        (ofText?_eq_some_iff.mpr ⟨major, majorBelow, minor, minorBelow, spelled, rfl⟩)
  rw [unnamed, parse]
  cases ofText? text <;> simp [eq_comm]

/-- A version is written as its numbers are spelled. -/
theorem spelled_text (version : Version) :
    Spelled version.text version.major.toNat version.minor.toNat := by
  have first := Text.digits_toDigits version.major.toNat
  have second := Text.digits_toDigits version.minor.toNat
  have whole : version.text.toList =
      Nat.toDigits 10 version.major.toNat ++ '.' :: Nat.toDigits 10 version.minor.toNat := by
    simp only [text, decimal, String.toList_append, String.toList_ofList]
    exact List.append_assoc _ _ _
  refine spelled_iff.mpr ⟨_, _, ?_, .inl first, .inl second⟩
  rw [whole]
  exact splitPoint_append (point_notMem (.inl first)) _

end Version

/--
The parsers of identities and versions accept exactly their grammars.  A text is an identity when it
spells a number of 64 bits, and a version when it spells two numbers of 16 bits; every other text is
refused and given back unchanged.  So what an identity or a version is written as is read as that
identity or version.
-/
theorem identities_and_versions_read_as_spelled :
    (∀ text frame, FrameId.parse text = .ok frame ↔
        ∃ n < UInt64.size, FrameId.Spelled text n ∧ frame = ⟨UInt64.ofNat n⟩) ∧
      (∀ text error, FrameId.parse text = .error error ↔
        (¬ ∃ n < UInt64.size, FrameId.Spelled text n) ∧ error = .invalid text) ∧
      (∀ text version, Version.parse text = .ok version ↔
        ∃ major < UInt16.size, ∃ minor < UInt16.size, Version.Spelled text major minor ∧
          version = ⟨UInt16.ofNat major, UInt16.ofNat minor⟩) ∧
      (∀ text error, Version.parse text = .error error ↔
        (¬ ∃ major < UInt16.size, ∃ minor < UInt16.size, Version.Spelled text major minor) ∧
          error = .invalidFormat text) ∧
      (∀ frame, FrameId.parse frame.text = .ok frame) ∧
      ∀ version, Version.parse version.text = .ok version := by
  refine ⟨fun _ _ => FrameId.parse_eq_ok_iff, fun _ _ => FrameId.parse_eq_error_iff,
    fun _ _ => Version.parse_eq_ok_iff, fun _ _ => Version.parse_eq_error_iff, ?_, ?_⟩
  · intro frame
    have number : frame = ⟨UInt64.ofNat frame.value.toNat⟩ := by
      rw [UInt64.ofNat_toNat]
    exact FrameId.parse_eq_ok_iff.mpr ⟨_, frame.value.toNat_lt, frame.spelled_text, number⟩
  · intro version
    have numbers : version =
        ⟨UInt16.ofNat version.major.toNat, UInt16.ofNat version.minor.toNat⟩ := by
      rw [UInt16.ofNat_toNat, UInt16.ofNat_toNat]
    exact Version.parse_eq_ok_iff.mpr
      ⟨_, version.major.toNat_lt, _, version.minor.toNat_lt, version.spelled_text, numbers⟩

/-- Blanks are dropped in front of the mark, and not behind it. -/
example : FrameId.ofText? " frame-+007\n" = some ⟨7⟩ ∧ FrameId.ofText? "frame- 7" = none := by
  decide

end SessionBus
