import EntityModel.Proofs.Yaml.Moments
import EntityModel.Proofs.Yaml.PlainNumbers

/-!
# Plain scalars are read back

A scalar that is written without quotes is recognised as one of its type, and its text is read as
the scalar. This needs of a number with a fraction that 64 bits hold it, and of a moment that it can
be written exactly.
-/

namespace EntityModel.Yaml

open Number Text

/-! ### Moments -/

/-- The characters after the date of a moment. -/
def clockChars (m : Moment) : List Char :=
  match m.clock with
  | none => []
  | some c => ' ' :: (Moment.shownClock c).toList

/-- A moment is written as year, month and day, and then its time of day. -/
lemma toList_shown (m : Moment) : m.shown.toList = (Moment.padded 4 m.year).toList ++
    '-' :: ((Moment.padded 2 m.month).toList ++
      '-' :: ((Moment.padded 2 m.day).toList ++ clockChars m)) := by
  rw [Moment.shown, clockChars]
  cases m.clock <;> simp [String.toList_append]

lemma toList_shownOffset (seconds : Int) : (Moment.shownOffset seconds).toList =
    (if seconds < 0 then '-' else '+') :: ((Moment.padded 2 (seconds.natAbs / 3600)).toList ++
      ':' :: ((Moment.padded 2 (seconds.natAbs / 60 % 60)).toList ++
        if seconds.natAbs % 60 = 0 then [] else
          ':' :: (Moment.padded 2 (seconds.natAbs % 60)).toList)) := by
  rw [Moment.shownOffset]
  split_ifs <;> simp [String.toList_append]

/-- Moments are written in digits, hyphens, colons and the like. -/
lemma isMark_of_mem_shown (m : Moment) : ∀ c ∈ m.shown.toList, IsMark c := by
  have padded (width n : Nat) : ∀ c ∈ (Moment.padded width n).toList, IsMark c :=
    fun c mem => .inl (.inl (isDigit_of_mem_padded c mem))
  have hyphen : IsMark '-' := by decide
  have colon : IsMark ':' := by decide
  have offset (c : Clock) : ∀ d ∈ offsetChars c, IsMark d := by
    unfold offsetChars
    split
    · exact List.forall_mem_nil _
    · rw [toList_shownOffset]
      refine List.forall_mem_cons.2 ⟨by split_ifs <;> decide, List.forall_mem_append.2 ⟨padded 2 _,
        List.forall_mem_cons.2 ⟨colon, List.forall_mem_append.2 ⟨padded 2 _, ?_⟩⟩⟩⟩
      split_ifs
      · exact List.forall_mem_nil _
      · exact List.forall_mem_cons.2 ⟨colon, padded 2 _⟩
  have fraction (n : Nat) :
      ∀ d ∈ (if n = 0 then "" else "." ++ Moment.padded 6 n).toList, IsMark d := by
    split_ifs
    · simp
    · have point : IsMark '.' := by decide
      rw [String.toList_append]
      exact List.forall_mem_append.2 ⟨List.forall_mem_singleton.2 point, padded 6 n⟩
  have clock : ∀ c ∈ clockChars m, IsMark c := by
    unfold clockChars
    split
    · exact List.forall_mem_nil _
    · rw [toList_shownClock]
      exact List.forall_mem_cons.2 ⟨by decide, List.forall_mem_append.2 ⟨padded 2 _,
        List.forall_mem_cons.2 ⟨colon, List.forall_mem_append.2 ⟨padded 2 _,
          List.forall_mem_cons.2 ⟨colon, List.forall_mem_append.2 ⟨padded 2 _,
            List.forall_mem_append.2 ⟨fraction _, offset _⟩⟩⟩⟩⟩⟩⟩
  rw [toList_shown]
  exact List.forall_mem_append.2 ⟨padded 4 _, List.forall_mem_cons.2 ⟨hyphen,
    List.forall_mem_append.2 ⟨padded 2 _, List.forall_mem_cons.2 ⟨hyphen,
      List.forall_mem_append.2 ⟨padded 2 _, clock⟩⟩⟩⟩⟩

/-- A hyphen behind two digits or more, before any point or colon. -/
inductive StartsYear : List Char → Prop
  | mk {a b : Char} {more : List Char} (digits : ∀ c ∈ a :: b :: more, c.isDigit = true)
      (rest : List Char) : StartsYear (a :: b :: (more ++ '-' :: rest))

/-- No numeral holds a hyphen. -/
lemma isNumeral_of_mem {cs : List Char} (mem : '-' ∈ cs) : isNumeral cs = false := by
  cases cs with
  | nil => cases mem
  | cons c rest =>
    rw [isNumeral, Bool.and_eq_false_iff]
    rcases List.mem_cons.1 mem with rfl | mem
    · exact .inl (by decide)
    · exact .inr (List.all_eq_false.2 ⟨'-', mem, by decide⟩)

lemma exists_splitAtChar_eq (c : Char) (cs : List Char) :
    ∃ part parts, splitAtChar c cs = part :: parts := by
  cases cs with
  | nil => exact ⟨[], [], rfl⟩
  | cons d cs =>
    rw [splitAtChar]
    split_ifs
    · exact ⟨_, _, rfl⟩
    · split <;> exact ⟨_, _, rfl⟩

/-- What stands before the first occurrence of the character begins the first part. -/
lemma exists_splitAtChar_append {c : Char} {before : List Char} (absent : c ∉ before)
    (after : List Char) :
    ∃ part parts, splitAtChar c (before ++ after) = (before ++ part) :: parts := by
  induction before with
  | nil => exact exists_splitAtChar_eq c after
  | cons d before ih =>
    rw [List.mem_cons, not_or] at absent
    obtain ⟨part, parts, split⟩ := ih absent.2
    refine ⟨part, parts, ?_⟩
    rw [List.cons_append, splitAtChar, if_neg (by simpa using Ne.symm absent.1), split]
    rfl

/-- The first part of what starts with a year is no numeral, so it is no number in parts of
sixty. -/
lemma StartsYear.exists_splitAtChar_eq {cs : List Char} (h : StartsYear cs) :
    ∃ part parts, splitAtChar ':' cs = part :: parts ∧ isNumeral part = false := by
  obtain @⟨a, b, more, digits, rest⟩ := h
  have absent : ':' ∉ a :: b :: (more ++ ['-']) := by
    simpa using not_mem_digits digits (d := ':') (by decide)
  obtain ⟨part, parts, split⟩ := exists_splitAtChar_append absent rest
  refine ⟨a :: b :: (more ++ '-' :: part), parts, ?_, isNumeral_of_mem (by simp)⟩
  simpa using split

/-- The hyphen stands before any point. -/
lemma StartsYear.takeWhile {cs : List Char} (h : StartsYear cs) :
    StartsYear (cs.takeWhile (· != '.')) := by
  obtain @⟨a, b, more, digits, rest⟩ := h
  have kept : ∀ c ∈ a :: b :: (more ++ ['-']), (c != '.') = true := by
    have noPoint := not_mem_digits digits (d := '.') (by decide)
    intro c mem
    rw [bne_iff_ne]
    rintro rfl
    exact noPoint (by simpa using mem)
  have taken : (a :: b :: (more ++ ['-']) ++ rest).takeWhile (· != '.') =
      a :: b :: (more ++ ['-']) ++ rest.takeWhile (· != '.') := List.takeWhile_append_of_pos kept
  rw [show a :: b :: (more ++ '-' :: rest) = a :: b :: (more ++ ['-']) ++ rest by simp, taken]
  simpa using StartsYear.mk digits (rest.takeWhile (· != '.'))

lemma StartsYear.isNumeral_eq {cs : List Char} (h : StartsYear cs) : isNumeral cs = false := by
  obtain ⟨digits, rest⟩ := h
  exact isNumeral_of_mem (by simp)

lemma StartsYear.unsigned_eq {cs : List Char} (h : StartsYear cs) : unsigned cs = cs := by
  obtain ⟨digits, rest⟩ := h
  have signed := @signed_digit false _ (digits _ List.mem_cons_self)
  simp only [Bool.false_eq_true, if_false] at signed
  rw [unsigned, signed]

/-- What starts with a year is no number with a fraction. -/
lemma StartsYear.isRealText {cs : List Char} (h : StartsYear cs) (marks : ∀ c ∈ cs, IsMark c) :
    isRealText cs = false := by
  have numeral := h.takeWhile.isNumeral_eq
  have isSixty : isSixtyReal cs = false := by
    obtain ⟨part, parts, split, noNumeral⟩ := h.takeWhile.exists_splitAtChar_eq
    rw [isSixtyReal]
    simp only [split]
    cases parts with
    | nil => rfl
    | cons => simp [noNumeral]
  have noWord (words : List String)
      (others : ∀ word ∈ words, word.toList.all (IsMark ·) = false) :
      words.contains (String.ofList cs) = false :=
    contains_eq_false (by simpa using marks) others
  have infinite := noWord [".inf", ".Inf", ".INF"] (by decide)
  have nan := noWord [".nan", ".NaN", ".NAN"] (by decide)
  simp only [Yaml.isRealText, h.unsigned_eq, numeral, isSixty, infinite, nan, Bool.false_and,
    Bool.false_or, Bool.or_false]
  obtain ⟨digits, rest⟩ := h
  split
  · rename_i same
    exact absurd ((List.cons.inj same).1 ▸ digits _ List.mem_cons_self) (by decide)
  · rfl

/-- What starts with a year is no whole number. -/
lemma StartsYear.isWholeText {cs : List Char} (h : StartsYear cs) : isWholeText cs = false := by
  obtain ⟨part, parts, parted, noNumeral⟩ := h.exists_splitAtChar_eq
  rw [Yaml.isWholeText, h.unsigned_eq]
  obtain @⟨a, b, more, digits, rest⟩ := h
  have second : b.isDigit = true := digits b (by simp)
  split
  · rename_i same
    cases (List.cons.inj same).2
  · rename_i same
    obtain ⟨rfl, -⟩ := List.cons.inj (List.cons.inj same).2
    exact absurd second (by decide)
  · rename_i same
    obtain ⟨rfl, -⟩ := List.cons.inj (List.cons.inj same).2
    exact absurd second (by decide)
  · rename_i same
    obtain ⟨-, rfl⟩ := List.cons.inj same
    exact List.all_eq_false.2 ⟨'-', by simp, by decide⟩
  · rw [parted]
    simp [noNumeral]

/-- Years have four digits, and a hyphen follows them. -/
lemma startsYear_shown {m : Moment} (year : m.year < 10 ^ 4) : StartsYear m.shown.toList := by
  have inYear := areDigits_padded (by decide) year
  generalize digits : (Moment.padded 4 m.year).toList = ds at inYear
  match ds, inYear with
  | a :: b :: more, inYear =>
    rw [toList_shown, digits]
    exact .mk inYear.digits _
  | [], inYear => cases inYear.length
  | [_], inYear => cases inYear.length

/-- A date alone is written in ten characters. -/
lemma length_shown {m : Moment} (exact : IsExact m) (date : m.clock = none) :
    m.shown.toList.length = 10 := by
  obtain ⟨year, month, day, -⟩ := of_problem?_eq_none exact.known
  have inYear := areDigits_padded (by decide) year
  have inMonth := areDigits_padded two_pos month
  have inDay := areDigits_padded two_pos day
  simp [toList_shown, clockChars, date, inYear.length, inMonth.length, inDay.length]

/-- A moment is recognised by the hyphen behind its year, and read back. -/
lemma scalar_shown {m : Moment} (exact : IsExact m) :
    (NodeType.ofPlain m.shown).scalar m.shown = .ok (.moment m) := by
  have starts := startsYear_shown (of_problem?_eq_none exact.known).1
  have marks := isMark_of_mem_shown m
  have read := readMoment?_shown exact
  have some : m.shown ≠ "" := by
    rintro empty
    rw [empty] at starts
    cases starts
  have isMoment : isMoment m.shown.toList = true := by
    rw [Yaml.isMoment, read]
    cases clock : m.clock with
    | none => simp [clock, length_shown exact clock]
    | some c => simp [clock]
  have type : NodeType.ofPlain m.shown = .moment := by
    rw [ofPlain_of_marks marks some, starts.isRealText marks, starts.isWholeText, isMoment]
    rfl
  rw [type, NodeType.scalar, momentValue, read]
  simp only [exact.known]
  rfl

/-! ### Scalars -/

/-- The text of a scalar says all of it. -/
def IsFaithful : Scalar → Prop
  | .real x => x.IsRepresentable
  | .moment m => IsExact m
  | _ => True

/-- A text is written without quotes only where it looks like no other value. -/
lemma ofPlain_of_ofText {s : String} {isKey : Bool} (plain : Style.ofText isKey s = .plain) :
    NodeType.ofPlain s = .text := by
  simp only [Style.ofText] at plain
  split_ifs at plain with canBe
  exact of_decide_eq_true (Bool.and_eq_true_iff.1 canBe).2

/-- What is written without quotes has the type of the scalar, and means it. -/
theorem scalar_scalarText {s : Scalar} (faithful : IsFaithful s)
    (plain : ∀ text, s = .text text → ∃ isKey, Style.ofText isKey text = .plain) :
    (NodeType.ofPlain (scalarText s)).scalar (scalarText s) = .ok s := by
  cases s with
  | null => rfl
  | bool b => cases b <;> rfl
  | int i => exact scalar_toString_int i
  | real x => exact scalar_realText faithful
  | moment m => exact scalar_shown faithful
  | text s =>
    obtain ⟨isKey, plain⟩ := plain s rfl
    change (NodeType.ofPlain s).scalar s = _
    rw [ofPlain_of_ofText plain]
    rfl

end EntityModel.Yaml
