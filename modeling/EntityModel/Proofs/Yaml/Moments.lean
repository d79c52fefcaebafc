import EntityModel.Proofs.Number.Written
import EntityModel.Yaml.Moment
import Mathlib.Data.List.TakeWhile

/-!
# Written moments are read back

A date that exists, alone or with a time of day, is read back from its written form. An offset from
universal time is read back where it is in whole minutes: seconds in it are written but not read.
-/

namespace EntityModel

open Number

/-! ### Numbers of fixed width -/

/-- Characters are as many digits, and they write the number. -/
structure AreDigits (width n : Nat) (ds : List Char) : Prop where
  length : ds.length = width
  digits : ∀ c ∈ ds, c.isDigit = true
  value : ofChars ds = n

lemma toList_padded (width n : Nat) : (Moment.padded width n).toList =
    List.replicate (width - (Nat.toDigits 10 n).length) '0' ++ Nat.toDigits 10 n := by
  rw [Moment.padded, Nat.toString_eq_ofList_toDigits, String.toList_append,
    String.toList_ofList, String.toList_ofList, String.length_ofList]

lemma isDigit_of_mem_padded {width n : Nat} :
    ∀ c ∈ (Moment.padded width n).toList, c.isDigit = true := by
  rw [toList_padded]
  exact List.forall_mem_append.2 ⟨Binary64.isDigit_of_mem_replicate, fun c mem =>
    Nat.isDigit_of_mem_toDigits (by decide) (by decide) mem⟩

/-- A number that fits the width is written in just as many digits. -/
lemma areDigits_padded {width n : Nat} (some : 0 < width) (small : n < 10 ^ width) :
    AreDigits width n (Moment.padded width n).toList := by
  have most : (Nat.toDigits 10 n).length ≤ width :=
    (Nat.length_toDigits_le_iff (by decide) some).2 small
  refine ⟨?_, isDigit_of_mem_padded, ?_⟩
  · rw [toList_padded, List.length_append, List.length_replicate]
    omega
  · rw [toList_padded, Binary64.ofChars_zeros_append]
    exact Nat.ofDigitChars_ten_toDigits

namespace Yaml

/-- A run of digits is read back, whatever follows it, if no more digits may be taken. -/
lemma readDigits?_append {width n least : Nat} {ds : List Char} (h : AreDigits width n ds)
    (enough : least ≤ width) (rest : List Char) :
    readDigits? least width (ds ++ rest) = some (n, rest) := by
  have taken : (ds ++ rest).take width = ds := by
    rw [← h.length, List.take_left]
  have all : ds.takeWhile Char.isDigit = ds := List.takeWhile_eq_self_iff.2 h.digits
  have value : ds.foldl (fun n d => 10 * n + (d.toNat - 0x30)) 0 = n := h.value
  rw [readDigits?, taken, all, if_neg (by rw [h.length]; omega), value, List.drop_left]

lemma after?_cons (c : Char) (rest : List Char) : after? c (c :: rest) = some rest := by
  rw [after?, beq_self_eq_true, if_pos rfl]

/-! ### Times of day -/

/-- An offset in hours and minutes is read with its sign. -/
lemma readOffset?_cons {sign : Char} (isSign : sign = '-' ∨ sign = '+') {hours minutes : Nat}
    {hs ms : List Char} (inHours : AreDigits 2 hours hs) (inMinutes : AreDigits 2 minutes ms) :
    readOffset? (sign :: (hs ++ ':' :: ms)) =
      some (if sign = '-' then -(3600 * hours + 60 * minutes : Int)
        else 3600 * hours + 60 * minutes) := by
  have readHours := readDigits?_append inHours one_le_two (':' :: ms)
  have readMinutes := readDigits?_append inMinutes le_rfl []
  rw [List.append_nil] at readMinutes
  rcases isSign with rfl | rfl <;>
    simp [readOffset?, isSpace, readHours, after?_cons, readMinutes]

/-- An offset in whole minutes is read back. -/
lemma readOffset?_shownOffset {seconds : Int} (day : seconds.natAbs < 86400)
    (minutes : (60 : Int) ∣ seconds) :
    readOffset? (Moment.shownOffset seconds).toList = some seconds := by
  have whole : seconds.natAbs % 60 = 0 := by omega
  have inHours := areDigits_padded (n := seconds.natAbs / 3600) two_pos (by omega)
  have inMinutes := areDigits_padded (n := seconds.natAbs / 60 % 60) two_pos (by omega)
  have chars : (Moment.shownOffset seconds).toList = (if seconds < 0 then '-' else '+') ::
      ((Moment.padded 2 (seconds.natAbs / 3600)).toList ++
        ':' :: (Moment.padded 2 (seconds.natAbs / 60 % 60)).toList) := by
    rw [Moment.shownOffset, whole, if_pos rfl]
    split_ifs <;> simp [String.toList_append]
  rw [chars, readOffset?_cons (by split_ifs <;> simp) inHours inMinutes]
  congr 1
  split_ifs <;> first | omega | simp_all

/-- A fraction is read back, and none is read where none is written. -/
lemma readFraction_append {micro : Nat} (small : micro < 10 ^ 6) {rest : List Char}
    (stops : ∀ c more, rest = c :: more → c.isDigit = false ∧ c ≠ '.') :
    readFraction ((if micro = 0 then "" else "." ++ Moment.padded 6 micro).toList ++ rest) =
      (micro, rest) := by
  split_ifs with none
  · subst none
    cases rest with
    | nil => rfl
    | cons c more =>
      obtain ⟨-, noPoint⟩ := stops c more rfl
      simp [readFraction, after?, Ne.symm noPoint]
  · have inMicro := areDigits_padded (by decide) small
    generalize (Moment.padded 6 micro) = text at inMicro ⊢
    have digits : (text.toList ++ rest).takeWhile Char.isDigit = text.toList := by
      rw [List.takeWhile_append_of_pos inMicro.digits]
      cases rest with
      | nil => rw [List.takeWhile_nil, List.append_nil]
      | cons c more => rw [List.takeWhile_cons_of_neg (by simp [stops c more rfl]), List.append_nil]
    have value : text.toList.foldl (fun n d => 10 * n + (d.toNat - 0x30)) 0 = micro := inMicro.value
    rw [String.toList_append, List.append_assoc]
    change readFraction ('.' :: (text.toList ++ rest)) = _
    rw [readFraction, after?_cons]
    dsimp only
    rw [digits, inMicro.length, List.drop_left' inMicro.length,
      List.take_of_length_le inMicro.length.le]
    simp [value]

/-- What stands behind the seconds of a time of day: its offset, if it has one. -/
def offsetChars (c : Clock) : List Char :=
  (match c.offset with | none => "" | some seconds => Moment.shownOffset seconds).toList

/-- A written offset begins with its sign. -/
lemma exists_shownOffset_eq (seconds : Int) :
    ∃ rest, (Moment.shownOffset seconds).toList = (if seconds < 0 then '-' else '+') :: rest := by
  rw [Moment.shownOffset]
  split_ifs <;> simp [String.toList_append]

/-- No digit and no point follows the seconds where an offset follows them. -/
lemma offsetChars_stops (c : Clock) (d : Char) (more : List Char)
    (starts : offsetChars c = d :: more) : d.isDigit = false ∧ d ≠ '.' := by
  unfold offsetChars at starts
  cases isOffset : c.offset with
  | none => simp [isOffset] at starts
  | some seconds =>
    obtain ⟨rest, signed⟩ := exists_shownOffset_eq seconds
    rw [isOffset] at starts
    obtain ⟨rfl, -⟩ := List.cons.inj (signed.symm.trans starts)
    split_ifs <;> decide

/-- The offset of a time of day can be written: it is shorter than a day and in whole minutes. -/
def HasPlainOffset (c : Clock) : Prop :=
  ∀ seconds, c.offset = some seconds → seconds.natAbs < 86400 ∧ (60 : Int) ∣ seconds

lemma toList_shownClock (c : Clock) : (Moment.shownClock c).toList =
    (Moment.padded 2 c.hour).toList ++ ':' :: ((Moment.padded 2 c.minute).toList ++
      ':' :: ((Moment.padded 2 c.second).toList ++
        ((if c.micro = 0 then "" else "." ++ Moment.padded 6 c.micro).toList ++
          offsetChars c))) := by
  rw [Moment.shownClock, offsetChars]
  cases c.offset <;> simp [String.toList_append]

/-- A time of day is read back from its written form. -/
lemma readClock?_shownClock {c : Clock} (hour : c.hour < 10 ^ 2) (minute : c.minute < 10 ^ 2)
    (second : c.second < 10 ^ 2) (micro : c.micro < 10 ^ 6) (plain : HasPlainOffset c) :
    readClock? (Moment.shownClock c).toList = some c := by
  have inHour := areDigits_padded two_pos hour
  have inMinute := areDigits_padded two_pos minute
  have inSecond := areDigits_padded two_pos second
  rw [toList_shownClock, readClock?]
  simp only [readDigits?_append inHour one_le_two, readDigits?_append inMinute le_rfl,
    readDigits?_append inSecond le_rfl, after?_cons, Option.bind_eq_bind, Option.bind_some,
    readFraction_append micro (offsetChars_stops c)]
  obtain ⟨_, _, _, _, offset⟩ := c
  cases offset with
  | none => rfl
  | some seconds =>
    obtain ⟨day, minutes⟩ := plain seconds rfl
    have some : (Moment.shownOffset seconds).toList.isEmpty = false := by
      obtain ⟨rest, signed⟩ := exists_shownOffset_eq seconds
      rw [signed, List.isEmpty_cons]
    simp only [offsetChars, some, Bool.false_eq_true, if_false, readOffset?_shownOffset day minutes,
      Option.bind_some]
    rfl

/-- A time of day begins with a digit. -/
lemma exists_shownClock_eq {c : Clock} (hour : c.hour < 10 ^ 2) :
    ∃ d rest, (Moment.shownClock c).toList = d :: rest ∧ d.isDigit = true := by
  have inHour := areDigits_padded two_pos hour
  have some : (Moment.padded 2 c.hour).toList ≠ [] := by
    rw [← List.length_pos_iff, inHour.length]
    exact two_pos
  obtain ⟨d, rest, digits⟩ := List.exists_cons_of_ne_nil some
  have digit := inHour.digits d
  have whole := toList_shownClock c
  rw [digits] at digit whole
  exact ⟨d, _, whole, digit List.mem_cons_self⟩

/-! ### Moments -/

/-- A moment exists, and its time of day can be written exactly: in microseconds, and with an offset
in whole minutes. -/
structure IsExact (m : Moment) : Prop where
  known : m.problem? = none
  micro : ∀ c, m.clock = some c → c.micro < 10 ^ 6
  minutes : ∀ c, m.clock = some c → ∀ seconds, c.offset = some seconds → (60 : Int) ∣ seconds

lemma daysInMonth_lt (year month : Nat) : Moment.daysInMonth year month < 100 := by
  unfold Moment.daysInMonth
  split_ifs <;> decide

/-- What is checked of a moment that exists. -/
lemma of_problem?_eq_none {m : Moment} (h : m.problem? = none) :
    m.year < 10 ^ 4 ∧ m.month < 10 ^ 2 ∧ m.day < 10 ^ 2 ∧ ∀ c, m.clock = some c →
      c.hour < 10 ^ 2 ∧ c.minute < 10 ^ 2 ∧ c.second < 10 ^ 2 ∧
        ∀ seconds, c.offset = some seconds → seconds.natAbs < 86400 := by
  have days := daysInMonth_lt m.year m.month
  rw [Moment.problem?, Option.orElse_eq_orElse, Option.orElse_eq_or, Option.or_eq_none_iff] at h
  obtain ⟨noOffset, rest⟩ := h
  split_ifs at rest with year month day
  simp only [Bool.or_eq_true, decide_eq_true_eq, not_or] at year month day
  refine ⟨by omega, by omega, by omega, fun c isClock => ?_⟩
  rw [isClock] at noOffset rest
  have clock : Moment.clockProblem? c = none := rest
  unfold Moment.clockProblem? at clock
  split_ifs at clock
  refine ⟨by omega, by omega, by omega, fun seconds isOffset => ?_⟩
  have offset : Moment.offsetProblem? seconds = none := by
    change c.offset >>= Moment.offsetProblem? = none at noOffset
    rwa [isOffset] at noOffset
  unfold Moment.offsetProblem? at offset
  split_ifs at offset with day
  exact day

/-- A moment that exists is read back from its written form. -/
theorem readMoment?_shown {m : Moment} (exact : IsExact m) :
    readMoment? m.shown.toList = some m := by
  obtain ⟨year, month, day, inClock⟩ := of_problem?_eq_none exact.known
  have inYear := areDigits_padded (by decide) year
  have inMonth := areDigits_padded two_pos month
  have inDay := areDigits_padded two_pos day
  obtain ⟨_, _, _, clock⟩ := m
  cases clock with
  | none =>
    have readDay := readDigits?_append inDay one_le_two []
    rw [List.append_nil] at readDay
    simp [Moment.shown, readMoment?, String.toList_append, readDigits?_append inYear le_rfl,
      readDigits?_append inMonth one_le_two, after?_cons, readDay]
  | some c =>
    obtain ⟨hour, minute, second, inOffset⟩ := inClock c rfl
    have read := readClock?_shownClock hour minute second (exact.micro c rfl)
      fun seconds isOffset => ⟨inOffset seconds isOffset, exact.minutes c rfl seconds isOffset⟩
    obtain ⟨d, rest, starts, digit⟩ := exists_shownClock_eq hour
    have noSpace :
        (Moment.shownClock c).toList.dropWhile isSpace = (Moment.shownClock c).toList := by
      rw [starts, List.dropWhile_cons_of_neg]
      rintro space
      simp only [isSpace, Bool.or_eq_true, beq_iff_eq] at space
      rcases space with rfl | rfl <;> exact absurd digit (by decide)
    have readDay := readDigits?_append inDay one_le_two (' ' :: (Moment.shownClock c).toList)
    simp [Moment.shown, readMoment?, String.toList_append, readDigits?_append inYear le_rfl,
      readDigits?_append inMonth one_le_two, after?_cons, readDay, noSpace, read, isSpace]

end Yaml

end EntityModel
