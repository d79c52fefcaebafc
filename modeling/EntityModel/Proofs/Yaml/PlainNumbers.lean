import EntityModel.Proofs.Number.Rounding
import EntityModel.Proofs.Text.Ascii
import EntityModel.Yaml.Writer
import Mathlib.Data.List.TakeWhile

/-!
# Plain numbers are read back

A whole number is recognised by its digits, and a number with a fraction by its point; each is read
as the number that was written. Of a number with a fraction this needs that 64 bits hold it.
-/

namespace EntityModel.Yaml

open Number Text

/-! ### Texts that are no words -/

/-- A character of a written number or moment. -/
def IsMark (c : Char) : Prop := Binary64.IsNumeric c ∨ c ∈ [':', ' ']

instance : DecidablePred IsMark := fun c =>
  inferInstanceAs (Decidable (Binary64.IsNumeric c ∨ c ∈ [':', ' ']))

/-- A text of such characters is none of the words that have others. -/
lemma contains_eq_false {s : String} {words : List String} (marks : ∀ c ∈ s.toList, IsMark c)
    (others : ∀ word ∈ words, word.toList.all (IsMark ·) = false) : words.contains s = false := by
  rw [Bool.eq_false_iff]
  intro isWord
  obtain ⟨c, mem, other⟩ := List.all_eq_false.1 (others s (List.contains_iff_mem.1 isWord))
  exact other (decide_eq_true (marks c mem))

/-- A text without the character is one part. -/
lemma splitAtChar_of_not_mem {c : Char} {cs : List Char} (absent : c ∉ cs) :
    splitAtChar c cs = [cs] := by
  induction cs with
  | nil => rfl
  | cons d cs ih =>
    rw [List.mem_cons, not_or] at absent
    rw [splitAtChar, if_neg (by simpa using Ne.symm absent.1), ih absent.2]

/-! ### Whole numbers -/

/-- The digits of a whole number do not begin with a zero, unless it is zero. -/
lemma head?_toDigits {n : Nat} (pos : 0 < n) : (Nat.toDigits 10 n).head? ≠ some '0' := by
  have digit : ∀ d < 10, 0 < d → d.digitChar ≠ '0' := by decide
  induction n using Nat.strongRecOn with
  | ind n ih =>
    rw [Nat.toDigits_eq_if (by decide)]
    split_ifs with single
    · simpa using digit n single pos
    · rw [List.head?_append_of_ne_nil _ Nat.toDigits_ne_nil]
      exact ih (n / 10) (by omega) (by omega)

lemma toList_toString_int (i : Int) : (toString i).toList =
    if i < 0 then '-' :: Nat.toDigits 10 i.natAbs else Nat.toDigits 10 i.natAbs := by
  rw [Int.toString_eq_repr, Int.repr_eq_if]
  by_cases negative : i < 0
  · rw [if_neg (by omega), if_pos negative, String.toList_append, Nat.toList_repr,
      show (-i).toNat = i.natAbs by omega]
    rfl
  · rw [if_pos (by omega), if_neg negative, Nat.toList_repr, show i.toNat = i.natAbs by omega]

section

variable {c : Char} {rest : List Char} {negative : Bool}
  (digits : ∀ d ∈ c :: rest, d.isDigit = true)

include digits

lemma not_mem_digits {d : Char} (other : d.isDigit = false) : d ∉ c :: rest := by
  intro mem
  simp [digits d mem] at other

lemma unsigned_digits :
    unsigned (if negative then '-' :: c :: rest else c :: rest) = c :: rest := by
  rw [unsigned, signed_digit (digits c List.mem_cons_self)]

/-- Digits write no number with a fraction. -/
lemma isRealText_digits :
    isRealText (if negative then '-' :: c :: rest else c :: rest) = false := by
  have whole : (c :: rest).takeWhile (· != '.') = c :: rest := by
    refine List.takeWhile_eq_self_iff.2 fun d mem => ?_
    simpa using ne_of_mem_of_not_mem mem (not_mem_digits digits (by decide))
  have colon := splitAtChar_of_not_mem (not_mem_digits digits (d := ':') (by decide))
  have isSixty : isSixtyReal (c :: rest) = false := by
    simp only [isSixtyReal, whole, colon]
  have numeric : ∀ d ∈ c :: rest, Binary64.IsNumeric d := fun d mem => .inl (digits d mem)
  have infinite : [".inf", ".Inf", ".INF"].contains (String.ofList (c :: rest)) = false :=
    contains_eq_false (fun d mem => .inl (numeric d (by simpa using mem))) (by decide)
  have nan : [".nan", ".NaN", ".NAN"].contains
      (String.ofList (if negative then '-' :: c :: rest else c :: rest)) = false := by
    refine contains_eq_false (fun d mem => .inl ?_) (by decide)
    rw [String.toList_ofList] at mem
    exact isNumeric_signed numeric d mem
  simp only [isRealText, unsigned_digits digits, whole, isSixty, infinite, nan, List.drop_length]
  simp only [List.take_nil, List.nil_beq_eq, List.isEmpty_cons, Bool.and_false, Bool.false_and,
    Bool.false_or, Bool.or_false]
  split
  · rename_i isPoint
    split_ifs at isPoint
    · cases isPoint
    · exact absurd ((List.cons.inj isPoint).1 ▸ digits c List.mem_cons_self) (by decide)
  · rfl

/-- Digits that do not begin with a zero write a whole number, and so does a zero alone. -/
lemma isWholeText_digits (noZero : c = '0' → rest = []) :
    isWholeText (if negative then '-' :: c :: rest else c :: rest) = true := by
  rw [isWholeText, unsigned_digits digits]
  split
  · rfl
  · rename_i same
    cases noZero (List.cons.inj same).1
    cases (List.cons.inj same).2
  · rename_i same
    cases noZero (List.cons.inj same).1
    cases (List.cons.inj same).2
  · rename_i notAlone _ _ same
    obtain ⟨rfl, rfl⟩ := List.cons.inj same
    cases noZero rfl
    exact (notAlone rfl).elim
  · rw [splitAtChar_of_not_mem (not_mem_digits digits (by decide))]
    obtain ⟨first, others⟩ := List.forall_mem_cons.1 digits
    have all : rest.all isDigitOrLine = true :=
      List.all_eq_true.2 fun d mem => by rw [isDigitOrLine, others d mem, Bool.true_or]
    simp [isNumeral, first, all]

lemma wholeInTen_digits : wholeInTen (c :: rest) = .ok (ofChars (c :: rest) : Int) := by
  have run : digitRun (c :: rest) = ((c :: rest).map fun c => c.toNat - 0x30, []) := by
    simpa using digitRun_of_follows digits (.inl rfl)
  have value := ofDigits_map (c :: rest)
  have sign := @signed_digit false c (digits c List.mem_cons_self) rest
  rw [if_neg Bool.false_ne_true] at sign
  rw [List.map_cons] at run value
  rw [wholeInTen, readWhole?, String.toList_ofList,
    trim_of_isNumeric fun d mem => .inl (digits d mem), sign]
  simp [run, value]

/-- Digits with or without a sign are read as the number that they write. -/
lemma wholeValue_digits (noZero : c = '0' → rest = []) :
    wholeValue (String.ofList (if negative then '-' :: c :: rest else c :: rest)) =
      .ok (if negative then -(ofChars (c :: rest) : Int) else ofChars (c :: rest)) := by
  have kept : (if negative then '-' :: c :: rest else c :: rest).filter (· != '_') =
      if negative then '-' :: c :: rest else c :: rest := by
    refine List.filter_eq_self.2 fun d mem => ?_
    have numeric := isNumeric_signed (fun d mem => .inl (digits d mem)) d mem
    simpa using fun line : d = '_' => absurd (line ▸ numeric) (by decide)
  have some : (if negative then '-' :: c :: rest else c :: rest).isEmpty = false := by
    split <;> rfl
  have colon := splitAtChar_of_not_mem (not_mem_digits digits (d := ':') (by decide))
  rw [wholeValue, String.toList_ofList]
  simp only [kept, some, Bool.false_eq_true, if_false, signed_digit (digits c List.mem_cons_self)]
  split
  · rename_i same
    cases same
  · rename_i same
    obtain ⟨rfl, rfl⟩ := List.cons.inj same
    cases negative <;> rfl
  · rename_i same
    cases noZero (List.cons.inj same).1
    cases (List.cons.inj same).2
  · rename_i same
    cases noZero (List.cons.inj same).1
    cases (List.cons.inj same).2
  · rename_i notAlone _ _ same
    obtain ⟨rfl, rfl⟩ := List.cons.inj same
    cases noZero rfl
    exact (notAlone rfl).elim
  · have read : (splitAtChar ':' (c :: rest)).mapM wholeInTen =
        .ok [(ofChars (c :: rest) : Int)] := by
      rw [colon, List.mapM_cons, wholeInTen_digits digits]
      rfl
    rw [read]
    cases negative <;> simp [Except.bind, bind, pure, Except.pure]

end

/-- The digits of a whole number, told apart by the first of them. -/
lemma exists_toDigits_eq (n : Nat) : ∃ c rest, Nat.toDigits 10 n = c :: rest ∧
    (∀ d ∈ c :: rest, d.isDigit = true) ∧ (c = '0' → rest = []) := by
  obtain ⟨c, rest, chars⟩ := List.exists_cons_of_ne_nil (Nat.toDigits_ne_nil (b := 10) (n := n))
  refine ⟨c, rest, chars, fun d mem => ?_, ?_⟩
  · exact Nat.isDigit_of_mem_toDigits (b := 10) (by decide) (by decide) (chars ▸ mem)
  · rintro rfl
    rcases Nat.eq_zero_or_pos n with rfl | pos
    · exact (List.cons.inj chars).2.symm
    · exact absurd (by rw [chars, List.head?_cons]) (head?_toDigits pos)

/-- A text of marks is a number or a moment, or else no value but a text. -/
lemma ofPlain_of_marks {s : String} (marks : ∀ c ∈ s.toList, IsMark c) (some : s ≠ "") :
    NodeType.ofPlain s = if isRealText s.toList then .real
      else if isWholeText s.toList then .whole
      else if isMoment s.toList then .moment else .text := by
  have ne (word : String) (other : word.toList.all (IsMark ·) = false) : s ≠ word := by
    rintro rfl
    obtain ⟨c, mem, isOther⟩ := List.all_eq_false.1 other
    exact isOther (decide_eq_true (marks c mem))
  have truth : truthWords.contains s = false := contains_eq_false marks (by decide)
  have other : ["!", "&", "*"].contains s = false := contains_eq_false marks (by decide)
  have null : ["~", "null", "Null", "NULL", ""].contains s = false := by
    have words : ["~", "null", "Null", "NULL"].contains s = false :=
      contains_eq_false marks (by decide)
    simpa [some] using words
  have merge := ne "<<" (by decide)
  have default := ne "=" (by decide)
  simp only [NodeType.ofPlain, truth, other, null, beq_eq_false_iff_ne.2 merge,
    beq_eq_false_iff_ne.2 default, Bool.false_eq_true, if_false]

/-- A whole number is recognised by its digits, and read back from them. -/
lemma scalar_toString_int (i : Int) :
    (NodeType.ofPlain (toString i)).scalar (toString i) = .ok (.int i) := by
  obtain ⟨c, rest, chars, digits, noZero⟩ := exists_toDigits_eq i.natAbs
  have written : toString i = String.ofList
      (if decide (i < 0) = true then '-' :: c :: rest else c :: rest) := by
    rw [← chars, ← String.ofList_toList (s := toString i), toList_toString_int]
    simp
  have value : ofChars (c :: rest) = i.natAbs := chars ▸ Nat.ofDigitChars_ten_toDigits
  have type : NodeType.ofPlain (toString i) = .whole := by
    rw [written, ofPlain_of_marks, String.toList_ofList, isRealText_digits digits,
      isWholeText_digits digits noZero, if_neg Bool.false_ne_true, if_pos rfl]
    · rw [String.toList_ofList]
      exact fun d mem => .inl (isNumeric_signed (fun d mem => .inl (digits d mem)) d mem)
    · rw [Ne, ← String.toList_inj, String.toList_ofList]
      split <;> simp
  have same : (if decide (i < 0) = true then -(i.natAbs : Int) else i.natAbs) = i := by
    split_ifs with negative <;> simp at negative <;> omega
  rw [type, NodeType.scalar, written, wholeValue_digits digits noZero, value, same]
  rfl

/-! ### Numbers with a fraction -/

/-- What may follow the point and its digits: nothing, or an exponent with a sign. -/
def IsTail (tail : List Char) : Prop :=
  tail = [] ∨ ∃ sign width, (sign = '-' ∨ sign = '+') ∧ (∀ c ∈ width, c.isDigit = true) ∧
    width ≠ [] ∧ tail = 'e' :: sign :: width

/-- A decimal with digits before and after its point, and maybe an exponent. -/
inductive Pointed : List Char → Prop
  | mk {whole part tail : List Char} (digits : ∀ c ∈ whole, c.isDigit = true) (some : whole ≠ [])
      (digits' : ∀ c ∈ part, c.isDigit = true) (some' : part ≠ []) (isTail : IsTail tail) :
      Pointed (whole ++ '.' :: (part ++ tail))

lemma IsTail.isNumeric {tail : List Char} (h : IsTail tail) :
    ∀ c ∈ tail, Binary64.IsNumeric c := by
  obtain rfl | ⟨sign, width, isSign, digits, -, rfl⟩ := h
  · exact List.forall_mem_nil _
  · refine List.forall_mem_cons.2 ⟨.inr (by decide), List.forall_mem_cons.2 ⟨?_, fun c mem =>
      .inl (digits c mem)⟩⟩
    rcases isSign with rfl | rfl <;> exact .inr (by decide)

lemma Pointed.isNumeric {cs : List Char} (h : Pointed cs) : ∀ c ∈ cs, Binary64.IsNumeric c := by
  obtain ⟨digits, -, digits', -, isTail⟩ := h
  exact List.forall_mem_append.2 ⟨fun c mem => .inl (digits c mem),
    List.forall_mem_cons.2 ⟨.inr (by decide), List.forall_mem_append.2
      ⟨fun c mem => .inl (digits' c mem), isTail.isNumeric⟩⟩⟩

/-- A decimal with a point begins with a digit. -/
lemma Pointed.exists_digit {cs : List Char} (h : Pointed cs) :
    ∃ c rest, cs = c :: rest ∧ c.isDigit = true := by
  obtain ⟨digits, some⟩ := h
  obtain ⟨c, rest, rfl⟩ := List.exists_cons_of_ne_nil some
  exact ⟨c, _, rfl, digits c List.mem_cons_self⟩

lemma Pointed.signed_eq {cs : List Char} (h : Pointed cs) (negative : Bool) :
    signed (if negative then '-' :: cs else cs) = (negative, cs) := by
  obtain ⟨c, rest, rfl, digit⟩ := h.exists_digit
  exact signed_digit digit rest

/-- Digits and what may follow them stand behind a point. -/
lemma isFraction_append {part tail : List Char} (digits : ∀ c ∈ part, c.isDigit = true)
    (isTail : IsTail tail) : isFraction (part ++ tail) = true := by
  have skipped : (part ++ tail).dropWhile isDigitOrLine = tail.dropWhile isDigitOrLine :=
    List.dropWhile_append_of_pos fun c mem => by rw [isDigitOrLine, digits c mem, Bool.true_or]
  rw [isFraction, skipped]
  obtain rfl | ⟨sign, width, isSign, digits, some, rfl⟩ := isTail
  · rfl
  · have stops : ('e' :: sign :: width).dropWhile isDigitOrLine = 'e' :: sign :: width := rfl
    have all : width.all Char.isDigit = true := List.all_eq_true.2 digits
    rw [stops]
    rcases isSign with rfl | rfl <;> simp [isExponent, all, some]

/-- A decimal with a point is recognised as a number with a fraction. -/
lemma Pointed.isRealText {cs : List Char} (h : Pointed cs) (negative : Bool) :
    isRealText (if negative then '-' :: cs else cs) = true := by
  have body : unsigned (if negative then '-' :: cs else cs) = cs := by
    rw [unsigned, h.signed_eq]
  obtain @⟨whole, part, tail, digits, some, digits', -, isTail⟩ := h
  have before : (whole ++ '.' :: (part ++ tail)).takeWhile (· != '.') = whole := by
    rw [List.takeWhile_append_of_pos, List.takeWhile_cons_of_neg (by decide), List.append_nil]
    intro c mem
    simpa using fun point : c = '.' => absurd (point ▸ digits c mem) (by decide)
  have numeral : isNumeral whole = true := by
    obtain ⟨c, rest, rfl⟩ := List.exists_cons_of_ne_nil some
    obtain ⟨first, others⟩ := List.forall_mem_cons.1 digits
    rw [isNumeral, first, Bool.true_and]
    exact List.all_eq_true.2 fun d mem => by rw [isDigitOrLine, others d mem, Bool.true_or]
  simp only [Yaml.isRealText, body, before, List.drop_left, numeral]
  simp [isFraction_append digits' isTail]

lemma allAscii_of_isNumeric {cs : List Char} (numeric : ∀ c ∈ cs, Binary64.IsNumeric c) :
    AllAscii cs := by
  intro c mem
  rcases numeric c mem with digit | mark
  · simp only [Char.isDigit, Bool.and_eq_true, decide_eq_true_eq, UInt32.le_iff_toNat_le] at digit
    exact UInt32.lt_iff_toNat_lt.2 (lt_of_le_of_lt digit.2 (by decide))
  · simp only [List.mem_cons, List.not_mem_nil, or_false] at mark
    rcases mark with rfl | rfl | rfl | rfl <;> decide

/-- Nothing is dropped or changed of the characters of a number before it is read. -/
lemma lowerChars_filter_of_isNumeric {cs : List Char} (numeric : ∀ c ∈ cs, Binary64.IsNumeric c) :
    lowerChars (cs.filter (· != '_')) = cs := by
  have kept : cs.filter (· != '_') = cs := by
    refine List.filter_eq_self.2 fun c mem => ?_
    simpa using fun line : c = '_' => absurd (line ▸ numeric c mem) (by decide)
  rw [kept, lowerChars_of_allAscii (allAscii_of_isNumeric numeric)]
  have kept (c : Char) (mem : c ∈ cs) : c.toLower = id c := toLower_of_isNumeric (numeric c mem)
  rw [List.map_congr_left kept, List.map_id]

/-- A decimal with a point is read as a number, and the sign is taken off before. -/
lemma Pointed.realValue {cs : List Char} (h : Pointed cs) {x : Binary64} (negative : Bool)
    (read : readReal? (String.ofList cs) = some x) :
    realValue (String.ofList (if negative then '-' :: cs else cs)) =
      .ok (if negative then x.neg else x) := by
  have kept := lowerChars_filter_of_isNumeric (@isNumeric_signed negative _ h.isNumeric)
  have ne (word : String) (other : word.toList.all (Binary64.IsNumeric ·) = false) :
      (String.ofList cs == word) = false := by
    rw [beq_eq_false_iff_ne]
    rintro rfl
    obtain ⟨c, mem, isOther⟩ := List.all_eq_false.1 other
    exact isOther (decide_eq_true (h.isNumeric c (by simpa using mem)))
  have nan := ne ".nan" (by decide)
  have infinite := ne ".inf" (by decide)
  have colon : cs.contains ':' = false := by
    rw [List.contains_eq_mem, decide_eq_false_iff_not]
    exact fun mem => absurd (h.isNumeric _ mem) (by decide)
  have some : (if negative then '-' :: cs else cs).isEmpty = false := by
    obtain ⟨c, rest, rfl, -⟩ := h.exists_digit
    split <;> rfl
  rw [Yaml.realValue, String.toList_ofList]
  simp only [kept, some, h.signed_eq, nan, infinite, colon, Bool.false_eq_true, if_false, realInTen,
    read]
  rfl

/-- The characters of a number with a point put before the exponent, where it has none. -/
def withPoint (cs : List Char) : List Char :=
  if cs.contains '.' then cs else cs.flatMap fun c => if c == 'e' then ['.', '0', 'e'] else [c]

/-- The sign stands first, and the rest does not depend on it. -/
lemma toList_realText (negative : Bool) (m : Nat) (e : Int) :
    (realText (.finite negative m e)).toList =
      if negative then '-' :: withPoint (Binary64.body m e) else withPoint (Binary64.body m e) := by
  have chars : (realText (.finite negative m e)).toList =
      withPoint (Binary64.finite negative m e).shown.toList := by
    rw [realText, withPoint]
    · split_ifs
      · rfl
      · rw [String.toList_ofList]
    · nofun
    · nofun
  rw [chars, Binary64.shown_finite, String.toList_ofList]
  cases negative with
  | false => rfl
  | true =>
    have sign : ('-' :: Binary64.body m e).contains '.' = (Binary64.body m e).contains '.' := by
      rw [List.contains_cons]
      rfl
    simp only [withPoint, if_true, sign]
    split_ifs <;> rfl

/-- Without an exponent no point is put in. -/
lemma flatMap_point_eq_self {cs : List Char} (noMark : 'e' ∉ cs) :
    (cs.flatMap fun c => if c == 'e' then ['.', '0', 'e'] else [c]) = cs := by
  refine (List.flatMap_congr fun c mem => ?_).trans (List.flatMap_singleton' cs)
  rw [if_neg]
  simpa using ne_of_mem_of_not_mem mem noMark

/-- Digits in front of an exponent get a point and a zero. -/
lemma withPoint_append_exponent {whole width : List Char} {sign : Char}
    (digits : ∀ c ∈ whole, c.isDigit = true) (isSign : sign = '-' ∨ sign = '+')
    (widthDigits : ∀ c ∈ width, c.isDigit = true) :
    withPoint (whole ++ 'e' :: sign :: width) =
      whole ++ '.' :: (['0'] ++ 'e' :: sign :: width) := by
  have absent {c : Char} {cs : List Char} (digits : ∀ d ∈ cs, d.isDigit = true)
      (other : c.isDigit = false) : c ∉ cs := fun mem => by simp [digits c mem] at other
  obtain ⟨notPoint, notMark⟩ : sign ≠ '.' ∧ sign ≠ 'e' := by
    rcases isSign with rfl | rfl <;> decide
  have noPoint : (whole ++ 'e' :: sign :: width).contains '.' = false := by
    have inWhole := absent digits (c := '.') (by decide)
    have inWidth := absent widthDigits (c := '.') (by decide)
    simp [inWhole, inWidth, notPoint.symm]
  have noMark : 'e' ∉ sign :: width := by
    have inWidth := absent widthDigits (c := 'e') (by decide)
    simp [inWidth, notMark.symm]
  rw [withPoint, noPoint, if_neg Bool.false_ne_true, List.flatMap_append,
    flatMap_point_eq_self (absent digits (by decide)), List.flatMap_cons,
    flatMap_point_eq_self noMark]
  rfl

/-- Every layout of digits becomes a decimal with a point that stands for the same number. -/
lemma pointed_of_layout {ds cs : List Char} {exponent : Int}
    (h : Binary64.Layout ds exponent cs) :
    Pointed (withPoint cs) ∧ ∃ d, written? (withPoint cs) = some d ∧
      d.value = (⟨ofChars ds, exponent⟩ : Binary64.Digits).value := by
  have read := h.written?
  cases h with
  | @point whole part shift digits digits' some some' count place =>
    have hasPoint : withPoint (whole ++ '.' :: part) = whole ++ '.' :: part := if_pos (by simp)
    rw [hasPoint]
    have pointed := Pointed.mk digits some digits' some' (.inl rfl)
    rw [List.append_nil] at pointed
    exact ⟨pointed, read⟩
  | @power whole part width power digits digits' some count place widthDigits widthSome
      widthCount =>
    have isTail : IsTail ('e' :: (if power < 0 then '-' else '+') :: width) :=
      .inr ⟨_, _, ite_eq_or_eq _ _ _, widthDigits, widthSome, rfl⟩
    cases part with
    | cons c part =>
      rw [List.isEmpty_cons, if_neg Bool.false_ne_true, List.append_assoc,
        List.cons_append] at read ⊢
      have hasPoint : withPoint (whole ++ '.' :: (c :: part ++
          'e' :: (if power < 0 then '-' else '+') :: width)) = _ := if_pos (by simp)
      rw [hasPoint]
      exact ⟨.mk digits some digits' (List.cons_ne_nil _ _) isTail, read⟩
    | nil =>
      have zero : ∀ c ∈ ['0'], c.isDigit = true := List.forall_mem_singleton.2 rfl
      rw [List.isEmpty_nil, if_pos rfl, List.append_nil,
        withPoint_append_exponent digits (ite_eq_or_eq _ _ _) widthDigits]
      have read := written?_append digits zero some (.inr ⟨_, rfl⟩)
        (readExponent?_signed widthDigits widthSome widthCount)
      rw [List.isEmpty_cons, if_neg Bool.false_ne_true, List.append_assoc, List.cons_append] at read
      refine ⟨.mk digits some zero (List.cons_ne_nil _ _) isTail, _, read,
        Binary64.value_eq_of_shift 1 ?_ ?_⟩
      · rw [← count, List.append_nil]
        exact Binary64.ofChars_append_zeros whole 1
      · rw [place, List.length_nil, List.length_singleton]
        omega

/-- A finite number is written with a point, and what is written rounds to it. -/
lemma pointed_body {negative : Bool} {m : Nat} {e : Int}
    (h : (Binary64.finite negative m e).IsNormal) :
    Pointed (withPoint (Binary64.body m e)) ∧
      ∃ d, written? (withPoint (Binary64.body m e)) = some d ∧ Binary64.Rounds m e d.value := by
  unfold Binary64.body
  split_ifs with zero
  · subst zero
    obtain rfl := Binary64.exponent_zero h
    have digit : ∀ c ∈ ['0'], c.isDigit = true := List.forall_mem_singleton.2 rfl
    refine ⟨.mk digit (List.cons_ne_nil _ _) digit (List.cons_ne_nil _ _) (.inl rfl),
      ⟨0, -1⟩, rfl, Binary64.rounds_zero ?_ ?_⟩
    · simp [Binary64.Digits.value]
    · rw [Binary64.Digits.value, Nat.cast_zero, zero_mul]
      positivity
  · have form := Binary64.normalForm (Nat.pos_of_ne_zero zero) negative h
    obtain ⟨ds, exponent, layout, value⟩ :=
      Binary64.layout_positional (Binary64.digits_shortest_ne_zero form)
    obtain ⟨pointed, d, read, same⟩ := pointed_of_layout layout
    exact ⟨pointed, d, read, (same.trans value.symm) ▸ Binary64.rounds_shortest form⟩

/-- A number with a fraction is recognised by its point, and read back. -/
lemma scalar_realText {x : Binary64} (h : x.IsRepresentable) :
    (NodeType.ofPlain (realText x)).scalar (realText x) = .ok (.real x) := by
  cases x with
  | finite negative m e =>
    obtain ⟨pointed, d, read, rounds⟩ := pointed_body h.1
    have decimal : readReal? (String.ofList (withPoint (Binary64.body m e))) =
        some (.finite false m e) := by
      obtain ⟨c, rest, chars, digit⟩ := pointed.exists_digit
      have numeric := pointed.isNumeric
      have positive : (Binary64.finite false m e).IsRepresentable := h
      rw [chars] at numeric read ⊢
      exact (@readReal?_digit false _ _ digit numeric).trans
        ((readDecimal?_eq_finite_iff positive).2 ⟨d, read, rounds⟩)
    have written : realText (.finite negative m e) = String.ofList
        (if negative then '-' :: withPoint (Binary64.body m e)
          else withPoint (Binary64.body m e)) := by
      rw [← toList_realText, String.ofList_toList]
    have type : NodeType.ofPlain (realText (.finite negative m e)) = .real := by
      rw [written, ofPlain_of_marks, String.toList_ofList, pointed.isRealText, if_pos rfl]
      · rw [String.toList_ofList]
        exact fun c mem => .inl (isNumeric_signed pointed.isNumeric c mem)
      · obtain ⟨c, rest, chars, -⟩ := pointed.exists_digit
        rw [Ne, ← String.toList_inj, String.toList_ofList, chars]
        split <;> simp
    rw [type, NodeType.scalar, written, pointed.realValue negative decimal]
    cases negative <;> rfl
  | infinite negative => cases negative <;> rfl
  | nan => rfl

end EntityModel.Yaml
