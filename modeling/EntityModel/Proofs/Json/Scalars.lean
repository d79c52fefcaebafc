import EntityModel.Proofs.Json.Strings
import EntityModel.Proofs.Number.Shortest

/-!
# Written scalars

A scalar that is no text is written as a token, which ends before the first comma, bracket or brace;
a text is written between quotes. So the scalar that stands at the start of a text can be told from
it.
-/

namespace EntityModel

/-- The scalar is one of JSON: a number is finite, and there are no moments. -/
def Scalar.IsJson : Scalar → Prop
  | .real x => x.IsNormal
  | .moment _ => False
  | _ => True

namespace Json

/-! ### Ends of tokens -/

def isEnd (c : Char) : Bool := c == ',' || c == ']' || c == '}'

def isToken (c : Char) : Bool := !isEnd c && c != '"' && c != '[' && c != '{'

/-- What may follow a value: nothing, or a character that ends a token. -/
def Ends (s : List Char) : Prop := ∀ c ∈ s.head?, isEnd c = true

lemma ends_nil : Ends [] := by simp [Ends]

lemma ends_cons {c : Char} {s : List Char} (h : isEnd c = true) : Ends (c :: s) := by
  simpa [Ends] using h

lemma not_isEnd_of_isToken {c : Char} (h : isToken c = true) : isEnd c = false := by
  simp only [isToken, Bool.and_eq_true, Bool.not_eq_true'] at h
  exact h.1.1.1

/-- A token at the start of a text is what stands before the first end. -/
lemma takeWhile_token {a s : List Char} (token : ∀ c ∈ a, isToken c = true) (ends : Ends s) :
    (a ++ s).takeWhile (!isEnd ·) = a := by
  induction a with
  | nil =>
    cases s with
    | nil => rfl
    | cons c more =>
      have isEnd : isEnd c = true := ends c rfl
      simp [isEnd]
  | cons c a ih =>
    obtain ⟨first, others⟩ := List.forall_mem_cons.1 token
    rw [List.cons_append, List.takeWhile_cons, not_isEnd_of_isToken first, ih others]
    rfl

lemma token_append_inj {a b s t : List Char} (ha : ∀ c ∈ a, isToken c = true)
    (hb : ∀ c ∈ b, isToken c = true) (hs : Ends s) (ht : Ends t) (same : a ++ s = b ++ t) :
    a = b ∧ s = t := by
  have tokens : a = b := by rw [← takeWhile_token ha hs, same, takeWhile_token hb ht]
  subst tokens
  exact ⟨rfl, List.append_cancel_left same⟩

/-! ### Numbers -/

/-- The characters of numbers stand in tokens. -/
lemma isToken_of_isNumeric {c : Char} (h : Binary64.IsNumeric c) : isToken c = true := by
  rcases h with digit | mark
  · have other {d : Char} (h : d.isDigit = false) : c ≠ d := by
      rintro rfl
      exact absurd digit (by simp [h])
    have comma : c ≠ ',' := other (by decide)
    have bracket : c ≠ ']' := other (by decide)
    have brace : c ≠ '}' := other (by decide)
    have quote : c ≠ '"' := other (by decide)
    have bracket' : c ≠ '[' := other (by decide)
    have brace' : c ≠ '{' := other (by decide)
    simp [isToken, isEnd, comma, bracket, brace, quote, bracket', brace']
  · exact List.all_eq_true.1 (by decide) c mark

lemma isDigit_of_mem_repr {n : Nat} {c : Char} (mem : c ∈ n.repr.toList) : c.isDigit = true := by
  rw [Nat.repr_eq_ofList_toDigits, String.toList_ofList] at mem
  exact Nat.isDigit_of_mem_toDigits (by decide) (by decide) mem

/-- A whole number is written with digits and a sign. -/
lemma mem_toString_int {i : Int} {c : Char} (mem : c ∈ (toString i).toList) :
    c.isDigit = true ∨ c = '-' := by
  rw [Int.toString_eq_repr, Int.repr_eq_if] at mem
  split_ifs at mem
  · exact .inl (isDigit_of_mem_repr mem)
  · rw [String.toList_append, List.mem_append] at mem
    rcases mem with sign | mem
    · exact .inr (by simpa using sign)
    · exact .inl (isDigit_of_mem_repr mem)

/-- No two whole numbers are written alike. -/
lemma toString_int_injective {i j : Int} (same : toString i = toString j) : i = j := by
  have digits {n m : Nat} (same : n.repr = m.repr) : n = m := by
    rw [Nat.repr_eq_ofList_toDigits, Nat.repr_eq_ofList_toDigits, String.ofList_inj] at same
    rw [← Nat.ofDigitChars_ten_toDigits (n := n), same, Nat.ofDigitChars_ten_toDigits]
  have unsigned {n m : Nat} : n.repr ≠ "-" ++ m.repr := by
    intro same
    have sign : '-' ∈ n.repr.toList := by
      rw [same, String.toList_append]
      exact List.mem_append_left _ (by decide)
    exact absurd (isDigit_of_mem_repr sign) (by decide)
  rw [Int.toString_eq_repr, Int.toString_eq_repr, Int.repr_eq_if, Int.repr_eq_if] at same
  split_ifs at same
  · have := digits same
    omega
  · exact absurd same unsigned
  · exact absurd same.symm unsigned
  · have := digits ((String.append_right_inj _).1 same)
    omega

/-- A finite number is written with a point or an exponent. -/
lemma shown_spec {x : Binary64} (h : x.IsNormal) :
    (∀ c ∈ x.shown.toList, Binary64.IsNumeric c) ∧
      ('.' ∈ x.shown.toList ∨ 'e' ∈ x.shown.toList) := by
  cases x with
  | finite negative m e =>
    have body := Binary64.isNumeric_body h
    rw [Binary64.shown_finite, String.toList_ofList]
    cases negative with
    | false => exact body
    | true =>
      refine ⟨List.forall_mem_cons.2 ⟨.inr (by decide), body.1⟩, ?_⟩
      exact body.2.imp (List.mem_cons_of_mem _) (List.mem_cons_of_mem _)
  | infinite | nan => exact h.elim

/-! ### Scalars -/

lemma toList_string (s : String) : (string s).toList = stringChars s.toList := String.toList_ofList

lemma stringChars_append_inj {cs ds s t : List Char}
    (same : stringChars cs ++ s = stringChars ds ++ t) : cs = ds ∧ s = t := by
  have rest : cs.flatMap stringChar ++ '"' :: s = ds.flatMap stringChar ++ '"' :: t := by
    simpa [stringChars] using same
  have read := readString?_stringChars cs s
  rw [rest, readString?_stringChars] at read
  simpa [eq_comm] using read

lemma scalarText_real {x : Binary64} (h : x.IsNormal) : scalarText (.real x) = x.shown := by
  cases x with
  | finite => rfl
  | infinite | nan => exact h.elim

def isWord : Scalar → Bool
  | .null | .bool _ => true
  | _ => false

/-- A number is written with the characters of numbers, a word is not. -/
lemma isNumeric_iff {a : Scalar} (json : a.IsJson) (token : ∀ s, a ≠ .text s) :
    (∀ c ∈ (scalarText a).toList, Binary64.IsNumeric c) ↔ isWord a = false := by
  cases a with
  | null => exact iff_of_false (fun all => absurd (all 'n' (by decide)) (by decide)) (by decide)
  | bool b =>
    cases b with
    | false => exact iff_of_false (fun all => absurd (all 'f' (by decide)) (by decide)) (by decide)
    | true => exact iff_of_false (fun all => absurd (all 't' (by decide)) (by decide)) (by decide)
  | int i =>
    refine iff_of_true (fun c mem => ?_) rfl
    rcases mem_toString_int mem with digit | rfl
    · exact .inl digit
    · exact .inr (by decide)
  | real x =>
    rw [scalarText_real json]
    exact iff_of_true (shown_spec json).1 rfl
  | text s => exact absurd rfl (token s)
  | moment m => exact json.elim

/-- The characters of a scalar that is no text are those of a token. -/
lemma isToken_scalarText {a : Scalar} (json : a.IsJson) (token : ∀ s, a ≠ .text s) :
    ∀ c ∈ (scalarText a).toList, isToken c = true := by
  cases word : isWord a with
  | false =>
    have numeric := (isNumeric_iff json token).2 word
    exact fun c mem => isToken_of_isNumeric (numeric c mem)
  | true =>
    cases a with
    | null => exact List.all_eq_true.1 (by decide)
    | bool b => cases b <;> exact List.all_eq_true.1 (by decide)
    | int | real | text | moment => simp [isWord] at word

/-- Something is written for every scalar. -/
lemma scalarText_ne_empty {a : Scalar} (json : a.IsJson) : (scalarText a).toList ≠ [] := by
  cases a with
  | null => decide
  | bool b => cases b <;> decide
  | int i =>
    have digits (n : Nat) : n.repr.toList ≠ [] := by
      rw [Nat.repr_eq_ofList_toDigits, String.toList_ofList]
      exact Nat.toDigits_ne_nil
    change (toString i).toList ≠ []
    rw [Int.toString_eq_repr, Int.repr_eq_if]
    split_ifs
    · exact digits _
    · rw [String.toList_append]
      exact List.append_ne_nil_of_right_ne_nil _ (digits _)
  | real x =>
    rw [scalarText_real json]
    intro none
    have mark := (shown_spec json).2
    simp [none] at mark
  | text s =>
    rw [scalarText, toList_string]
    exact List.cons_ne_nil _ _
  | moment m => exact json.elim

lemma eq_of_isWord {a : Scalar} (word : isWord a = true) :
    a = .null ∨ a = .bool true ∨ a = .bool false := by
  cases a with
  | null => exact .inl rfl
  | bool b => cases b <;> simp
  | int | real | text | moment => simp [isWord] at word

/-- A scalar that is neither a text nor a word is a number. -/
lemma exists_of_not_isWord {a : Scalar} (json : a.IsJson) (token : ∀ s, a ≠ .text s)
    (number : isWord a = false) : (∃ i, a = .int i) ∨ ∃ x, a = .real x ∧ x.IsNormal := by
  cases a with
  | null | bool => simp [isWord] at number
  | int i => exact .inl ⟨i, rfl⟩
  | real x => exact .inr ⟨x, rfl, json⟩
  | text s => exact absurd rfl (token s)
  | moment m => exact json.elim

/-- No whole number is written as a number with a point or an exponent. -/
lemma toString_int_ne_shown {x : Binary64} (h : x.IsNormal) (i : Int) : toString i ≠ x.shown := by
  intro same
  have only {c : Char} (mem : c ∈ x.shown.toList) : c.isDigit = true ∨ c = '-' :=
    mem_toString_int (same ▸ mem)
  rcases (shown_spec h).2 with mark | mark
  · exact absurd (only mark) (by decide)
  · exact absurd (only mark) (by decide)

/-- No two tokens are the same. -/
lemma scalarText_injective {a b : Scalar} (ha : a.IsJson) (hb : b.IsJson)
    (tokenA : ∀ s, a ≠ .text s) (tokenB : ∀ s, b ≠ .text s)
    (same : scalarText a = scalarText b) : a = b := by
  have alike := isNumeric_iff ha tokenA
  rw [same, isNumeric_iff hb tokenB] at alike
  cases word : isWord a with
  | true =>
    have word' : isWord b = true := by simpa [word] using alike
    rcases eq_of_isWord word with rfl | rfl | rfl <;>
      rcases eq_of_isWord word' with rfl | rfl | rfl <;>
      first | rfl | exact absurd same (by decide)
  | false =>
    rcases exists_of_not_isWord ha tokenA word with ⟨i, rfl⟩ | ⟨x, rfl, hx⟩ <;>
      rcases exists_of_not_isWord hb tokenB (alike.2 word) with ⟨j, rfl⟩ | ⟨y, rfl, hy⟩
    · exact congrArg Scalar.int (toString_int_injective same)
    · rw [scalarText_real hy] at same
      exact absurd same (toString_int_ne_shown hy i)
    · rw [scalarText_real hx] at same
      exact absurd same.symm (toString_int_ne_shown hx j)
    · rw [scalarText_real hx, scalarText_real hy] at same
      exact congrArg Scalar.real (Binary64.shown_injective hx hy same)

/-- The first character of a scalar opens neither a list nor a mapping and closes nothing; only a
text starts with a quote. -/
lemma exists_scalarText_cons {a : Scalar} (json : a.IsJson) :
    ∃ c more, (scalarText a).toList = c :: more ∧ c ≠ '[' ∧ c ≠ '{' ∧ isEnd c = false ∧
      (c = '"' ↔ ∃ s, a = .text s) := by
  by_cases text : ∃ s, a = .text s
  · obtain ⟨s, rfl⟩ := text
    refine ⟨'"', _, toList_string s, by decide, by decide, by decide, ?_⟩
    exact iff_of_true rfl ⟨s, rfl⟩
  · obtain ⟨c, more, start⟩ := List.exists_cons_of_ne_nil (scalarText_ne_empty json)
    have token := isToken_scalarText json (fun s is => text ⟨s, is⟩) c (start ▸ List.mem_cons_self)
    simp only [isToken, Bool.and_eq_true, Bool.not_eq_true', bne_iff_ne] at token
    obtain ⟨⟨⟨noEnd, quote⟩, bracket⟩, brace⟩ := token
    exact ⟨c, more, start, bracket, brace, noEnd, iff_of_false quote text⟩

/-- The scalar at the start of a text can be told from it. -/
theorem scalarText_append_inj {a b : Scalar} (ha : a.IsJson) (hb : b.IsJson) {s t : List Char}
    (hs : Ends s) (ht : Ends t) (same : (scalarText a).toList ++ s = (scalarText b).toList ++ t) :
    a = b ∧ s = t := by
  obtain ⟨c, more, start, -, -, -, quote⟩ := exists_scalarText_cons ha
  obtain ⟨d, more', start', -, -, -, quote'⟩ := exists_scalarText_cons hb
  obtain rfl : c = d := by
    rw [start, start'] at same
    exact (List.cons.inj same).1
  by_cases text : c = '"'
  · obtain ⟨x, rfl⟩ := quote.1 text
    obtain ⟨y, rfl⟩ := quote'.1 text
    rw [scalarText, scalarText, toList_string, toList_string] at same
    obtain ⟨chars, rest⟩ := stringChars_append_inj same
    exact ⟨congrArg Scalar.text (String.toList_inj.1 chars), rest⟩
  · have tokenA : ∀ x, a ≠ .text x := fun x is => text (quote.2 ⟨x, is⟩)
    have tokenB : ∀ y, b ≠ .text y := fun y is => text (quote'.2 ⟨y, is⟩)
    obtain ⟨tokens, rest⟩ := token_append_inj (isToken_scalarText ha tokenA)
      (isToken_scalarText hb tokenB) hs ht same
    exact ⟨scalarText_injective ha hb tokenA tokenB (String.toList_inj.1 tokens), rest⟩

end Json

end EntityModel
