import EntityModel.Predicate.Literal
import EntityModel.Proofs.Json.Strings
import EntityModel.Text.Quoted
import Mathlib.Tactic.Ring

/-!
# Quoted texts are string literals

A quoted text is a string literal for the readers of predicate code: it ends with its closing quote,
whatever follows it, and its escapes stand for the characters of the text. So quoted texts that
stand at the front of the same characters are the same (`Predicate.quotedChars_append_inj`).
-/

namespace EntityModel.Predicate

open Text

/-! ### Hexadecimal digits -/

/-- A run of digits is read in two parts, the first of which counts for more. -/
lemma hexRun?_add (m k : Nat) (cs : List Char) :
    hexRun? (m + k) cs = (hexRun? m cs).bind fun high =>
      (hexRun? k high.2).map fun low => (high.1 * 16 ^ k + low.1, low.2) := by
  induction m generalizing cs with
  | zero =>
    rw [Nat.zero_add, hexRun?, Option.bind_some]
    simp
  | succ m ih =>
    rw [Nat.add_right_comm]
    cases cs with
    | nil => rfl
    | cons c cs =>
      rw [hexRun?, hexRun?, ih]
      cases Json.hexValue? c with
      | none => rfl
      | some digit =>
        cases hexRun? m cs with
        | none => rfl
        | some high =>
          cases read : hexRun? k high.2 with
          | none => simp [read]
          | some low =>
            simp only [Option.bind_eq_bind, Option.bind_some, read, Option.map_some,
              Option.pure_def]
            congr 2
            change digit * 16 ^ (m + k) + _ = (digit * 16 ^ m + _) * 16 ^ k + _
            ring

/-- The last digits of a number are read as what they amount to. -/
lemma hexRun?_hexDigits (width n : Nat) (rest : List Char) :
    hexRun? width (hexDigits width n ++ rest) = some (n % 16 ^ width, rest) := by
  induction width generalizing n rest with
  | zero => simp [hexRun?, hexDigits, Nat.mod_one]
  | succ width ih =>
    have digit : hexRun? 1 (hexDigit (n % 16) :: rest) = some (n % 16, rest) := by
      have value := Json.hexValue?_hexDigit (n % 16) (Nat.mod_lt _ (by decide))
      simp [hexRun?, value]
    rw [hexDigits, List.append_assoc, List.singleton_append, hexRun?_add, ih, Option.bind_some,
      digit, Option.map_some]
    congr 2
    change n / 16 % 16 ^ width * 16 ^ 1 + n % 16 = n % 16 ^ (width + 1)
    rw [pow_succ' 16 width, Nat.mod_mul]
    ring

/-! ### Escapes -/

/-- The quotes that a quoted text stands between. -/
def IsQuote (c : Char) : Prop := c = '\'' ∨ c = '"'

lemma isQuote_quoteFor (cs : List Char) : IsQuote (quoteFor cs) := by
  unfold quoteFor
  split_ifs
  · exact .inr rfl
  · exact .inl rfl

variable {quote : Char}

/-- The escape of a character, or the character itself, is read as the character. -/
lemma unescape?_quotedChar (isQuote : IsQuote quote) (c : Char) (n : Nat) (rest : List Char) :
    unescape? (n + 1) (quotedChar quote c ++ rest) = (unescape? n rest).map (c :: ·) := by
  have code (width : Nat) (fits : c.toNat < 16 ^ width) :
      hexRun? width (hexDigits width c.toNat ++ rest) = some (c.toNat, rest) := by
    rw [hexRun?_hexDigits, Nat.mod_eq_of_lt fits]
  have range := Json.toNat_lt c
  rw [Option.map_eq_bind]
  unfold quotedChar
  split_ifs with marked tab newLine carriage printable byte unit
  · have known : c = '\'' ∨ c = '"' ∨ c = '\\' := by
      rcases Bool.or_eq_true_iff.1 marked with isC | isC
      · obtain rfl := eq_of_beq isC
        exact isQuote.imp_right .inl
      · exact .inr (.inr (eq_of_beq isC))
    rcases known with rfl | rfl | rfl <;> rfl
  · obtain rfl := eq_of_beq tab
    rfl
  · obtain rfl := eq_of_beq newLine
    rfl
  · obtain rfl := eq_of_beq carriage
    rfl
  · have plain : c ≠ '\\' := by
      rintro rfl
      simp at marked
    rw [List.singleton_append, unescape?]
    · rfl
    · exact plain
  · rw [List.cons_append, List.cons_append, unescape?, code 2 (by omega), Option.bind_eq_bind,
      Option.bind_some]
    dsimp only
    rw [Char.ofNat_toNat]
    rfl
  · rw [List.cons_append, List.cons_append, unescape?, code 4 (by omega), Option.bind_eq_bind,
      Option.bind_some]
    dsimp only
    rw [Char.ofNat_toNat]
    rfl
  · have valid : ¬ 0x10FFFF < c.toNat := by omega
    rw [List.cons_append, List.cons_append, unescape?, code 8 (by omega), Option.bind_eq_bind,
      Option.bind_some]
    dsimp only
    rw [if_neg valid, Char.ofNat_toNat]
    rfl

/-- The characters between the quotes are read as those of the text. -/
lemma unescape?_flatMap (isQuote : IsQuote quote) {cs : List Char} {n : Nat}
    (enough : cs.length ≤ n) :
    unescape? n (cs.flatMap (quotedChar quote)) = some cs := by
  induction cs generalizing n with
  | nil => cases n <;> rfl
  | cons c cs ih =>
    cases n with
    | zero => simp at enough
    | succ n =>
      rw [List.flatMap_cons, unescape?_quotedChar isQuote, ih (by simpa using enough)]
      rfl

/-! ### Ends -/

/-- A character that stands for itself between quotes and goes on on the same line. -/
structure IsInside (quote c : Char) : Prop where
  quote : c ≠ quote
  escape : c ≠ '\\'
  newLine : c ≠ '\n'
  carriage : c ≠ '\r'

/-- Hexadecimal digits stand inside quotes as they are. -/
lemma isInside_hexDigit (isQuote : IsQuote quote) : ∀ n < 16, IsInside quote (hexDigit n) := by
  have digits : ∀ n < 16, hexDigit n ∉ ['\'', '"', '\\', '\n', '\r'] := by decide
  intro n small
  have other := digits n small
  simp only [List.mem_cons, List.not_mem_nil, or_false, not_or] at other
  obtain ⟨single, double, escape, newLine, carriage⟩ := other
  refine ⟨?_, escape, newLine, carriage⟩
  rcases isQuote with rfl | rfl
  · exact single
  · exact double

/-- A code point in hexadecimal stands inside quotes as it is. -/
lemma isInside_of_mem_hexDigits (isQuote : IsQuote quote) {width n : Nat} {c : Char}
    (mem : c ∈ hexDigits width n) : IsInside quote c := by
  induction width generalizing n with
  | zero => simp [hexDigits] at mem
  | succ width ih =>
    rcases List.mem_append.1 mem with inner | last
    · exact ih inner
    · obtain rfl := List.mem_singleton.1 last
      exact isInside_hexDigit isQuote _ (Nat.mod_lt _ (by decide))

/-- Characters that stand for themselves are passed over. -/
lemma afterQuote?_append {cs : List Char} (inside : ∀ c ∈ cs, IsInside quote c) (rest : List Char) :
    afterQuote? quote (cs ++ rest) = afterQuote? quote rest := by
  induction cs with
  | nil => rfl
  | cons c cs ih =>
    obtain ⟨first, others⟩ := List.forall_mem_cons.1 inside
    have lineEnd : ¬ (c == '\n' || c == '\r') = true := by simp [first.newLine, first.carriage]
    rw [List.cons_append, afterQuote?, if_neg (by simpa using first.quote),
      if_neg lineEnd, ih others]
    · exact fun _ isEscape => absurd isEscape first.escape
    · exact fun _ _ isEscape => absurd isEscape first.escape

/-- A character after a backslash is passed over, unless it may be half of a line end. -/
lemma afterQuote?_escape {c : Char} (whole : c ≠ '\r') (rest : List Char) :
    afterQuote? quote ('\\' :: c :: rest) = afterQuote? quote rest := by
  rw [afterQuote?]
  exact fun _ carriage _ => absurd carriage whole

/-- A quoted character does not end the literal. -/
lemma afterQuote?_quotedChar (isQuote : IsQuote quote) (c : Char) (rest : List Char) :
    afterQuote? quote (quotedChar quote c ++ rest) = afterQuote? quote rest := by
  have digits (width : Nat) :
      afterQuote? quote (hexDigits width c.toNat ++ rest) = afterQuote? quote rest :=
    afterQuote?_append (fun _ => isInside_of_mem_hexDigits isQuote) rest
  unfold quotedChar
  split_ifs with marked tab newLine carriage printable byte unit
  · refine afterQuote?_escape ?_ rest
    rintro rfl
    rcases isQuote with rfl | rfl <;> simp at marked
  · exact afterQuote?_escape (by decide) rest
  · exact afterQuote?_escape (by decide) rest
  · exact afterQuote?_escape (by decide) rest
  · have inside : IsInside quote c := by
      simp only [Bool.or_eq_true, beq_iff_eq, not_or] at marked
      exact ⟨marked.1, marked.2, by simpa using newLine, by simpa using carriage⟩
    exact afterQuote?_append (List.forall_mem_singleton.2 inside) rest
  · exact (afterQuote?_escape (by decide) _).trans (digits 2)
  · exact (afterQuote?_escape (by decide) _).trans (digits 4)
  · exact (afterQuote?_escape (by decide) _).trans (digits 8)

/-- The literal goes on up to its closing quote. -/
lemma afterQuote?_flatMap (isQuote : IsQuote quote) (cs rest : List Char) :
    afterQuote? quote (cs.flatMap (quotedChar quote) ++ quote :: rest) = some rest := by
  induction cs with
  | nil =>
    have passed : ∀ c, IsQuote c → afterQuote? c (c :: rest) = some rest := by
      rintro _ (rfl | rfl) <;> simp [afterQuote?]
    exact passed quote isQuote
  | cons c cs ih => rw [List.flatMap_cons, List.append_assoc, afterQuote?_quotedChar isQuote, ih]

/-- A quoted character does not begin with the quote. -/
lemma exists_quotedChar_eq (isQuote : IsQuote quote) (c : Char) :
    ∃ first more, quotedChar quote c = first :: more ∧ first ≠ quote := by
  have escape : '\\' ≠ quote := by rcases isQuote with rfl | rfl <;> decide
  unfold quotedChar
  split_ifs with marked
  · exact ⟨_, _, rfl, escape⟩
  · exact ⟨_, _, rfl, escape⟩
  · exact ⟨_, _, rfl, escape⟩
  · exact ⟨_, _, rfl, escape⟩
  · refine ⟨_, _, rfl, ?_⟩
    rintro rfl
    simp at marked
  · exact ⟨_, _, rfl, escape⟩
  · exact ⟨_, _, rfl, escape⟩
  · exact ⟨_, _, rfl, escape⟩

/-! ### Literals -/

/-- The quote of a quoted text is a single one, if no quote follows the text. -/
lemma ne_quotes_of_follows (isQuote : IsQuote quote) {rest : List Char}
    (follows : ∀ q, IsQuote q → rest.head? ≠ some q) (cs more : List Char) :
    cs.flatMap (quotedChar quote) ++ quote :: rest ≠ quote :: quote :: more := by
  intro same
  cases cs with
  | nil =>
    obtain ⟨-, same⟩ := List.cons.inj same
    exact follows quote isQuote (congrArg List.head? same)
  | cons c cs =>
    obtain ⟨first, others, isChar, other⟩ := exists_quotedChar_eq isQuote c
    rw [List.flatMap_cons, isChar] at same
    exact other (List.cons.inj same).1

/-- A quoted text is a literal that ends with its closing quote. -/
theorem afterString?_quotedChars (cs : List Char) {rest : List Char}
    (follows : ∀ q, IsQuote q → rest.head? ≠ some q) :
    afterString? (quotedChars cs ++ rest) = some rest := by
  have isQuote := isQuote_quoteFor cs
  have written : quotedChars cs ++ rest =
      quoteFor cs :: (cs.flatMap (quotedChar (quoteFor cs)) ++ quoteFor cs :: rest) := by
    simp [quotedChars]
  have single := ne_quotes_of_follows isQuote follows cs
  have closed := afterQuote?_flatMap isQuote cs rest
  rw [written]
  generalize cs.flatMap (quotedChar (quoteFor cs)) ++ quoteFor cs :: rest = body at single closed
  rcases body with _ | ⟨a, _ | ⟨b, more⟩⟩
  · exact closed
  · exact closed
  · have apart : ¬ (quoteFor cs == a && a == b) = true := by
      intro same
      simp only [Bool.and_eq_true, beq_iff_eq] at same
      obtain ⟨rfl, rfl⟩ := same
      exact single more rfl
    rw [afterString?, if_neg apart, closed]

/-- A quoted text is taken apart into its quotes and what stands between them. -/
lemma ofToken?_quotedChars (cs : List Char) :
    StringLiteral.ofToken? (quotedChars cs) =
      some ⟨{}, 1, cs.flatMap (quotedChar (quoteFor cs))⟩ := by
  have isQuote := isQuote_quoteFor cs
  have follows : ∀ q, IsQuote q → ([] : List Char).head? ≠ some q := fun _ _ => nofun
  have single := ne_quotes_of_follows isQuote follows cs
  have noLetters (body : List Char) : (quoteFor cs :: body).takeWhile Char.isAlpha = [] := by
    rcases isQuote with isQuote | isQuote <;> rw [isQuote] <;> rfl
  have plain : stringPrefix? [] = some {} := rfl
  unfold StringLiteral.ofToken? quotedChars
  dsimp only
  generalize cs.flatMap (quotedChar (quoteFor cs)) = body at single
  have length : (quoteFor cs :: (body ++ [quoteFor cs])).length - 2 * 1 = body.length := by simp
  rw [List.cons_append, noLetters, plain, Option.bind_eq_bind, Option.bind_some]
  simp only [List.length_nil, List.drop_zero]
  split
  · rename_i a b c d e more same
    have apart : ¬ (a == b && b == c) = true := by
      intro alike
      simp only [Bool.and_eq_true, beq_iff_eq] at alike
      obtain ⟨rfl, inner⟩ := List.cons.inj same
      exact single (d :: e :: more) (by rw [inner, ← alike.2, ← alike.1])
    rw [if_neg apart, length, List.drop_one, List.tail_cons, List.take_left]
    rfl
  · rw [length, List.drop_one, List.tail_cons, List.take_left]
    rfl

/-- Each character of the text takes at least one between the quotes. -/
lemma length_le_length_flatMap (isQuote : IsQuote quote) (cs : List Char) :
    cs.length ≤ (cs.flatMap (quotedChar quote)).length := by
  induction cs with
  | nil => rfl
  | cons c cs ih =>
    obtain ⟨first, others, isChar, -⟩ := exists_quotedChar_eq isQuote c
    rw [List.flatMap_cons, isChar]
    simp only [List.length_cons, List.length_append]
    omega

/-- A quoted text is a literal of that text. -/
theorem text?_quotedChars (cs : List Char) :
    (StringLiteral.ofToken? (quotedChars cs)).bind StringLiteral.text? = some cs := by
  have enough : cs.length ≤ (cs.flatMap (quotedChar (quoteFor cs))).length :=
    length_le_length_flatMap (isQuote_quoteFor cs) cs
  rw [ofToken?_quotedChars, Option.bind_some]
  exact unescape?_flatMap (isQuote_quoteFor cs) enough

/-- Quoted texts that stand at the front of the same characters are the same, if no quote follows
them. -/
theorem quotedChars_append_inj {cs ds xs ys : List Char}
    (followsLeft : ∀ q, IsQuote q → xs.head? ≠ some q)
    (followsRight : ∀ q, IsQuote q → ys.head? ≠ some q)
    (same : quotedChars cs ++ xs = quotedChars ds ++ ys) :
    cs = ds ∧ xs = ys := by
  have rest : xs = ys := by
    have left := afterString?_quotedChars cs followsLeft
    rw [same, afterString?_quotedChars ds followsRight] at left
    exact (Option.some.inj left).symm
  subst rest
  have texts := text?_quotedChars cs
  rw [List.append_cancel_right same, text?_quotedChars] at texts
  exact ⟨(Option.some.inj texts).symm, rfl⟩

end EntityModel.Predicate
