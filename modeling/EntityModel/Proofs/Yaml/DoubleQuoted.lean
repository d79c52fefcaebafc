import EntityModel.Yaml.Page
import EntityModel.Yaml.Quoted
import EntityModel.Proofs.Json.Strings
import Mathlib.Algebra.GroupWithZero.Nat

/-!
# Texts between double quotes

A text that is written between double quotes on one line, as a key is, holds no character that could
end the line or the quotes: whatever the text holds, it is read back character by character
(`Yaml.quotedScalar_quotedText`).
-/

namespace EntityModel.Yaml

/-! ### Places -/

namespace Cursor

variable {p : Cursor} {after : List Char}

/-- Taking a step leaves the rest without its first character. -/
@[simp] lemma rest_next (p : Cursor) : p.next.rest = p.rest.tail := by
  unfold next
  split
  · next isEmpty => rw [isEmpty, List.tail_nil]
  · next isCons =>
    rw [isCons, List.tail_cons]
    split_ifs <;> rfl

/-- A place some characters further on has lost these characters. -/
@[simp] lemma rest_advance (p : Cursor) (n : Nat) : (p.advance n).rest = p.rest.drop n := by
  induction n generalizing p with
  | zero => rfl
  | succ n ih => rw [advance, ih, rest_next, List.drop_tail]

lemma advance_advance (p : Cursor) (m n : Nat) : (p.advance m).advance n = p.advance (m + n) := by
  induction m generalizing p with
  | zero => rw [advance, Nat.zero_add]
  | succ m ih => rw [advance, ih, Nat.add_right_comm, advance]

lemma next_eq_advance (p : Cursor) : p.next = p.advance 1 := rfl

end Cursor

/-! ### Escapes -/

/-- The characters that stand for one between double quotes. -/
def escapedChar (c : Char) : List Char :=
  match Page.escape? c with
  | some escape => escape.toList
  | none => [c]

/-- The capital digits of a number are read back as the number, in as many places. -/
lemma exists_mapM_capitalDigits (width n : Nat) : ∃ digits,
    (Page.capitalDigits width n).mapM Json.hexValue? = some digits ∧ digits.length = width ∧
      digits.foldl (fun n d => 16 * n + d) 0 = n % 16 ^ width := by
  have capital : ∀ d < 16, Json.hexValue? (Text.hexDigit d).toUpper = some d := by decide
  induction width generalizing n with
  | zero => exact ⟨[], rfl, rfl, by simp [Nat.mod_one]⟩
  | succ width ih =>
    obtain ⟨digits, read, length, value⟩ := ih (n / 16)
    refine ⟨digits ++ [n % 16], ?_, by simp [length], ?_⟩
    · rw [Page.capitalDigits] at read ⊢
      rw [Text.hexDigits, List.map_append, List.mapM_append, read]
      simp [capital (n % 16) (Nat.mod_lt _ (by decide))]
    · rw [List.foldl_append, value, List.foldl_cons, List.foldl_nil, Nat.pow_succ,
        Nat.mul_comm (16 ^ width) 16, Nat.mod_mul]
      omega

lemma length_capitalDigits (width n : Nat) : (Page.capitalDigits width n).length = width := by
  rw [Page.capitalDigits, List.length_map]
  induction width generalizing n with
  | zero => rfl
  | succ width ih => rw [Text.hexDigits, List.length_append, ih, List.length_singleton]

/-- A number is read from its capital digits. -/
lemma hexNumber?_capitalDigits {width n : Nat} {p : Cursor} {after : List Char}
    (written : p.rest = Page.capitalDigits width n ++ after) (fits : n < 16 ^ width) :
    hexNumber? width p = some (n, p.advance width) := by
  obtain ⟨digits, read, length, value⟩ := exists_mapM_capitalDigits width n
  rw [hexNumber?, written, List.take_left' (length_capitalDigits width n), read,
    Option.bind_eq_bind, Option.bind_some, if_pos length, value, Nat.mod_eq_of_lt fits]
  rfl

/-- No character is half of a pair, so the number of one is read alone. -/
lemma codePoint_toNat (c : Char) (p : Cursor) : codePoint c.toNat p = .ok ([c], p) := by
  have range : c.toNat < 0xD800 ∨ 0xDFFF < c.toNat ∧ c.toNat < 0x110000 := c.valid
  have alone (second : Nat) : Json.joinSurrogates? c.toNat second = none := by
    simp [Json.joinSurrogates?]
    omega
  rw [codePoint, if_neg (by omega), if_neg (by omega), Char.ofNat_toNat]
  cases secondHalf? p with
  | none => rfl
  | some second => simp only [alone]

/-- The letter that a character is written by is read as the character. -/
lemma escaped?_of_shortEscape? {c letter : Char} (h : Page.shortEscape? c = some letter) :
    escaped? letter = some c := by
  unfold Page.shortEscape? at h
  split at h <;> cases h <;> rfl

variable {c : Char} {p : Cursor} {after : List Char}

/-- The number of a character is read in digits after a letter. -/
lemma readEscape_digits {letter : Char} {width : Nat} (noLetter : escaped? letter = none)
    (isWidth : escapeWidth? letter = some width) (fits : c.toNat < 16 ^ width)
    (written : p.rest = '\\' :: letter :: (Page.capitalDigits width c.toNat ++ after)) :
    readEscape p.next = .ok ([c], p.advance (width + 2)) := by
  have isLetter : p.next.peek = letter := by
    rw [Cursor.peek, Cursor.rest_next, written]
    rfl
  have digits : p.next.next.rest = Page.capitalDigits width c.toNat ++ after := by
    rw [Cursor.rest_next, Cursor.rest_next, written]
    rfl
  simp only [readEscape, isLetter, noLetter, isWidth, hexNumber?_capitalDigits digits fits,
    codePoint_toNat]
  rfl

/-- An escape is read as the character that it stands for. -/
lemma readEscape_of_escape? {escape : String} (h : Page.escape? c = some escape)
    (written : p.rest = escape.toList ++ after) :
    readEscape p.next = .ok ([c], p.advance escape.toList.length) := by
  have range : c.toNat < 0xD800 ∨ 0xDFFF < c.toNat ∧ c.toNat < 0x110000 := c.valid
  unfold Page.escape? at h
  cases short : Page.shortEscape? c with
  | some letter =>
    simp only [short, Option.some.injEq] at h
    subst h
    rw [String.toList_ofList] at written ⊢
    have isLetter : p.next.peek = letter := by
      rw [Cursor.peek, Cursor.rest_next, written]
      rfl
    simp only [readEscape, isLetter, escaped?_of_shortEscape? short]
    rfl
  | none =>
    simp only [short] at h
    split_ifs at h <;> cases h <;>
      rw [String.toList_ofList] at written ⊢ <;>
      rw [List.length_cons, List.length_cons, length_capitalDigits]
    · exact readEscape_digits (c := c) rfl rfl (show c.toNat < 0x100 by omega) written
    · exact readEscape_digits (c := c) rfl rfl (show c.toNat < 0x10000 by omega) written
    · exact readEscape_digits (c := c) rfl rfl (show c.toNat < 0x100000000 by omega) written

/-! ### Texts -/

/-- A character that takes ink: neither a gap nor the end of a line or of the text. -/
def IsInk (c : Char) : Prop := 0x20 < c.toNat ∧ c.toNat ≤ 0x7E

lemma IsInk.ne (ink : IsInk c) {d : Char} (other : d.toNat ≤ 0x20 ∨ 0x7E < d.toNat) :
    (c == d) = false := by
  rw [beq_eq_false_iff_ne]
  rintro rfl
  unfold IsInk at ink
  omega

lemma IsInk.isLineEnd (ink : IsInk c) : isLineEnd c = false := by
  simp only [Yaml.isLineEnd, isBreak, endMark, ink.ne (d := '\x00') (by decide),
    ink.ne (d := '\n') (by decide), ink.ne (d := '\r') (by decide),
    ink.ne (d := '\x85') (by decide), ink.ne (d := '\u2028') (by decide),
    ink.ne (d := '\u2029') (by decide), Bool.or_self]

lemma IsInk.isGap (ink : IsInk c) : isGap c = false := by
  simp only [Yaml.isGap, isWordEnd, ink.isLineEnd, ink.ne (d := '\t') (by decide),
    ink.ne (d := ' ') (by decide), Bool.or_self]

/-- A character that is not escaped is a space or takes ink, and is neither quote nor backslash. -/
lemma of_escape?_eq_none (h : Page.escape? c = none) :
    (c = ' ' ∨ IsInk c) ∧ c ≠ '"' ∧ c ≠ '\\' := by
  unfold Page.escape? at h
  cases short : Page.shortEscape? c with
  | some letter => simp [short] at h
  | none =>
    simp only [short] at h
    split_ifs at h with range
    rw [Bool.and_eq_true, decide_eq_true_iff, decide_eq_true_iff] at range
    refine ⟨?_, (by rintro rfl; cases short), (by rintro rfl; cases short)⟩
    rcases Nat.eq_or_lt_of_le range.1 with same | lt
    · exact .inl (Char.toNat_inj.1 same.symm)
    · exact .inr ⟨lt, range.2⟩

/-- Every escape begins with a backslash. -/
lemma exists_escape_eq {escape : String} (h : Page.escape? c = some escape) :
    ∃ rest, escape.toList = '\\' :: rest := by
  unfold Page.escape? at h
  cases short : Page.shortEscape? c with
  | some letter =>
    simp only [short, Option.some.injEq] at h
    exact ⟨_, h ▸ String.toList_ofList⟩
  | none =>
    simp only [short] at h
    split_ifs at h <;> cases h <;> exact ⟨_, String.toList_ofList⟩

/-- What stands for a text that begins with no space, up to the closing quote, begins with ink. -/
lemma exists_ink_cons {cs : List Char} (noSpace : cs.head? ≠ some ' ') (after : List Char) :
    ∃ first rest, cs.flatMap escapedChar ++ '"' :: after = first :: rest ∧ IsInk first := by
  cases cs with
  | nil => exact ⟨'"', after, rfl, by decide, by decide⟩
  | cons c cs =>
    rw [List.flatMap_cons, escapedChar]
    cases escape : Page.escape? c with
    | none =>
      rcases (of_escape?_eq_none escape).1 with rfl | ink
      · exact absurd rfl noSpace
      · exact ⟨c, _, rfl, ink⟩
    | some e =>
      obtain ⟨rest, begins⟩ := exists_escape_eq escape
      simp only [begins]
      exact ⟨'\\', _, rfl, by decide, by decide⟩

/-! ### Texts -/

/-- Spaces on a line are read as they are. -/
lemma readGap_spaces {k : Nat} (ink : IsInk c) (rest : List Char)
    (written : p.rest = List.replicate k ' ' ++ c :: rest) :
    readGap p = .ok (List.replicate k ' ', p.advance k) := by
  have noSpace : isSpace c = false := by
    rw [isSpace, ink.ne (by decide), ink.ne (by decide), Bool.or_self]
  have spaces : p.span isSpace = (List.replicate k ' ', p.advance k) := by
    have taken : p.rest.takeWhile isSpace = List.replicate k ' ' := by
      rw [written, List.takeWhile_append_of_pos (by simp [isSpace]),
        List.takeWhile_cons_of_neg (by simp [noSpace]), List.append_nil]
    rw [Cursor.span, taken, List.length_replicate]
  have next : (p.advance k).peek = c := by
    rw [Cursor.peek, Cursor.rest_advance, written, List.drop_left' List.length_replicate]
    rfl
  have noEnd := ink.isLineEnd
  rw [isLineEnd, Bool.or_eq_false_iff] at noEnd
  have noBreak : (p.advance k).lineBreak? = none := by
    simp [Cursor.lineBreak?, next, noEnd.2]
  simp only [readGap, spaces, noBreak, next, noEnd.1]
  rfl

def quotedText (s : String) : List Char := '"' :: s.toList.flatMap escapedChar ++ ['"']

/-- How a part is read that does not begin with the closing quote. -/
def readPart (p : Cursor) : Reading (List Char × Cursor) :=
  if p.peek == '\\' then readEscape p.next
  else if isGap p.peek then readGap p
  else .ok ([p.peek], p.next)

/-- What stands for a part is read before what follows it. -/
lemma readQuoted_part {fuel : Nat} {part more : List Char} {q r : Cursor} (noQuote : p.peek ≠ '"')
    (first : readPart p = .ok (part, q)) (others : readQuoted '"' fuel q = .ok (more, r)) :
    readQuoted '"' (fuel + 1) p = .ok (part ++ more, r) := by
  have no : (p.peek == '"') = false := by simpa using noQuote
  unfold readPart at first
  rw [readQuoted]
  simp only [no, Bool.false_and, Bool.false_eq_true, if_false, beq_self_eq_true, Bool.and_true]
  split_ifs at first ⊢
  · rw [first]
    change (readQuoted '"' fuel q >>= _) = _
    rw [others]
    rfl
  · rw [first]
    change (readQuoted '"' fuel q >>= _) = _
    rw [others]
    rfl
  · cases first
    change (readQuoted '"' fuel p.next >>= _) = _
    rw [others]
    rfl

/-- The spaces that a text begins with are followed by something else, if anything. -/
lemma exists_spaces (cs : List Char) :
    ∃ k others, cs = List.replicate k ' ' ++ others ∧ others.head? ≠ some ' ' := by
  induction cs with
  | nil => exact ⟨0, [], rfl, nofun⟩
  | cons c cs ih =>
    by_cases space : c = ' '
    · obtain ⟨k, others, rfl, noSpace⟩ := ih
      exact ⟨k + 1, others, by rw [space, List.replicate_succ, List.cons_append], noSpace⟩
    · exact ⟨0, c :: cs, rfl, by simpa using space⟩

/-- What a text begins with is read as one part: spaces, a character that takes ink, or an
escape. -/
lemma exists_part (c : Char) (cs : List Char)
    (written : p.rest = (c :: cs).flatMap escapedChar ++ '"' :: after) :
    ∃ part others, c :: cs = part ++ others ∧ 0 < (part.flatMap escapedChar).length ∧ p.peek ≠ '"' ∧
      readPart p = .ok (part, p.advance (part.flatMap escapedChar).length) := by
  rw [List.flatMap_cons, List.append_assoc] at written
  cases escape : Page.escape? c with
  | some e =>
    have isEscaped : escapedChar c = e.toList := by rw [escapedChar, escape]
    obtain ⟨rest, begins⟩ := exists_escape_eq escape
    have isBackslash : p.peek = '\\' := by rw [Cursor.peek, written, isEscaped, begins]; rfl
    have part : [c].flatMap escapedChar = e.toList := by rw [List.flatMap_singleton, isEscaped]
    refine ⟨[c], cs, rfl, by simp [part, begins], by rw [isBackslash]; decide, ?_⟩
    rw [isEscaped] at written
    rw [readPart, isBackslash, part]
    exact readEscape_of_escape? escape written
  | none =>
    have isPlain : escapedChar c = [c] := by rw [escapedChar, escape]
    obtain ⟨spaceOrInk, noQuote, noBackslash⟩ := of_escape?_eq_none escape
    have isFirst : p.peek = c := by rw [Cursor.peek, written, isPlain]; rfl
    rcases spaceOrInk with rfl | ink
    · obtain ⟨k, others, rfl, noSpace⟩ := exists_spaces cs
      obtain ⟨first, rest, begins, ink⟩ := exists_ink_cons noSpace after
      have part :
          (List.replicate (k + 1) ' ').flatMap escapedChar = List.replicate (k + 1) ' ' := by
        rw [List.flatMap_replicate, isPlain, List.flatten_replicate_singleton]
      refine ⟨List.replicate (k + 1) ' ', others, rfl, by simp [part], isFirst ▸ noQuote, ?_⟩
      rw [readPart, isFirst, if_neg (by decide), if_pos (by decide), part, List.length_replicate]
      refine readGap_spaces ink rest ?_
      rw [written, ← begins, ← List.append_assoc, ← List.flatMap_cons, ← List.cons_append,
        ← List.replicate_succ, List.flatMap_append, part, List.append_assoc]
    · have part : [c].flatMap escapedChar = [c] := by rw [List.flatMap_singleton, isPlain]
      refine ⟨[c], cs, rfl, by simp [part], isFirst ▸ noQuote, ?_⟩
      rw [readPart, isFirst, if_neg (by simpa using noBackslash), if_neg (by simp [ink.isGap]),
        part]
      rfl

/-- The characters of a text are read back up to the closing quote. -/
lemma readQuoted_flatMap (cs : List Char) {fuel : Nat}
    (written : p.rest = cs.flatMap escapedChar ++ '"' :: after) (enough : p.rest.length < fuel) :
    readQuoted '"' fuel p = .ok (cs, p.advance ((cs.flatMap escapedChar).length + 1)) := by
  induction fuel generalizing cs p with
  | zero => omega
  | succ fuel ih =>
    cases cs with
    | nil =>
      have isQuote : p.peek = '"' := by rw [Cursor.peek, written]; rfl
      simp only [readQuoted, isQuote]
      rfl
    | cons c cs =>
      obtain ⟨part, others, split, notEmpty, noQuote, first⟩ := exists_part c cs written
      rw [split, List.flatMap_append, List.append_assoc] at written
      rw [split, List.flatMap_append, List.length_append, Nat.add_assoc, ← Cursor.advance_advance]
      refine readQuoted_part noQuote first (ih others ?_ ?_)
      · rw [Cursor.rest_advance, written, List.drop_left]
      · rw [written, List.length_append] at enough
        rw [Cursor.rest_advance, written, List.drop_left]
        omega

/-- A text between double quotes is read back, whatever characters it holds. -/
theorem quotedScalar_quotedText {s : String} (written : p.rest = quotedText s ++ after) :
    quotedScalar p = .ok (s, p.advance (quotedText s).length) := by
  have isQuote : p.peek = '"' := by rw [Cursor.peek, written]; rfl
  have inside : p.next.rest = s.toList.flatMap escapedChar ++ '"' :: after := by
    rw [Cursor.rest_next, written]
    simp [quotedText]
  have enough : p.next.rest.length < p.rest.length + 1 := by
    rw [Cursor.rest_next, List.length_tail]
    omega
  rw [quotedScalar, isQuote, readQuoted_flatMap s.toList inside enough, Cursor.next_eq_advance,
    Cursor.advance_advance, quotedText, List.length_append, List.length_cons, List.length_singleton,
    Nat.add_comm 1]
  change Except.ok (String.ofList s.toList, _) = _
  rw [String.ofList_toList]

/-- Characters that are written between double quotes on one line. -/
lemma text_putEscaped (indent : Nat) (isFirst afterEscape : Bool) (cs : List Char) (page : Page) :
    (Page.putEscaped indent false isFirst afterEscape cs page).text =
      page.text ++ String.ofList (cs.flatMap escapedChar) := by
  induction cs generalizing isFirst afterEscape page with
  | nil => simp [Page.putEscaped]
  | cons c cs ih =>
    rw [Page.putEscaped, List.flatMap_cons, escapedChar]
    cases escape : Page.escape? c with
    | some e =>
      simp only [Bool.false_and, Bool.false_eq_true, if_false, ih, Page.put, String.append_assoc,
        String.ofList_append, String.ofList_toList]
    | none =>
      simp only [Bool.false_and, Bool.false_eq_true, if_false, ih, Page.put, String.append_assoc,
        String.ofList_append, String.singleton_eq_ofList]

/-- On one line a text is written between double quotes. -/
theorem text_double (page : Page) (indent : Nat) (s : String) :
    (page.double indent false s).text =
      page.text ++ (if page.afterBlank then "" else " ") ++ String.ofList (quotedText s) := by
  rw [Page.double, quotedText]
  have begins : (page.sign "\"" true).text =
      page.text ++ (if page.afterBlank then "" else " ") ++ "\"" := by
    cases blank : page.afterBlank <;> simp [Page.sign, Page.put, blank, String.append_assoc]
  have ends (p : Page) : (p.sign "\"" false).text = p.text ++ "\"" := by simp [Page.sign, Page.put]
  rw [ends, text_putEscaped, begins, List.cons_append, String.ofList_cons, String.ofList_append]
  simp only [String.append_assoc]
  rfl

end EntityModel.Yaml
