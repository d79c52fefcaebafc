import EntityModel.Text.CaseTable

/-!
# Letter case

Full Unicode case conversion of text. A character may become several (`İ`, `ß`), and a capital sigma
becomes `ς` at the end of a word and `σ` elsewhere, where "the end of a word" looks past characters
that are case-ignorable.
-/

namespace EntityModel.Text

/-- The character `shift` code points away. -/
def shiftChar (c : Char) (shift : Int) : Char :=
  Char.ofNat (c.toNat + shift).toNat

/-- The capital sigma, the one letter whose lowercase depends on its neighbours. -/
def capitalSigma : Char := 'Σ'

def lowerChar (c : Char) : List Char :=
  if c.val < 0x80 then [c.toLower]
  else if c == 'İ' then ['i', '\u0307']
  else if c == capitalSigma then ['σ']
  else match lowerRuns.find? (·.covers c.toNat) with
    | some run => [shiftChar c run.shift]
    | none => [c]

def upperChar (c : Char) : List Char :=
  if c.val < 0x80 then [c.toUpper]
  else match upperExpansions.lookup c.toNat with
    | some codes => codes.map Char.ofNat
    | none => match upperRuns.find? (·.covers c.toNat) with
      | some run => [shiftChar c run.shift]
      | none => [c]

/-- Whether a character is a letter with case. -/
def isCased (c : Char) : Bool :=
  if c.val < 0x80 then c.isAlpha else inRanges casedRanges c.toNat

/-- Whether a character is skipped when looking for the cased neighbours of a sigma. -/
def isCaseIgnorable (c : Char) : Bool :=
  inRanges caseIgnorableRanges c.toNat

/-- Whether the first character that is not case-ignorable is cased. -/
def startsCased : List Char → Bool
  | [] => false
  | c :: rest => if isCaseIgnorable c then startsCased rest else isCased c

/-- Lowercase of a text, where `afterCased` tells whether a cased letter stands just before it. -/
def lowerAfter (afterCased : Bool) : List Char → List Char
  | [] => []
  | c :: rest =>
    let here :=
      if c == capitalSigma && afterCased && !startsCased rest then ['ς'] else lowerChar c
    here ++ lowerAfter (if isCaseIgnorable c then afterCased else isCased c) rest

def lowerChars (cs : List Char) : List Char := lowerAfter false cs

def upperChars (cs : List Char) : List Char := cs.flatMap upperChar

def lowercase (s : String) : String := String.ofList (lowerChars s.toList)

def uppercase (s : String) : String := String.ofList (upperChars s.toList)

/-- The text with its first character in uppercase and the rest as it is. -/
def capitalized : List Char → List Char
  | [] => []
  | c :: rest => upperChar c ++ rest

/-- The text with its first character in lowercase and the rest as it is. -/
def uncapitalized : List Char → List Char
  | [] => []
  | c :: rest => lowerChars [c] ++ rest

end EntityModel.Text
