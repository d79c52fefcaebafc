/-!
# Lines

The lines of a text and the margin that they share.
-/

namespace EntityModel.Text

/-- Whether a character ends a line of a text. -/
def isLineSeparator (c : Char) : Bool :=
  let n := c.toNat
  (0x0A ≤ n && n ≤ 0x0D) || (0x1C ≤ n && n ≤ 0x1E) || n == 0x85 || n == 0x2028 || n == 0x2029

/-- A character in front of the first of some lines. -/
def prepend (c : Char) : List (List Char) → List (List Char)
  | [] => [[c]]
  | line :: rest => (c :: line) :: rest

/-- The lines of a text, whatever ends them; the end of the text ends the last one. -/
def linesOf : List Char → List (List Char)
  | [] => []
  | '\r' :: '\n' :: rest => [] :: linesOf rest
  | c :: rest => if isLineSeparator c then [] :: linesOf rest else prepend c (linesOf rest)

/-- The parts of a text between its line feeds. -/
def betweenFeeds : List Char → List (List Char)
  | [] => [[]]
  | '\n' :: rest => [] :: betweenFeeds rest
  | c :: rest => prepend c (betweenFeeds rest)

def joinLines (lines : List (List Char)) : List Char := ['\n'].intercalate lines

/-- Whether a character can be part of a margin. -/
def isMarginChar (c : Char) : Bool := c == ' ' || c == '\t'

/-- The characters that two texts start with in common. -/
def commonStart : List Char → List Char → List Char
  | a :: as, b :: bs => if a == b then a :: commonStart as bs else []
  | _, _ => []

/-- The margin that lines share; lines without any other character have none. -/
def sharedMargin (lines : List (List Char)) : List Char :=
  let margins := (lines.filter (·.any (!isMarginChar ·))).map (·.takeWhile isMarginChar)
  match margins with
  | [] => []
  | first :: rest => rest.foldl commonStart first

/-- A text without the margin that its lines share; lines of nothing but margin become empty. -/
def dedented (cs : List Char) : List Char :=
  let lines := (betweenFeeds cs).map fun line => if line.all isMarginChar then [] else line
  let margin := sharedMargin lines
  joinLines (lines.map (·.drop margin.length))

end EntityModel.Text
