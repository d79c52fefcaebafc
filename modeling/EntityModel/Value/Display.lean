import EntityModel.Value.Basic
import EntityModel.Number.Shortest
import EntityModel.Text.Quoted

/-!
# Displayed values

How a value stands in a message or in a generated expression: bare, or quoted as a literal.
-/

namespace EntityModel

/-- A moment as a literal: its parts as arguments. -/
def Moment.quoted (m : Moment) : String :=
  let date := s!"{m.year}, {m.month}, {m.day}"
  match m.clock with
  | none => s!"datetime.date({date})"
  | some c =>
    let seconds := if c.second = 0 && c.micro = 0 then "" else s!", {c.second}"
    let micros := if c.micro = 0 then "" else s!", {c.micro}"
    let zone := match c.offset with
      | none => ""
      | some 0 => ", tzinfo=datetime.timezone.utc"
      | some offset => ", tzinfo=datetime.timezone(" ++ Moment.quotedSpan offset ++ ")"
    s!"datetime.datetime({date}, {c.hour}, {c.minute}{seconds}{micros}{zone})"

namespace Scalar

def quoted : Scalar → String
  | .null => "None"
  | .bool b => if b then "True" else "False"
  | .int i => toString i
  | .real x => x.shown
  | .text s => Text.quoted s
  | .moment m => m.quoted

def shown : Scalar → String
  | .text s => s
  | .moment m => m.shown
  | s => s.quoted

end Scalar

namespace Value

mutual

def quoted : Value → String
  | .scalar s => s.quoted
  | .list items => "[" ++ ", ".intercalate (quotedItems items) ++ "]"
  | .map entries => "\x7b" ++ ", ".intercalate (quotedEntries entries) ++ "\x7d"

def quotedItems : List Value → List String
  | [] => []
  | v :: vs => quoted v :: quotedItems vs

def quotedEntries : List (Scalar × Value) → List String
  | [] => []
  | (k, v) :: rest => (k.quoted ++ ": " ++ quoted v) :: quotedEntries rest

end

/-- A value as it stands in a message: a text bare, anything else as a literal. -/
def shown : Value → String
  | .scalar s => s.shown
  | v => v.quoted

/-- A sequence of values as a literal; one value alone is followed by a comma. -/
def quotedSequence : List Value → String
  | [v] => "(" ++ v.quoted ++ ",)"
  | vs => "(" ++ ", ".intercalate (quotedItems vs) ++ ")"

end Value

end EntityModel
