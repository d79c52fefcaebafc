import EntityModel.Fault
import EntityModel.Number.Reading
import EntityModel.Value.Equality

/-!
# Values put to use

What a value stands for where a text, a number, a sequence or a mapping is needed. A value of
another kind is a fault; these are the only ways in which a slot that was copied unread can spoil
a later step.
-/

namespace EntityModel

namespace Value

def asText : Value → Outcome String
  | .text s => .ok s
  | _ => wrongKind

/-- The value as a scalar, which alone can be a key. -/
def asScalar : Value → Outcome Scalar
  | .scalar s => .ok s
  | _ => wrongKind

def asMap : Value → Outcome Entries
  | .map entries => .ok entries
  | _ => wrongKind

/-- The parts of a value in order: the items of a list, the characters of a text, the keys of a
mapping. -/
def elements : Value → Outcome (List Value)
  | .list items => .ok items
  | .text s => .ok (s.toList.map fun c => .text c.toString)
  | .map entries => .ok (entries.map fun (k, _) => .scalar k)
  | _ => wrongKind

def length : Value → Outcome Nat
  | .list items => .ok items.length
  | .text s => .ok s.length
  | .map entries => .ok entries.length
  | _ => wrongKind

/-- The whole part of a number, or the whole number that a text writes. -/
def asWhole : Value → Outcome Int
  | .scalar (.int i) => .ok i
  | .scalar (.bool b) => .ok (Scalar.ofBool b)
  | .scalar (.real x) => match x with
    | .nan => refuse .notWhole
    | .infinite _ => .error (.outOfRange "cannot convert float infinity to integer")
    | x => .ok (x.truncate?.getD 0)
  | .scalar (.text s) => match Number.readWhole? s with
    | some i => .ok i
    | none => refuse (.notWholeNumber s 10)
  | _ => wrongKind

/-- Whether a number, or the number that a text writes, is whole. -/
def isWhole : Value → Outcome Bool
  | .scalar (.int i) => match Binary64.ofInt i with
    | .infinite _ => .error (.outOfRange "int too large to convert to float")
    | _ => .ok true
  | .scalar (.bool _) => .ok true
  | .scalar (.real x) => .ok x.isWhole
  | .scalar (.text s) => match Number.readReal? s with
    | some x => .ok x.isWhole
    | none => refuse (.notNumber s)
  | _ => wrongKind

/-! ### Entries of a mapping -/

def entry (key : String) : Value → Outcome Value
  | .map entries => match Entries.find? (.text key) entries with
    | some v => .ok v
    | none => .error (.missingKey key)
  | _ => wrongKind

def entryOr (key : String) (v default : Value) : Outcome Value :=
  match v with
  | .map entries => .ok ((Entries.find? (.text key) entries).getD default)
  | _ => wrongKind

def optional (key : String) (v : Value) : Outcome Value := v.entryOr key .null

/-- The first value if it counts as given, else the second. -/
def orElse (v w : Value) : Value := if v.isGiven then v else w

/-! ### Order -/

/-- Whether one moment comes before another of the same make. -/
def momentBefore (m n : Moment) : Option Bool :=
  let date (m : Moment) := [m.year, m.month, m.day]
  match m.clock, n.clock with
  | none, none => some (date m < date n)
  | some a, some b =>
    if a.offset = b.offset then
      let time (c : Clock) := [c.hour, c.minute, c.second, c.micro]
      some (date m ++ time a < date n ++ time b)
    else none
  | _, _ => none

/-- Whether one scalar comes before another; scalars of different kinds do not compare. -/
def scalarBefore (a b : Scalar) : Outcome Bool :=
  match a, b with
  | .text s, .text t => .ok (s < t)
  | .moment m, .moment n => match momentBefore m n with
    | some before => .ok before
    | none => wrongKind
  | a, b =>
    let isNumber (s : Scalar) : Bool := match s with
      | .int _ | .bool _ | .real _ => true
      | _ => false
    if isNumber a && isNumber b then .ok (a.compareNumbers? b == some .lt) else wrongKind

mutual

/-- Whether one value comes before another: lists item by item, and no mapping does. -/
def before : Value → Value → Outcome Bool
  | .scalar a, .scalar b => scalarBefore a b
  | .list xs, .list ys => itemsBefore xs ys
  | _, _ => wrongKind

/-- Whether one list comes before another, by the first items that differ. -/
def itemsBefore : List Value → List Value → Outcome Bool
  | [], ys => .ok (!ys.isEmpty)
  | _ :: _, [] => .ok false
  | x :: xs, y :: ys =>
    if same x y then itemsBefore xs ys else before x y

end

/-- Whether two scalars can be put in order: two texts, or two numbers. -/
def comparable : Scalar → Scalar → Bool
  | .text _, .text _ => true
  | .null, _ | _, .null | .text _, _ | _, .text _ | .moment _, _ | _, .moment _ => false
  | _, _ => true

/-- Whether one of two comparable scalars does not come after the other. -/
def scalarLe : Scalar → Scalar → Bool
  | .text s, .text t => !(t < s)
  | a, b => Scalar.compareNumbers? b a != some .lt

/-- Keyed items by ascending keys, where the keys compare. -/
def sortedBy {α : Type} (key : α → Scalar) (items : List α) : Outcome (List α) :=
  match items with
  | [] => .ok []
  | first :: rest =>
    if rest.all fun item => comparable (key first) (key item) then
      .ok (items.mergeSort fun a b => scalarLe (key a) (key b))
    else wrongKind

/-! ### Mappings out of pairs -/

/-- A key and a value out of two parts. -/
def asPair (position : Nat) (v : Value) : Outcome (Scalar × Value) := do
  match ← v.elements with
  | [k, w] => return (← k.asScalar, w)
  | parts => refuse (.pairSize position parts.length)

def asPairs : Nat → List Value → Outcome (List (Scalar × Value))
  | _, [] => .ok []
  | position, v :: rest => do
    let pair ← v.asPair position
    return pair :: (← asPairs (position + 1) rest)

/-- A mapping out of a mapping or a sequence of pairs. -/
def toEntries : Value → Outcome Entries
  | .map entries => .ok entries
  | v => do return Entries.ofPairs (← asPairs 0 (← v.elements))

end Value

end EntityModel
