import EntityModel.Number.Binary64
import EntityModel.Value.Moment

/-!
# Values

What an author may write in a document: scalars, lists and mappings. Many slots of a declaration are
copied unread from the document to the generated model, so a declaration holds values there, of
whatever kind they are. A mapping keeps its entries in the order in which their keys first appeared.
-/

namespace EntityModel

/-- A value without parts. -/
inductive Scalar where
  | null
  | bool (b : Bool)
  | int (i : Int)
  | real (x : Binary64)
  | text (s : String)
  | moment (m : Moment)
  deriving DecidableEq, Repr

/-- A value of a document. -/
inductive Value where
  | scalar (s : Scalar)
  | list (items : List Value)
  | map (entries : List (Scalar × Value))
  deriving Repr, Inhabited

/-- The entries of a mapping, in order. -/
abbrev Entries := List (Scalar × Value)

namespace Value

@[match_pattern] abbrev null : Value := .scalar .null
@[match_pattern] abbrev bool (b : Bool) : Value := .scalar (.bool b)
@[match_pattern] abbrev int (i : Int) : Value := .scalar (.int i)
@[match_pattern] abbrev real (x : Binary64) : Value := .scalar (.real x)
@[match_pattern] abbrev text (s : String) : Value := .scalar (.text s)
@[match_pattern] abbrev moment (m : Moment) : Value := .scalar (.moment m)

end Value

instance : Coe String Value := ⟨Value.text⟩

/-! ### Numbers -/

namespace Scalar

/-- A truth value counts as one or zero. -/
def ofBool (b : Bool) : Int := if b then 1 else 0

/-- The whole number that a scalar is, if it is one or a truth value. -/
def int? : Scalar → Option Int
  | .int i => some i
  | .bool b => some (ofBool b)
  | _ => none

/-- How two scalars compare as numbers, if both are numbers. -/
def compareNumbers? : Scalar → Scalar → Option Ordering
  | .real x, .real y => x.compare? y
  | .real x, b => do x.compareInt? (← b.int?)
  | a, .real y => do return (← y.compareInt? (← a.int?)).swap
  | a, b => do return compare (← a.int?) (← b.int?)

/-- Whether two scalars are equal, where numbers are compared by what they amount to. -/
def same : Scalar → Scalar → Bool
  | .null, .null => true
  | .text s, .text t => s == t
  | .moment m, .moment n => m == n
  | a, b => compareNumbers? a b == some .eq

/-- Whether a scalar counts as given: not null, false, zero or the empty text. -/
def isGiven : Scalar → Bool
  | .null => false
  | .bool b => b
  | .int i => i != 0
  | .real x => x.isNonzero
  | .text s => s != ""
  | .moment _ => true

end Scalar

/-! ### Mappings -/

namespace Entries

def find? (key : Scalar) : Entries → Option Value
  | [] => none
  | (k, v) :: rest => if k.same key then some v else find? key rest

/-- The entries with a key set to a value: a key that is there keeps its place and its spelling. -/
def put (key : Scalar) (value : Value) : Entries → Entries
  | [] => [(key, value)]
  | (k, v) :: rest => if k.same key then (k, value) :: rest else (k, v) :: put key value rest

/-- The entries of pairs in order, where a later pair with an earlier key replaces its value. -/
def ofPairs (pairs : List (Scalar × Value)) : Entries :=
  pairs.foldl (fun entries pair => put pair.1 pair.2 entries) []

end Entries

namespace Value

/-- Whether a value counts as given: not null, false, zero or empty. -/
def isGiven : Value → Bool
  | .scalar s => s.isGiven
  | .list items => !items.isEmpty
  | .map entries => !entries.isEmpty

def isNull : Value → Bool
  | .null => true
  | _ => false

def text? : Value → Option String
  | .text s => some s
  | _ => none

def get? (key : String) : Value → Option Value
  | .map entries => Entries.find? (.text key) entries
  | _ => none

/-- The value under a text key of a mapping, or null. -/
def getD (key : String) (v : Value) : Value :=
  (v.get? key).getD .null

/-- A mapping with text keys. -/
def record (entries : List (String × Value)) : Value :=
  .map (entries.map fun (k, v) => (.text k, v))

def texts (items : List String) : Value :=
  .list (items.map .text)

end Value

end EntityModel
