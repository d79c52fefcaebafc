import EntityModel.Predicate.Tree
import EntityModel.Text.Casing

/-!
# Things that code works with

A predicate that is a function is what a piece of code leaves behind under a name. To find it the
code is run as far as that can tell which function it is: functions, classes, containers and scopes
are objects in a store, and whatever else a computation yields is a thing of which nothing is known.
-/

namespace EntityModel.Predicate

/-! ### Things -/

/-- What a name or an expression stands for. -/
inductive Thing where
  | unknown
  | none
  | truth (b : Bool)
  | number (i : Int)
  | text (s : String)
  /-- an object in the store -/
  | object (address : Nat)
  /-- a function, a class or a module that is always there, by its path -/
  | builtin (path : String)
  /-- a method that containers and texts have by nature -/
  | method (receiver : Thing) (name : String)
  deriving DecidableEq, Repr, Inhabited

/-- Things under their names. -/
abbrev Names := List (String × Thing)

namespace Names

def put (name : String) (t : Thing) : Names → Names
  | [] => [(name, t)]
  | (k, v) :: rest => if k = name then (k, t) :: rest else (k, v) :: put name t rest

end Names

/-! ### Objects -/

/-- What a scope belongs to. -/
inductive ScopeKind where
  | module | classBody | call
  deriving DecidableEq, Repr

/-- A scope: its names, the scope around it, and the names that belong to scopes further out. -/
structure Frame where
  kind : ScopeKind
  names : Names := []
  outer : Option Nat := .none
  foreign : List String := []
  deriving Repr

/-- A function that was made: its definition, the line on which it starts, the scope around it, and
what was known of its parameters by then. -/
structure Closure where
  node : Node
  line : Nat
  scope : Nat
  defaults : Names := []
  /-- what was set on the function afterwards -/
  attributes : Names := []
  deriving Repr

namespace Closure

def ownName (c : Closure) : String :=
  if c.node.form = .lambda then "<lambda>" else String.ofList c.node.word

def name (c : Closure) : String :=
  match c.attributes.lookup "__name__" with
  | some (.text s) => s
  | _ => c.ownName

end Closure

/-- How a thing is wrapped. -/
inductive Wrapping where
  | static | ofClass | property | cached
  /-- takes a function and makes it look like the one inside -/
  | likeness
  deriving DecidableEq, Repr

/-- An object in the store. -/
inductive Object where
  | list (items : List Thing)
  | tuple (items : List Thing)
  | mapping (entries : List (Thing × Thing))
  | function (c : Closure)
  | bound (receiver function : Thing)
  | classObject (bases : List Thing) (members : Names)
  | instanceOf (type : Thing) (fields : Names)
  | wrapped (wrapping : Wrapping) (inner : Thing)
  | partially (function : Thing) (args : List Thing) (named : Names)
  | frame (f : Frame)
  deriving Repr

/-- The objects, by their addresses. -/
abbrev Store := Array Object

/-- A step of a run, which may come to an end without a result. -/
abbrev Step := StateT Store Option

namespace Store

def object? (s : Store) : Thing → Option Object
  | .object address => s[address]?
  | _ => .none

def closure? (s : Store) (t : Thing) : Option Closure :=
  match s.object? t with
  | some (.function c) => some c
  | _ => .none

def frame? (s : Store) (address : Nat) : Option Frame :=
  match s[address]? with
  | some (.frame f) => some f
  | _ => .none

def replace (s : Store) (address : Nat) (o : Object) : Store :=
  if h : address < s.size then s.set address o h else s

/-! ### Names in scopes -/

/-- The thing that a name stands for, seen from a scope. Scopes of classes are seen from themselves
only. -/
def lookup? (s : Store) (name : String) : (fuel : Nat) → (isInner : Bool) → Nat → Option Thing
  | 0, _, _ => .none
  | n + 1, isInner, address => do
    let f ← s.frame? address
    let here := if f.kind = .classBody && !isInner then .none else f.names.lookup name
    match here with
    | some t => some t
    | .none => s.lookup? name n false (← f.outer)

/-- The address of the scope in which a name is set, seen from a scope. -/
def ownerOf (s : Store) (name : String) : (fuel : Nat) → Nat → Nat
  | 0, address => address
  | n + 1, address => match s.frame? address with
    | some f =>
      if f.foreign.contains name then
        match f.outer with
        | some outer => ownerOfOuter s name n outer
        | .none => address
      else address
    | .none => address
where
  /-- The next scope outwards that has a name, or the outermost one. -/
  ownerOfOuter (s : Store) (name : String) : Nat → Nat → Nat
    | 0, address => address
    | n + 1, address => match s.frame? address with
      | some f => match f.names.lookup name, f.outer with
        | .none, some outer => ownerOfOuter s name n outer
        | _, _ => address
      | .none => address

/-- Whether the scope of some function around a scope has a name. -/
def isBoundAround (s : Store) (name : String) : (fuel : Nat) → Nat → Bool
  | 0, _ => false
  | n + 1, address => match s.frame? address with
    | some f =>
      (f.kind = .call && (f.names.lookup name).isSome) ||
        (match f.outer with
          | some outer => s.isBoundAround name n outer
          | .none => false)
    | .none => false

/-- Whether a scope stands inside of a class. -/
def isInClass (s : Store) : (fuel : Nat) → Nat → Bool
  | 0, _ => false
  | n + 1, address => match s.frame? address with
    | some f => f.kind = .classBody ||
        (match f.outer with
          | some outer => s.isInClass n outer
          | .none => false)
    | .none => false

/-! ### Members -/

/-- A member of a class or of the classes that it extends. -/
def member? (s : Store) (name : String) : (fuel : Nat) → Thing → Option Thing
  | 0, _ => .none
  | n + 1, t => match s.object? t with
    | some (.classObject bases members) => match members.lookup name with
      | some m => some m
      | .none => bases.findSome? (s.member? name n)
    | _ => .none

end Store

/-! ### Steps -/

def allocate (o : Object) : Step Thing := do
  let s ← get
  set (s.push o)
  return .object s.size

def objectOf (t : Thing) : Step (Option Object) := do return (← get).object? t

def replaceObject (t : Thing) (o : Object) : Step Unit :=
  match t with
  | .object address => modify fun s => s.replace address o
  | _ => pure ()

def assignName (scope : Nat) (name : String) (t : Thing) : Step Unit := do
  let s ← get
  let owner := s.ownerOf name (s.size + 1) scope
  match s.frame? owner with
  | some f => set (s.replace owner (.frame { f with names := Names.put name t f.names }))
  | .none => pure ()

def openScope (f : Frame) : Step Nat := do
  let s ← get
  set (s.push (.frame f))
  return s.size

/-! ### Truth and equality -/

/-- Whether a thing counts as true; what is not known does. -/
def Store.isTrue (s : Store) : Thing → Bool
  | .none => false
  | .truth b => b
  | .number i => i != 0
  | .text t => t != ""
  | .object address => match s[address]? with
    | some (.list items) | some (.tuple items) => !items.isEmpty
    | some (.mapping entries) => !entries.isEmpty
    | _ => true
  | _ => true

/-- Whether two things are equal, as far as that is known: numbers and texts by what they are,
tuples by their items, other objects by their places. -/
def Store.isEqual (s : Store) : (fuel : Nat) → Thing → Thing → Bool
  | 0, _, _ => false
  | n + 1, a, b => match a, b with
    | .truth x, .number i | .number i, .truth x => i == (if x then 1 else 0)
    | .object x, .object y =>
      x == y || (match s[x]?, s[y]? with
        | some (.list as), some (.list bs) | some (.tuple as), some (.tuple bs) =>
          as.length == bs.length && (as.zip bs).all fun (c, d) => s.isEqual n c d
        | _, _ => false)
    | a, b => a == b

/-- The things that a loop over a thing runs through, where they are known. -/
def Store.itemsOf (s : Store) (t : Thing) : List Thing :=
  match t with
  | .text word => word.toList.map fun c => .text c.toString
  | t => match s.object? t with
    | some (.list items) | some (.tuple items) => items
    | some (.mapping entries) => entries.map (·.1)
    | _ => []

def Store.entry? (s : Store) (key : Thing) (entries : List (Thing × Thing)) : Option Thing :=
  (entries.find? fun (k, _) => s.isEqual 8 k key).map (·.2)

def Store.putEntry (s : Store) (key value : Thing) : List (Thing × Thing) → List (Thing × Thing)
  | [] => [(key, value)]
  | (k, v) :: rest =>
    if s.isEqual 8 k key then (k, value) :: rest else (k, v) :: s.putEntry key value rest

/-- The item at a place, which may be counted from the end. -/
def itemAt? (items : List Thing) (i : Int) : Option Thing :=
  let place := if i < 0 then i + items.length else i
  if place < 0 then .none else items[place.toNat]?

end EntityModel.Predicate
