import EntityModel.Predicate.Sameness
import EntityModel.Predicate.Statement
import EntityModel.Predicate.Thing

/-!
# Runs of code

A run follows the statements of code, and keeps track of the functions that it makes, where they are
put and how they come back. Arithmetic and texts are followed only as far as they choose between
functions. A run goes by an amount of fuel; one that runs out of it, or meets a failure that the
code does not handle, has no result.
-/

namespace EntityModel.Predicate

/-- How a statement ends. -/
inductive Flow where
  | next
  | returned (t : Thing)
  | broken
  | continued
  deriving Repr

/-! ### Operations on things -/

def newList (items : List Thing) : Step Thing := allocate (.list items)

def newTuple (items : List Thing) : Step Thing := allocate (.tuple items)

def itemsIn (t : Thing) : Step (List Thing) := do return (← get).itemsOf t

/-- The result of an operator between two things. -/
def operate (op : List Char) (a b : Thing) : Step Thing := do
  let s ← get
  match String.ofList op, a, b with
  | "+", .number x, .number y => return .number (x + y)
  | "-", .number x, .number y => return .number (x - y)
  | "*", .number x, .number y => return .number (x * y)
  | "+", .text x, .text y => return .text (x ++ y)
  | "+", a, b => match s.object? a, s.object? b with
    | some (.list xs), some (.list ys) => newList (xs ++ ys)
    | some (.tuple xs), some (.tuple ys) => newTuple (xs ++ ys)
    | _, _ => return .unknown
  | "|", a, b => match s.object? a, s.object? b with
    | some (.mapping xs), some (.mapping ys) =>
      allocate (.mapping (ys.foldl (fun entries (k, v) => s.putEntry k v entries) xs))
    | _, _ => return .unknown
  | "%", .number x, .number y => if y = 0 then failure else return .number (x.fmod y)
  | "//", .number x, .number y => if y = 0 then failure else return .number (x.fdiv y)
  | _, _, _ => return .unknown

def compareThings (op : List Char) (a b : Thing) : Step Bool := do
  let s ← get
  match String.ofList op, a, b with
  | "==", a, b => return s.isEqual 8 a b
  | "!=", a, b => return !s.isEqual 8 a b
  | "is", a, b => return a == b
  | "is not", a, b => return a != b
  | "<", .number x, .number y => return x < y
  | "<=", .number x, .number y => return x ≤ y
  | ">", .number x, .number y => return y < x
  | ">=", .number x, .number y => return y ≤ x
  | "in", a, b => return (s.itemsOf b).any (s.isEqual 8 a)
  | "not in", a, b => return !(s.itemsOf b).any (s.isEqual 8 a)
  | _, _, _ => return true

/-- The thing in a container under an index or a key. -/
def itemUnder (t index : Thing) : Step Thing := do
  let s ← get
  match s.object? t, index with
  | some (.list items), .number i | some (.tuple items), .number i => match itemAt? items i with
    | some item => return item
    | none => failure
  | some (.mapping entries), key => match s.entry? key entries with
    | some value => return value
    | none => failure
  | _, _ => return .unknown

/-- A thing put into a container under an index or a key. -/
def putUnder (t index value : Thing) : Step Unit := do
  let s ← get
  match s.object? t, index with
  | some (.list items), .number i =>
    let place := if i < 0 then i + items.length else i
    replaceObject t (.list (items.set place.toNat value))
  | some (.mapping entries), key => replaceObject t (.mapping (s.putEntry key value entries))
  | _, _ => pure ()

def putMember (t : Thing) (name : String) (value : Thing) : Step Unit := do
  match ← objectOf t with
  | some (.instanceOf type fields) =>
    replaceObject t (.instanceOf type (Names.put name value fields))
  | some (.classObject bases members) =>
    replaceObject t (.classObject bases (Names.put name value members))
  | some (.function c) =>
    replaceObject t (.function { c with attributes := Names.put name value c.attributes })
  | _ => pure ()

def Store.nameOf? (s : Store) (t : Thing) : Option String :=
  match s.object? t with
  | some (.function c) => some c.name
  | some (.bound _ f) => (s.closure? f).map Closure.name
  | some (.wrapped .cached f) => (s.closure? f).map Closure.name
  | _ => none

/-- A function made to look like another one. -/
def liken (function other : Thing) : Step Thing := do
  putMember function "__wrapped__" other
  match (← get).nameOf? other with
  | some name => putMember function "__name__" (.text name)
  | none => pure ()
  return function

def namedEntries (named : Names) : List (Thing × Thing) :=
  named.map fun (k, v) => (.text k, v)

/-- The entries that a mapping or a list of pairs contributes to a mapping. -/
def entriesIn (t : Thing) : Step (List (Thing × Thing)) := do
  let s ← get
  match s.object? t with
  | some (.mapping entries) => return entries
  | _ => return (s.itemsOf t).filterMap fun pair => match s.itemsOf pair with
    | [k, v] => some (k, v)
    | _ => none

/-- A new mapping of entries in order, a later one with an earlier key replacing its value. -/
def newMapping (entries : List (Thing × Thing)) : Step Thing := do
  let s ← get
  allocate (.mapping (entries.foldl (fun before (k, v) => s.putEntry k v before) []))

/-- The whole numbers from one to before another, in steps. -/
def numbersFrom (start step : Int) (count : Nat) : List Thing :=
  (List.range count).map fun (i : Nat) => .number (start + step * i)

def rangeOf (args : List Thing) : List Thing :=
  let countUp (start stop : Int) : List Thing := numbersFrom start 1 (min 1000 (stop - start).toNat)
  match args with
  | [.number stop] => countUp 0 stop
  | [.number start, .number stop] => countUp start stop
  | [.number start, .number stop, .number step] =>
    let span := if 0 < step then stop - start else start - stop
    numbersFrom start step (min 1000 ((span + step.natAbs - 1) / step.natAbs).toNat)
  | _ => []

/-- Lists side by side, up to the shortest. -/
def rows : List (List Thing) → Nat → List (List Thing)
  | _, 0 => []
  | lists, n + 1 =>
    if lists.isEmpty || lists.any List.isEmpty then []
    else lists.filterMap List.head? :: rows (lists.map List.tail) n

def callContainer (receiver : Thing) (name : String) (args : List Thing) (named : Names) :
    Step Thing := do
  let s ← get
  match s.object? receiver, name, args with
  | some (.list items), "append", [t] | some (.list items), "add", [t] =>
    replaceObject receiver (.list (items ++ [t]))
    return .none
  | some (.list items), "extend", [t] =>
    replaceObject receiver (.list (items ++ s.itemsOf t))
    return .none
  | some (.list items), "insert", [.number i, t] =>
    replaceObject receiver (.list (items.insertIdx (min i.toNat items.length) t))
    return .none
  | some (.list items), "pop", [] => match items.getLast? with
    | some t =>
      replaceObject receiver (.list items.dropLast)
      return t
    | none => failure
  | some (.list items), "pop", [.number i] => match itemAt? items i with
    | some t =>
      let place := if i < 0 then i + items.length else i
      replaceObject receiver (.list (items.eraseIdx place.toNat))
      return t
    | none => failure
  | some (.list items), "copy", [] => newList items
  | some (.list items), "reverse", [] =>
    replaceObject receiver (.list items.reverse)
    return .none
  | some (.mapping entries), "get", key :: rest =>
    return (s.entry? key entries).getD (rest.headD .none)
  | some (.mapping entries), "setdefault", key :: rest => match s.entry? key entries with
    | some t => return t
    | none =>
      let t := rest.headD .none
      replaceObject receiver (.mapping (entries ++ [(key, t)]))
      return t
  | some (.mapping entries), "pop", key :: rest =>
    replaceObject receiver (.mapping (entries.filter fun (k, _) => !s.isEqual 8 k key))
    return (s.entry? key entries).getD (rest.headD .none)
  | some (.mapping entries), "update", args =>
    let more ← match args with
      | t :: _ => entriesIn t
      | [] => pure []
    let all :=
      (more ++ namedEntries named).foldl (fun before (k, v) => s.putEntry k v before) entries
    replaceObject receiver (.mapping all)
    return .none
  | some (.mapping entries), "copy", [] => allocate (.mapping entries)
  | some (.mapping entries), "keys", [] => newList (entries.map (·.1))
  | some (.mapping entries), "values", [] => newList (entries.map (·.2))
  | some (.mapping entries), "items", [] => do
    newList (← entries.mapM fun (k, v) => newTuple [k, v])
  | _, _, _ => return .unknown

/-! ### Functions -/

/-- The things that the parameters of a function stand for in a call. -/
def bindParameters (defaults : Names) : List Node → List Thing → Names → Step Names
  | [], _, _ => return []
  | p :: ps, args, named => do
    let name := String.ofList p.word
    let byName := (named.lookup name).getD ((defaults.lookup name).getD .unknown)
    match p.form, args with
    | .gathered, args => do
      let all ← newTuple args
      return (name, all) :: (← bindParameters defaults ps [] named)
    | .gatheredNamed, args => do
      let all ← newMapping (namedEntries named)
      return (name, all) :: (← bindParameters defaults ps args named)
    | .keywordOnly, args =>
      return (name, byName) :: (← bindParameters defaults ps args (named.filter (·.1 != name)))
    | _, t :: rest => return (name, t) :: (← bindParameters defaults ps rest named)
    | _, [] =>
      return (name, byName) :: (← bindParameters defaults ps [] (named.filter (·.1 != name)))

mutual

/-- Whether a node yields something, outside of the functions in it. -/
def Node.yields : Node → Bool
  | .node form _ _ _ parts => match form with
    | .yielded | .yieldedFrom => true
    | .function | .lambda | .classDefinition => false
    | _ => areYielding parts
termination_by structural n => n

/-- Whether nodes yield something, outside of the functions in them. -/
def areYielding : List Node → Bool
  | [] => false
  | n :: ns => n.yields || areYielding ns
termination_by structural ns => ns

end

/-- The modules whose functions take a function and give it back, or one that looks like it. -/
def decoratingModules : List String := ["abc", "typing", "contextlib", "functools"]

/-- Whether a path leads into a module that decorates functions. -/
def isDecorating (path : String) : Bool :=
  decoratingModules.any fun module => (module ++ ".").toList.isPrefixOf path.toList

def firstOfPath (path : List Char) : List Char := path.takeWhile (· != '.')

def importAll (scope : Nat) (module : Option (List Char)) : List Node → Step Unit
  | [] => pure ()
  | name :: rest => do
    let path := match module with
      | some module => module ++ '.' :: name.word
      | none => name.word
    match name.parts, module with
    | [other], _ => assignName scope (String.ofList other.word) (.builtin (String.ofList path))
    | _, some _ => assignName scope (String.ofList name.word) (.builtin (String.ofList path))
    | _, none =>
      let first := firstOfPath name.word
      assignName scope (String.ofList first) (.builtin (String.ofList first))
    importAll scope module rest

mutual

/-- The thing that an expression stands for in a scope. -/
def eval (code : List Char) : Nat → (scope : Nat) → Node → Step Thing
  | 0, _, _ => failure
  | n + 1, scope, .node form word start stop parts => match form, parts with
    | .name, _ => do
      let s ← get
      let name := String.ofList word
      return (s.lookup? name (s.size + 1) true scope).getD (.builtin name)
    | .number, _ => return ((wholeLiteral? word).map fun (i : Nat) => Thing.number i).getD .unknown
    | .string, _ => return .text (String.ofList word)
    | .constant, _ =>
      if word = "None".toList then return .none
      else if word = "True".toList then return .truth true
      else if word = "False".toList then return .truth false
      else return .unknown
    | .tuple, parts => do newTuple (← evalAll code n scope parts)
    | .list, parts | .set, parts => do newList (← evalAll code n scope parts)
    | .mapping, parts => do newMapping (← evalEntries code n scope parts)
    | .unary, [operand] => do
      let t ← eval code n scope operand
      if word = "not".toList then return .truth (!(← get).isTrue t)
      else match word, t with
        | ['-'], .number i => return .number (-i)
        | _, _ => return .unknown
    | .binary, [left, right] => do
      operate word (← eval code n scope left) (← eval code n scope right)
    | .boolean, first :: rest => do
      evalChoice code n scope (word = "or".toList) (← eval code n scope first) rest
    | .comparison, first :: rest => do
      return .truth (← evalComparison code n scope (← eval code n scope first) rest)
    | .conditional, [yes, test, no] => do
      if (← get).isTrue (← eval code n scope test) then eval code n scope yes
      else eval code n scope no
    | .call, callee :: arguments => do
      let f ← eval code n scope callee
      let (args, named) ← evalArguments code n scope arguments
      call code n f args named
    | .attribute, [left] => do
      attributeOf code n (← eval code n scope left) (String.ofList word)
    | .subscript, [left, index] => do
      itemUnder (← eval code n scope left) (← eval code n scope index)
    | .lambda, parameters :: _ =>
      makeFunction code n scope (.node form word start stop parts) (lineOf code start) parameters
    | .listOf, element :: clauses | .setOf, element :: clauses
    | .generator, element :: clauses => do
      let inner ← openScope { kind := .call, outer := some scope }
      newList (← gather code n inner element clauses)
    | .mappingOf, element :: clauses => do
      let inner ← openScope { kind := .call, outer := some scope }
      let pairs ← newList (← gather code n inner element clauses)
      newMapping (← entriesIn pairs)
    | .pair, [key, value] => do newTuple [← eval code n scope key, ← eval code n scope value]
    | .assigned, [value] => do
      let t ← eval code n scope value
      assignName scope (String.ofList word) t
      return t
    | _, _ => return .unknown
termination_by structural n => n

/-- The things that expressions stand for, spreads among them opened. -/
def evalAll (code : List Char) : Nat → (scope : Nat) → List Node → Step (List Thing)
  | 0, _, _ => failure
  | _, _, [] => return []
  | n + 1, scope, e :: rest => do
    let here ← match e.form, e.parts with
      | .spread, [inner] => do itemsIn (← eval code n scope inner)
      | _, _ => do pure [← eval code n scope e]
    return here ++ (← evalAll code n scope rest)
termination_by structural n => n

def evalEntries (code : List Char) : Nat → (scope : Nat) → List Node → Step (List (Thing × Thing))
  | 0, _, _ => failure
  | _, _, [] => return []
  | n + 1, scope, e :: rest => do
    let here ← match e.form, e.parts with
      | .pair, [key, value] => do pure [(← eval code n scope key, ← eval code n scope value)]
      | _, [inner] => do entriesIn (← eval code n scope inner)
      | _, _ => pure []
    return here ++ (← evalEntries code n scope rest)
termination_by structural n => n

/-- The arguments of a call, by position and by name. -/
def evalArguments (code : List Char) : Nat → (scope : Nat) → List Node → Step (List Thing × Names)
  | 0, _, _ => failure
  | _, _, [] => return ([], [])
  | n + 1, scope, e :: rest => do
    let (args, named) ← match e.form, e.parts with
      | .spread, [inner] => do pure (← itemsIn (← eval code n scope inner), [])
      | .named, [inner] => do pure ([], [(String.ofList e.word, ← eval code n scope inner)])
      | .doubleSpread, [inner] => do
        let entries ← entriesIn (← eval code n scope inner)
        pure ([], entries.filterMap fun (k, v) => match k with
          | .text s => some (s, v)
          | _ => none)
      | _, _ => do pure ([← eval code n scope e], [])
    let (moreArgs, moreNamed) ← evalArguments code n scope rest
    return (args ++ moreArgs, named ++ moreNamed)
termination_by structural n => n

/-- The first alternative that counts as true, or as false, or the last one. -/
def evalChoice (code : List Char) : Nat → (scope : Nat) → (wanted : Bool) → Thing → List Node →
    Step Thing
  | 0, _, _, _, _ => failure
  | _, _, _, t, [] => return t
  | n + 1, scope, wanted, t, e :: rest => do
    if (← get).isTrue t = wanted then return t
    else evalChoice code n scope wanted (← eval code n scope e) rest
termination_by structural n => n

/-- Whether comparisons hold one after the other. -/
def evalComparison (code : List Char) : Nat → (scope : Nat) → Thing → List Node → Step Bool
  | 0, _, _, _ => failure
  | n + 1, scope, left, op :: right :: rest => do
    let right ← eval code n scope right
    if ← compareThings op.word left right then evalComparison code n scope right rest
    else return false
  | _, _, _, _ => return true
termination_by structural n => n

/-- What clauses gather: the things that an element stands for, each time that it is reached. -/
def gather (code : List Char) : Nat → (scope : Nat) → Node → List Node → Step (List Thing)
  | 0, _, _, _ => failure
  | n + 1, scope, element, [] => do return [← eval code n scope element]
  | n + 1, scope, element, clause :: clauses => match clause.parts with
    | target :: source :: conditions => do
      gatherItems code n scope element target conditions clauses
        (← itemsIn (← eval code n scope source))
    | _ => return []
termination_by structural n => n

/-- What is gathered while a clause runs through items. -/
def gatherItems (code : List Char) : Nat → (scope : Nat) → (element target : Node) →
    (conditions clauses : List Node) → List Thing → Step (List Thing)
  | 0, _, _, _, _, _, _ => failure
  | _, _, _, _, _, _, [] => return []
  | n + 1, scope, element, target, conditions, clauses, t :: rest => do
    assign code n scope target t
    let tests ← evalAll code n scope conditions
    let s ← get
    let here ← if tests.all s.isTrue then gather code n scope element clauses else pure []
    return here ++ (← gatherItems code n scope element target conditions clauses rest)
termination_by structural n => n

def assign (code : List Char) : Nat → (scope : Nat) → Node → Thing → Step Unit
  | 0, _, _, _ => failure
  | n + 1, scope, target, t => match target.form, target.parts with
    | .name, _ => assignName scope (String.ofList target.word) t
    | .attribute, [left] => do
      putMember (← eval code n scope left) (String.ofList target.word) t
    | .subscript, [left, index] => do
      putUnder (← eval code n scope left) (← eval code n scope index) t
    | .tuple, targets | .list, targets => do assignAll code n scope targets (← itemsIn t)
    | .spread, [inner] => assign code n scope inner t
    | _, _ => pure ()
termination_by structural n => n

/-- Things assigned to targets one by one; a spread takes what the targets after it leave. -/
def assignAll (code : List Char) : Nat → (scope : Nat) → List Node → List Thing → Step Unit
  | 0, _, _, _ => failure
  | _, _, [], _ => pure ()
  | n + 1, scope, target :: targets, items => do
    if target.form = .spread then
      let count := items.length - targets.length
      assign code n scope target (← newList (items.take count))
      assignAll code n scope targets (items.drop count)
    else
      assign code n scope target (items.headD .unknown)
      assignAll code n scope targets items.tail
termination_by structural n => n

/-- A new function of a definition that starts on a line. -/
def makeFunction (code : List Char) : Nat → (scope : Nat) → Node → (line : Nat) → Node → Step Thing
  | 0, _, _, _, _ => failure
  | n + 1, scope, node, line, parameters => do
    let withDefault := parameters.parts.filter (!·.parts.isEmpty)
    let things ← evalAll code n scope (withDefault.flatMap (·.parts))
    let defaults := (withDefault.map fun p => String.ofList p.word).zip things
    allocate (.function { node, line, scope, defaults })
termination_by structural n => n

def attributeOf (code : List Char) : Nat → Thing → String → Step Thing
  | 0, _, _ => failure
  | n + 1, t, name => do
    let s ← get
    match t with
    | .builtin path => return .builtin (path ++ "." ++ name)
    | .unknown => return .unknown
    | t => match s.object? t with
      | none => return .method t name
      | some o => match o with
        | .function c =>
          if name = "__name__" then return .text c.name
          else return (c.attributes.lookup name).getD .unknown
        | .bound receiver function =>
          if name = "__func__" then return function
          else if name = "__self__" then return receiver
          else attributeOf code n function name
        | .classObject _ members =>
          if name = "__dict__" then newMapping (namedEntries members)
          else match s.member? name (s.size + 1) t with
            | some m => match s.object? m with
              | some (.wrapped .static inner) => return inner
              | some (.wrapped .ofClass inner) => allocate (.bound t inner)
              | _ => return m
            | none => return .unknown
        | .instanceOf type fields =>
          if name = "__dict__" then newMapping (namedEntries fields)
          else match fields.lookup name, s.member? name (s.size + 1) type with
            | some m, _ => return m
            | none, some m => match s.object? m with
              | some (.function _) => allocate (.bound t m)
              | some (.wrapped .static inner) => return inner
              | some (.wrapped .ofClass inner) => allocate (.bound type inner)
              | some (.wrapped .property inner) => call code n inner [t] []
              | _ => return m
            | none, none => return if type = .builtin "rls" then .none else .unknown
        | .wrapped .cached inner => return if name = "__wrapped__" then inner else .unknown
        | .partially function _ _ => return if name = "func" then function else .unknown
        | _ => return .method t name
termination_by structural n => n

def call (code : List Char) : Nat → Thing → List Thing → Names → Step Thing
  | 0, _, _, _ => failure
  | n + 1, f, args, named => match f with
    | .builtin path => callBuiltin code n path args named
    | .method receiver name => callContainer receiver name args named
    | f => do match ← objectOf f with
      | some (.function c) => callFunction code n c args named
      | some (.bound receiver function) => call code n function (receiver :: args) named
      | some (.classObject _ _) => do
        let s ← get
        match s.member? "__init__" (s.size + 1) f with
        | some start => do
          let t ← allocate (.instanceOf f [])
          let _ ← call code n start (t :: args) named
          return t
        | none => allocate (.instanceOf f named)
      | some (.instanceOf type _) => do
        let s ← get
        match s.member? "__call__" (s.size + 1) type with
        | some function => call code n function (f :: args) named
        | none => return .unknown
      | some (.wrapped .likeness other) => match args with
        | [function] => liken function other
        | _ => return .unknown
      | some (.wrapped _ inner) => call code n inner args named
      | some (.partially function first byName) =>
        call code n function (first ++ args) (byName ++ named)
      | _ => return .unknown
termination_by structural n => n

/-- What a call of a function that the code defines yields. -/
def callFunction (code : List Char) : Nat → Closure → List Thing → Names → Step Thing
  | 0, _, _, _ => failure
  | n + 1, c, args, named => match c.node.parts with
    | [parameters, body] => do
      if body.yields then return .unknown
      else
        let names ← bindParameters c.defaults parameters.parts args named
        let scope ← openScope { kind := .call, names, outer := some c.scope }
        if c.node.form = .lambda then eval code n scope body
        else match ← exec code n scope body with
          | .returned t => return t
          | _ => return .none
    | _ => return .unknown
termination_by structural n => n

/-- What a call of something that is always there yields. -/
def callBuiltin (code : List Char) : Nat → String → List Thing → Names → Step Thing
  | 0, _, _, _ => failure
  | n + 1, path, args, named => match path, args with
    | "dict", args => do
      let first ← match args with
        | t :: _ => entriesIn t
        | [] => pure []
      newMapping (first ++ namedEntries named)
    | "list", [t] | "set", [t] | "frozenset", [t] | "sorted", [t] | "iter", [t] => do
      newList (← itemsIn t)
    | "list", [] | "set", [] | "frozenset", [] => newList []
    | "tuple", [t] => do newTuple (← itemsIn t)
    | "tuple", [] => newTuple []
    | "reversed", [t] => do newList (← itemsIn t).reverse
    | "len", [t] => do
      match t, ← objectOf t with
      | .text s, _ => return .number s.length
      | _, some (.list items) | _, some (.tuple items) => return .number items.length
      | _, some (.mapping entries) => return .number entries.length
      | _, _ => return .unknown
    | "range", args => newList (rangeOf args)
    | "enumerate", t :: rest => do
      let items ← itemsIn t
      let start := match rest, named.lookup "start" with
        | .number i :: _, _ | _, some (.number i) => i
        | _, _ => 0
      newList (← ((numbersFrom start 1 items.length).zip items).mapM fun (i, item) =>
        newTuple [i, item])
    | "zip", args => do
      let lists ← args.mapM itemsIn
      newList (← (rows lists ((lists.map List.length).headD 0)).mapM newTuple)
    | "map", [f, t] => do newList (← callEach code n f (← itemsIn t))
    | "filter", [f, t] => do
      let items ← itemsIn t
      let tests ← if f = .none then pure items else callEach code n f items
      let s ← get
      newList (((items.zip tests).filter fun (_, test) => s.isTrue test).map (·.1))
    | "next", t :: _ => do return (← itemsIn t).headD .unknown
    | "getattr", t :: .text name :: rest => do
      match ← attributeOf code n t name with
      | .unknown => return rest.headD .unknown
      | m => return m
    | "setattr", [t, .text name, value] => do
      putMember t name value
      return .none
    | "bool", [t] => do return .truth ((← get).isTrue t)
    | "type", [t] => do match ← objectOf t with
      | some (.instanceOf type _) => return type
      | _ => return .unknown
    | "staticmethod", [t] => allocate (.wrapped .static t)
    | "classmethod", [t] => allocate (.wrapped .ofClass t)
    | "property", t :: _ => allocate (.wrapped .property t)
    | "functools.partial", f :: first => allocate (.partially f first named)
    | "functools.wraps", other :: _ => allocate (.wrapped .likeness other)
    | "functools.update_wrapper", function :: other :: _ => liken function other
    | "functools.lru_cache", [t] | "functools.cache", [t] => do match (← get).closure? t with
      | some _ => allocate (.wrapped .cached t)
      | none => return .builtin path
    | "functools.lru_cache", _ => return .builtin path
    | "functools.reduce", f :: t :: rest => do
      match rest ++ (← itemsIn t) with
      | first :: items => callOver code n f first items
      | [] => failure
    | "rls", _ => allocate (.instanceOf (.builtin "rls") named)
    | "types.SimpleNamespace", _ => allocate (.instanceOf (.builtin path) named)
    | "print", _ => return .none
    | path, [t] => do
      if isDecorating path && ((← get).closure? t).isSome then return t else return .unknown
    | _, _ => return .unknown
termination_by structural n => n

def callEach (code : List Char) : Nat → Thing → List Thing → Step (List Thing)
  | 0, _, _ => failure
  | _, _, [] => return []
  | n + 1, f, t :: rest => do return (← call code n f [t] []) :: (← callEach code n f rest)
termination_by structural n => n

/-- What calls yield that combine what was yielded before with the next thing. -/
def callOver (code : List Char) : Nat → Thing → Thing → List Thing → Step Thing
  | 0, _, _, _ => failure
  | _, _, t, [] => return t
  | n + 1, f, t, next :: rest => do callOver code n f (← call code n f [t, next] []) rest
termination_by structural n => n

def define (code : List Char) : Nat → (scope : Nat) → Node → (line : Nat) → Step Thing
  | 0, _, _, _ => failure
  | n + 1, scope, definition, line => match definition.form, definition.parts with
    | .function, parameters :: _ => makeFunction code n scope definition line parameters
    | .classDefinition, parts => do
      let (bases, _) ← evalArguments code n scope parts.dropLast
      let inner ← openScope { kind := .classBody, outer := some scope }
      match parts.getLast? with
      | some body => do let _ ← exec code n inner body
      | none => pure ()
      allocate (.classObject bases (((← get).frame? inner).map Frame.names |>.getD []))
    | _, _ => return .unknown
termination_by structural n => n

/-- A thing with decorators applied, the last one first. -/
def decorate (code : List Char) : Nat → Thing → List Thing → Step Thing
  | 0, _, _ => failure
  | _, t, [] => return t
  | n + 1, t, decorator :: before => do decorate code n (← call code n decorator [t] []) before
termination_by structural n => n

def exec (code : List Char) : Nat → (scope : Nat) → Node → Step Flow
  | 0, _, _ => failure
  | n + 1, scope, .node form word start stop parts => match form, parts with
    | .block, statements => execAll code n scope statements
    | .expression, [e] => do
      let _ ← eval code n scope e
      return .next
    | .assignment, parts => match parts.reverse with
      | value :: targets => do
        let t ← eval code n scope value
        assignSame code n scope t targets.reverse
        return .next
      | [] => return .next
    | .annotated, [target, _, value] => do
      assign code n scope target (← eval code n scope value)
      return .next
    | .augmented, [target, value] => do
      let old ← eval code n scope target
      let more ← eval code n scope value
      match word, ← objectOf old with
      | ['+', '='], some (.list items) => do
        replaceObject old (.list (items ++ (← itemsIn more)))
        return .next
      | op, _ => do
        assign code n scope target (← operate op.dropLast old more)
        return .next
    | .returned, [] => return .returned .none
    | .returned, [e] => do return .returned (← eval code n scope e)
    | .function, _ | .classDefinition, _ => do
      let t ← define code n scope (.node form word start stop parts) (lineOf code start)
      assignName scope (String.ofList word) t
      return .next
    | .decorated, parts => match parts.reverse with
      | definition :: last :: before => do
        let first := (last :: before).getLast?.getD last
        let decorators ← evalAll code n scope (last :: before).reverse
        let t ← define code n scope definition (lineOf code first.start)
        let t ← decorate code n t decorators.reverse
        assignName scope (String.ofList definition.word) t
        return .next
      | _ => return .next
    | .branch, [test, yes, no] => do
      if (← get).isTrue (← eval code n scope test) then exec code n scope yes
      else exec code n scope no
    | .loop, [target, source, body, otherwise] => do
      let items ← itemsIn (← eval code n scope source)
      execLoop code n scope target body otherwise items
    | .whileLoop, [test, body, otherwise] => execWhile code n scope test body otherwise
    | .attempt, body :: rest => do
      let handlers := rest.filter (·.form = .handler)
      let others := rest.filter (·.form ≠ .handler)
      let flow ← execAttempt code n scope body handlers (others.headD .absent)
      match others.drop 1 with
      | [last] => match ← exec code n scope last with
        | .next => return flow
        | other => return other
      | _ => return flow
    | .scoped, parts => match parts.reverse with
      | body :: names => do
        assignUnknown code n scope names
        exec code n scope body
      | [] => return .next
    | .imported, names => do
      importAll scope none names
      return .next
    | .importedFrom, names => do
      importAll scope (some word) names
      return .next
    | .simple, parts =>
      if word = "break".toList then return .broken
      else if word = "continue".toList then return .continued
      else if word = "raise".toList then failure
      else if word = "global".toList || word = "nonlocal".toList then do
        let names := match parts with
          | [.node .tuple _ _ _ names] => names
          | names => names
        match (← get).frame? scope with
        | some f =>
          let foreign := names.map (fun name => String.ofList name.word) ++ f.foreign
          replaceObject (.object scope) (.frame { f with foreign })
        | none => pure ()
        return .next
      else return .next
    | _, _ => return .next
termination_by structural n => n

/-- Statements in order, up to one that does not let the next one follow. -/
def execAll (code : List Char) : Nat → (scope : Nat) → List Node → Step Flow
  | 0, _, _ => failure
  | _, _, [] => return .next
  | n + 1, scope, statement :: rest => do
    match ← exec code n scope statement with
    | .next => execAll code n scope rest
    | flow => return flow
termination_by structural n => n

def assignSame (code : List Char) : Nat → (scope : Nat) → Thing → List Node → Step Unit
  | 0, _, _, _ => failure
  | _, _, _, [] => pure ()
  | n + 1, scope, t, target :: rest => do
    assign code n scope target t
    assignSame code n scope t rest
termination_by structural n => n

/-- Names that stand for something unknown. -/
def assignUnknown (code : List Char) : Nat → (scope : Nat) → List Node → Step Unit
  | 0, _, _ => failure
  | _, _, [] => pure ()
  | n + 1, scope, target :: rest => do
    assign code n scope target .unknown
    assignUnknown code n scope rest
termination_by structural n => n

/-- A statement that may fail, the handler that takes over where it does, and what follows where it
does not. -/
def execAttempt (code : List Char) : Nat → (scope : Nat) → Node → List Node → Node → Step Flow
  | 0, _, _, _, _ => failure
  | n + 1, scope, body, handlers, otherwise =>
    (do match ← exec code n scope body with
        | .next => exec code n scope otherwise
        | flow => return flow) <|>
      (match handlers with
        | handler :: _ => match handler.parts.reverse with
          | block :: names => do
            assignUnknown code n scope names
            exec code n scope block
          | [] => return .next
        | [] => failure)
termination_by structural n => n

def execLoop (code : List Char) : Nat → (scope : Nat) → (target body otherwise : Node) →
    List Thing → Step Flow
  | 0, _, _, _, _, _ => failure
  | n + 1, scope, _, _, otherwise, [] => exec code n scope otherwise
  | n + 1, scope, target, body, otherwise, t :: rest => do
    assign code n scope target t
    match ← exec code n scope body with
    | .broken => return .next
    | .returned result => return .returned result
    | _ => execLoop code n scope target body otherwise rest
termination_by structural n => n

/-- A loop as long as a test holds. -/
def execWhile (code : List Char) : Nat → (scope : Nat) → (test body otherwise : Node) → Step Flow
  | 0, _, _, _, _ => failure
  | n + 1, scope, test, body, otherwise => do
    if (← get).isTrue (← eval code n scope test) then
      match ← exec code n scope body with
      | .broken => return .next
      | .returned result => return .returned result
      | _ => execWhile code n scope test body otherwise
    else exec code n scope otherwise
termination_by structural n => n

end

/-! ### Results -/

/-- How deep a run may go. -/
def runFuel : Nat := 4000

/-- What a name stands for after code has run, and the store in which it is. -/
def resultOf? (name : String) (code : List Char) : Option (Thing × Store) := do
  let module ← Node.ofCode? code
  let run : Step Thing := do
    let scope ← openScope { kind := .module }
    let _ ← exec code runFuel scope module
    match (← get).lookup? name 1 true scope with
    | some t => return t
    | none => failure
  run.run #[]

end EntityModel.Predicate
