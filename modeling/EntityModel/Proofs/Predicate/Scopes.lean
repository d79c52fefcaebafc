import EntityModel.Predicate.Run
import Mathlib

/-!
# Scopes in a run

However long code runs, scopes stay nested: a scope lies inside of one that is older, and a function
was made in a scope that is older than the function. So the search for a name goes outwards through
ever older scopes, and it cannot run out of fuel before it is through
(`Predicate.Store.lookup?_eq`).
-/

namespace EntityModel.Predicate

open Std.Do

set_option mvcgen.warning false
set_option linter.unusedSectionVars false

/-! ### Nested scopes -/

/-- The scope to which an object is tied, if there is one, stands before an address. -/
def Object.IsTiedBelow (address : Nat) : Object → Prop
  | .frame f => ∀ outer ∈ f.outer, outer < address
  | .function c => c.scope < address
  | _ => True

/-- Every object is tied to an older scope. -/
def Store.IsNested (s : Store) : Prop :=
  ∀ (address : Nat) (o : Object), s[address]? = some o → o.IsTiedBelow address

namespace Store.IsNested

variable {s : Store} {address : Nat}

lemma empty : Store.IsNested #[] := nofun

/-- A new object that is tied below keeps scopes nested. -/
lemma push (nested : s.IsNested) {o : Object} (tied : o.IsTiedBelow s.size) :
    Store.IsNested (s.push o) := by
  intro address o' found
  rw [Array.getElem?_push] at found
  split at found
  · next last =>
    cases found
    rwa [last]
  · exact nested address o' found

/-- Another object in place of one keeps scopes nested, if it is tied as low. -/
lemma replace (nested : s.IsNested) {o : Object} (tied : o.IsTiedBelow address) :
    (s.replace address o).IsNested := by
  unfold Store.replace
  split
  · intro place o' found
    rw [Array.getElem?_set] at found
    split at found
    · next same =>
      cases found
      rwa [← same]
    · exact nested place o' found
  · exact nested

/-- The scope around a scope has a smaller address. -/
lemma frame (nested : s.IsNested) {f : Frame} (found : s.frame? address = some f) :
    ∀ outer ∈ f.outer, outer < address := by
  unfold Store.frame? at found
  split at found
  · next g isFrame =>
    cases found
    exact nested address (.frame f) isFrame
  · cases found

lemma function (nested : s.IsNested) {c : Closure} (found : s[address]? = some (.function c)) :
    c.scope < address :=
  nested address _ found

end Store.IsNested

lemma Store.size_replace (s : Store) (address : Nat) (o : Object) :
    (s.replace address o).size = s.size := by
  unfold Store.replace
  split
  · exact Array.size_set _
  · rfl

/-- A thing that is a function in nested scopes was made in an older scope than its own place. -/
lemma Store.IsNested.closure {s : Store} (nested : s.IsNested) {t : Thing} {c : Closure}
    (found : s.object? t = some (.function c)) :
    c.scope < s.size ∧ ∀ address, t = .object address → c.scope < address := by
  cases t with
  | object address =>
    have older := nested.function found
    have there : address < s.size := (Array.getElem?_eq_some_iff.1 found).1
    refine ⟨older.trans there, ?_⟩
    rintro _ ⟨⟩
    exact older
  | _ => cases found

/-! ### Steps that keep scopes nested -/

/-- A number of objects that there are at least. It is fixed while a step is looked at, and as an
instance it is known to the specifications of all smaller steps. -/
class Floor (k : outParam Nat) : Prop where

/-- A step leaves scopes nested, and no fewer objects than there were. -/
abbrev Keeps {α : Type} (k : Nat) (x : Step α) : Prop :=
  ⦃fun s => ⌜s.IsNested ∧ k ≤ s.size⌝⦄ x
  ⦃post⟨fun _ s => ⌜s.IsNested ∧ k ≤ s.size⌝, fun _ => ⌜True⌝⟩⦄

/-- The same of a step in a scope that has to be there. -/
abbrev KeepsIn {α : Type} (scope k : Nat) (x : Step α) : Prop :=
  ⦃fun s => ⌜s.IsNested ∧ k ≤ s.size ∧ scope < s.size⌝⦄ x
  ⦃post⟨fun _ s => ⌜s.IsNested ∧ k ≤ s.size⌝, fun _ => ⌜True⌝⟩⦄

/-- What a step ensures is what holds of its result, if it has one. -/
lemma wp_iff {α : Type} {x : Step α} {P : α → Store → Prop} {s : Store} :
    (wp⟦x⟧ (post⟨fun a s => ⌜P a s⌝, fun _ => ⌜True⌝⟩) s).down ↔
      ∀ a s', x s = some (a, s') → P a s' := by
  change (wp⟦x s⟧ (fun r => ⌜P r.1 r.2⌝, fun _ => ⌜True⌝, PUnit.unit)).down ↔ _
  cases x s with
  | none => exact ⟨fun _ => nofun, fun _ => trivial⟩
  | some r =>
    constructor
    · rintro holds _ _ ⟨⟩
      exact holds
    · exact fun holds => holds _ _ rfl

section

variable {k : Nat} [Floor k]

@[spec]
lemma allocate_keeps (o : Object) :
    ⦃fun s => ⌜s.IsNested ∧ k ≤ s.size ∧ o.IsTiedBelow s.size⌝⦄ allocate o
    ⦃post⟨fun _ s => ⌜s.IsNested ∧ k ≤ s.size⌝, fun _ => ⌜True⌝⟩⦄ := by
  mvcgen [allocate]
  next s h =>
    obtain ⟨nested, le, tied⟩ := h
    exact ⟨nested.push tied, by rw [Array.size_push]; omega⟩

@[spec]
lemma openScope_keeps (f : Frame) :
    ⦃fun s => ⌜s.IsNested ∧ k ≤ s.size ∧ ∀ outer ∈ f.outer, outer < s.size⌝⦄ openScope f
    ⦃post⟨fun scope s => ⌜s.IsNested ∧ k ≤ s.size ∧ scope < s.size⌝, fun _ => ⌜True⌝⟩⦄ := by
  mvcgen [openScope]
  next s h =>
    obtain ⟨nested, le, tied⟩ := h
    exact ⟨nested.push tied, by rw [Array.size_push]; omega, by rw [Array.size_push]; omega⟩

/-- A replacement keeps scopes nested where the object is tied below its address. -/
@[spec]
lemma replaceObject_keeps (t : Thing) (o : Object) :
    ⦃fun s => ⌜s.IsNested ∧ k ≤ s.size ∧ ∀ address, t = .object address → o.IsTiedBelow address⌝⦄
      replaceObject t o
    ⦃post⟨fun _ s => ⌜s.IsNested ∧ k ≤ s.size⌝, fun _ => ⌜True⌝⟩⦄ := by
  mvcgen [replaceObject]
  next address _ s h _ =>
    obtain ⟨nested, le, tied⟩ := h
    exact ⟨nested.replace (tied address rfl), by rwa [Store.size_replace]⟩
  next h => exact ⟨h.1, h.2.1⟩

@[spec]
lemma objectOf_keeps (t : Thing) :
    ⦃fun s => ⌜s.IsNested ∧ k ≤ s.size⌝⦄ objectOf t
    ⦃post⟨fun o s => ⌜s.IsNested ∧ k ≤ s.size ∧ s.object? t = o⌝, fun _ => ⌜True⌝⟩⦄ := by
  mvcgen [objectOf]
  simp_all

@[spec]
lemma assignName_keeps (scope : Nat) (name : String) (t : Thing) :
    Keeps k (assignName scope name t) := by
  mvcgen [assignName]
  next s h _ f found =>
    have tied := h.1.frame found
    exact ⟨h.1.replace tied, by rw [Store.size_replace]; exact h.2⟩

@[spec]
lemma itemsIn_keeps (t : Thing) : Keeps k (itemsIn t) := by
  mvcgen [itemsIn]

@[spec]
lemma newList_keeps (items : List Thing) : Keeps k (newList items) := by
  mvcgen [newList]
  simp_all [Object.IsTiedBelow]

@[spec]
lemma newTuple_keeps (items : List Thing) : Keeps k (newTuple items) := by
  mvcgen [newTuple]
  simp_all [Object.IsTiedBelow]

@[spec]
lemma operate_keeps (op : List Char) (a b : Thing) : Keeps k (operate op a b) := by
  mvcgen [operate]
  simp_all [Object.IsTiedBelow]

@[spec]
lemma compareThings_keeps (op : List Char) (a b : Thing) : Keeps k (compareThings op a b) := by
  mvcgen [compareThings]

@[spec]
lemma itemUnder_keeps (t index : Thing) : Keeps k (itemUnder t index) := by
  mvcgen [itemUnder]

@[spec]
lemma putUnder_keeps (t index value : Thing) : Keeps k (putUnder t index value) := by
  mvcgen [putUnder] <;> simp_all [Object.IsTiedBelow]

@[spec]
lemma putMember_keeps (t : Thing) (name : String) (value : Thing) :
    Keeps k (putMember t name value) := by
  mvcgen [putMember]
  all_goals simp_all [Object.IsTiedBelow]
  next h => exact (h.1.closure h.2.2).2

@[spec]
lemma liken_keeps (function other : Thing) : Keeps k (liken function other) := by
  mvcgen [liken]

@[spec]
lemma entriesIn_keeps (t : Thing) : Keeps k (entriesIn t) := by
  mvcgen [entriesIn]

@[spec]
lemma newMapping_keeps (entries : List (Thing × Thing)) : Keeps k (newMapping entries) := by
  mvcgen [newMapping]
  simp_all [Object.IsTiedBelow]

@[spec]
lemma failure_keeps {α : Type} : Keeps k (failure : Step α) := fun _ _ => trivial

/-- Where a step fails another one starts from where it started. -/
lemma orElse_keeps {α : Type} {x y : Step α} (hx : Keeps k x) (hy : Keeps k y) :
    Keeps k (x <|> y) := by
  refine fun s h => wp_iff.2 fun a s' run => ?_
  change (x s <|> y s) = some (a, s') at run
  cases first : x s with
  | none =>
    rw [first] at run
    exact wp_iff.1 (hy s h) a s' run
  | some r =>
    rw [first] at run
    cases run
    exact wp_iff.1 (hx s h) a s' first

lemma mapM_keeps {α β : Type} {f : α → Step β} (items : List α) (h : ∀ a, Keeps k (f a)) :
    Keeps k (items.mapM f) := by
  induction items with
  | nil => mvcgen
  | cons a rest ih =>
    rw [List.mapM_cons]
    mvcgen [h, ih]

@[spec]
lemma callContainer_keeps (receiver : Thing) (name : String) (args : List Thing) (named : Names) :
    Keeps k (callContainer receiver name args named) := by
  mvcgen [callContainer, mapM_keeps] <;> simp_all [Object.IsTiedBelow]

@[spec]
lemma bindParameters_keeps (defaults : Names) (parameters : List Node) (args : List Thing)
    (named : Names) : Keeps k (bindParameters defaults parameters args named) := by
  induction parameters generalizing args named with
  | nil => mvcgen [bindParameters]
  | cons p ps ih => mvcgen [bindParameters, ih]

@[spec]
lemma importAll_keeps (scope : Nat) (module : Option (List Char)) (names : List Node) :
    Keeps k (importAll scope module names) := by
  induction names with
  | nil => mvcgen [importAll]
  | cons name rest ih => mvcgen [importAll, ih]

end

/-! ### Steps of a run -/

/-- Every step of a run with an amount of fuel leaves scopes nested. -/
structure RunKeeps (code : List Char) (n : Nat) : Prop where
  eval : ∀ k [Floor k] scope e, KeepsIn scope k (eval code n scope e)
  evalAll : ∀ k [Floor k] scope es, KeepsIn scope k (evalAll code n scope es)
  evalEntries : ∀ k [Floor k] scope es, KeepsIn scope k (evalEntries code n scope es)
  evalArguments : ∀ k [Floor k] scope es, KeepsIn scope k (evalArguments code n scope es)
  evalChoice : ∀ k [Floor k] scope wanted t es,
    KeepsIn scope k (evalChoice code n scope wanted t es)
  evalComparison : ∀ k [Floor k] scope left es,
    KeepsIn scope k (evalComparison code n scope left es)
  gather : ∀ k [Floor k] scope element clauses,
    KeepsIn scope k (gather code n scope element clauses)
  gatherItems : ∀ k [Floor k] scope element target conditions clauses items,
    KeepsIn scope k (gatherItems code n scope element target conditions clauses items)
  assign : ∀ k [Floor k] scope target t, KeepsIn scope k (assign code n scope target t)
  assignAll : ∀ k [Floor k] scope targets items,
    KeepsIn scope k (assignAll code n scope targets items)
  makeFunction : ∀ k [Floor k] scope node line parameters,
    KeepsIn scope k (makeFunction code n scope node line parameters)
  attributeOf : ∀ k [Floor k] t name, Keeps k (attributeOf code n t name)
  call : ∀ k [Floor k] f args named, Keeps k (call code n f args named)
  callFunction : ∀ k [Floor k] (c : Closure) args named,
    KeepsIn c.scope k (callFunction code n c args named)
  callBuiltin : ∀ k [Floor k] path args named, Keeps k (callBuiltin code n path args named)
  callEach : ∀ k [Floor k] f items, Keeps k (callEach code n f items)
  callOver : ∀ k [Floor k] f t items, Keeps k (callOver code n f t items)
  define : ∀ k [Floor k] scope definition line,
    KeepsIn scope k (define code n scope definition line)
  decorate : ∀ k [Floor k] t decorators, Keeps k (decorate code n t decorators)
  exec : ∀ k [Floor k] scope statement, KeepsIn scope k (exec code n scope statement)
  execAll : ∀ k [Floor k] scope statements, KeepsIn scope k (execAll code n scope statements)
  assignSame : ∀ k [Floor k] scope t targets, KeepsIn scope k (assignSame code n scope t targets)
  assignUnknown : ∀ k [Floor k] scope targets, KeepsIn scope k (assignUnknown code n scope targets)
  execAttempt : ∀ k [Floor k] scope body handlers otherwise,
    KeepsIn scope k (execAttempt code n scope body handlers otherwise)
  execLoop : ∀ k [Floor k] scope target body otherwise items,
    KeepsIn scope k (execLoop code n scope target body otherwise items)
  execWhile : ∀ k [Floor k] scope test body otherwise,
    KeepsIn scope k (execWhile code n scope test body otherwise)

/-- A step in a scope may be looked at with a floor above the scope. -/
lemma KeepsIn.of_lt {α : Type} {scope : Nat} {x : Step α}
    (h : ∀ k, Floor k → scope < k → Keeps k x) (k : Nat) : KeepsIn scope k x := by
  have there := h (max k (scope + 1)) ⟨⟩ (by omega)
  mvcgen [there]
  next h => exact ⟨h.1, by omega⟩
  next => exact fun nested le => ⟨nested, by omega⟩

attribute [spec] RunKeeps.eval RunKeeps.evalAll RunKeeps.evalEntries RunKeeps.evalArguments
  RunKeeps.evalChoice RunKeeps.evalComparison RunKeeps.gather RunKeeps.gatherItems RunKeeps.assign
  RunKeeps.assignAll RunKeeps.makeFunction RunKeeps.attributeOf RunKeeps.call RunKeeps.callFunction
  RunKeeps.callBuiltin RunKeeps.callEach RunKeeps.callOver RunKeeps.define RunKeeps.decorate
  RunKeeps.exec RunKeeps.execAll RunKeeps.assignSame RunKeeps.assignUnknown RunKeeps.execAttempt
  RunKeeps.execLoop RunKeeps.execWhile

section

variable {code : List Char} {n k scope : Nat} [Floor k]

lemma eval_keeps (run : RunKeeps code n) (e : Node) :
    KeepsIn scope k (eval code (n + 1) scope e) := by
  refine KeepsIn.of_lt (fun k _ lt => ?_) k
  unfold eval
  mvcgen <;> grind [Object.IsTiedBelow]

lemma evalAll_keeps (run : RunKeeps code n) (es : List Node) :
    KeepsIn scope k (evalAll code (n + 1) scope es) := by
  refine KeepsIn.of_lt (fun k _ lt => ?_) k
  unfold evalAll
  mvcgen <;> grind [Object.IsTiedBelow]

lemma evalEntries_keeps (run : RunKeeps code n) (es : List Node) :
    KeepsIn scope k (evalEntries code (n + 1) scope es) := by
  refine KeepsIn.of_lt (fun k _ lt => ?_) k
  unfold evalEntries
  mvcgen <;> grind [Object.IsTiedBelow]

lemma evalArguments_keeps (run : RunKeeps code n) (es : List Node) :
    KeepsIn scope k (evalArguments code (n + 1) scope es) := by
  refine KeepsIn.of_lt (fun k _ lt => ?_) k
  unfold evalArguments
  mvcgen <;> grind [Object.IsTiedBelow]

lemma evalChoice_keeps (run : RunKeeps code n) (wanted : Bool) (t : Thing) (es : List Node) :
    KeepsIn scope k (evalChoice code (n + 1) scope wanted t es) := by
  refine KeepsIn.of_lt (fun k _ lt => ?_) k
  unfold evalChoice
  mvcgen <;> grind [Object.IsTiedBelow]

lemma evalComparison_keeps (run : RunKeeps code n) (left : Thing) (es : List Node) :
    KeepsIn scope k (evalComparison code (n + 1) scope left es) := by
  refine KeepsIn.of_lt (fun k _ lt => ?_) k
  unfold evalComparison
  mvcgen <;> grind [Object.IsTiedBelow]

lemma gather_keeps (run : RunKeeps code n) (element : Node) (clauses : List Node) :
    KeepsIn scope k (gather code (n + 1) scope element clauses) := by
  refine KeepsIn.of_lt (fun k _ lt => ?_) k
  unfold gather
  mvcgen <;> grind [Object.IsTiedBelow]

lemma gatherItems_keeps (run : RunKeeps code n) (element target : Node)
    (conditions clauses : List Node) (items : List Thing) :
    KeepsIn scope k (gatherItems code (n + 1) scope element target conditions clauses items) := by
  refine KeepsIn.of_lt (fun k _ lt => ?_) k
  unfold gatherItems
  mvcgen <;> grind [Object.IsTiedBelow]

lemma assign_keeps (run : RunKeeps code n) (target : Node) (t : Thing) :
    KeepsIn scope k (assign code (n + 1) scope target t) := by
  refine KeepsIn.of_lt (fun k _ lt => ?_) k
  unfold assign
  mvcgen <;> grind [Object.IsTiedBelow]

lemma assignAll_keeps (run : RunKeeps code n) (targets : List Node) (items : List Thing) :
    KeepsIn scope k (assignAll code (n + 1) scope targets items) := by
  refine KeepsIn.of_lt (fun k _ lt => ?_) k
  unfold assignAll
  mvcgen <;> grind [Object.IsTiedBelow]

lemma makeFunction_keeps (run : RunKeeps code n) (node : Node) (line : Nat) (parameters : Node) :
    KeepsIn scope k (makeFunction code (n + 1) scope node line parameters) := by
  refine KeepsIn.of_lt (fun k _ lt => ?_) k
  unfold makeFunction
  mvcgen <;> grind [Object.IsTiedBelow]

lemma attributeOf_keeps (run : RunKeeps code n) (t : Thing) (name : String) :
    Keeps k (attributeOf code (n + 1) t name) := by
  unfold attributeOf
  mvcgen <;> grind [Object.IsTiedBelow]

lemma call_keeps (run : RunKeeps code n) (f : Thing) (args : List Thing) (named : Names) :
    Keeps k (call code (n + 1) f args named) := by
  unfold call
  mvcgen <;> grind [Object.IsTiedBelow, → Store.IsNested.closure]

lemma callFunction_keeps (run : RunKeeps code n) (c : Closure) (args : List Thing) (named : Names) :
    KeepsIn c.scope k (callFunction code (n + 1) c args named) := by
  refine KeepsIn.of_lt (fun k _ lt => ?_) k
  unfold callFunction
  mvcgen <;> grind [Object.IsTiedBelow]

lemma callBuiltin_keeps (run : RunKeeps code n) (path : String) (args : List Thing)
    (named : Names) :
    Keeps k (callBuiltin code (n + 1) path args named) := by
  unfold callBuiltin
  mvcgen [mapM_keeps] <;> grind [Object.IsTiedBelow]

lemma callEach_keeps (run : RunKeeps code n) (f : Thing) (items : List Thing) :
    Keeps k (callEach code (n + 1) f items) := by
  unfold callEach
  mvcgen <;> grind [Object.IsTiedBelow]

lemma callOver_keeps (run : RunKeeps code n) (f t : Thing) (items : List Thing) :
    Keeps k (callOver code (n + 1) f t items) := by
  unfold callOver
  mvcgen <;> grind [Object.IsTiedBelow]

lemma define_keeps (run : RunKeeps code n) (definition : Node) (line : Nat) :
    KeepsIn scope k (define code (n + 1) scope definition line) := by
  refine KeepsIn.of_lt (fun k _ lt => ?_) k
  unfold define
  mvcgen <;> grind [Object.IsTiedBelow]

lemma decorate_keeps (run : RunKeeps code n) (t : Thing) (decorators : List Thing) :
    Keeps k (decorate code (n + 1) t decorators) := by
  unfold decorate
  mvcgen <;> grind [Object.IsTiedBelow]

/-- A simple statement only reads the scope in which it stands. -/
lemma exec_simple_keeps (word : List Char) (start stop : Nat)
    (parts : List Node) :
    KeepsIn scope k (exec code (n + 1) scope (.node .simple word start stop parts)) := by
  refine KeepsIn.of_lt (fun k _ lt => ?_) k
  unfold exec
  mvcgen
  next h _ f found =>
    have tied := h.1.frame found
    refine ⟨h.1, h.2, ?_⟩
    rintro _ ⟨⟩
    exact tied

lemma exec_attempt_keeps (run : RunKeeps code n) (word : List Char) (start stop : Nat)
    (parts : List Node) :
    KeepsIn scope k (exec code (n + 1) scope (.node .attempt word start stop parts)) := by
  refine KeepsIn.of_lt (fun k _ lt => ?_) k
  unfold exec
  mvcgen <;> grind

lemma exec_decorated_keeps (run : RunKeeps code n) (word : List Char) (start stop : Nat)
    (parts : List Node) :
    KeepsIn scope k (exec code (n + 1) scope (.node .decorated word start stop parts)) := by
  refine KeepsIn.of_lt (fun k _ lt => ?_) k
  unfold exec
  mvcgen <;> grind

/-- A statement of any form keeps scopes nested, given the run with less fuel does. -/
lemma exec_keeps (run : RunKeeps code n) (statement : Node) :
    KeepsIn scope k (exec code (n + 1) scope statement) := by
  obtain ⟨form, word, start, stop, parts⟩ := statement
  cases form with
  | simple => exact exec_simple_keeps word start stop parts
  | attempt => exact exec_attempt_keeps run word start stop parts
  | decorated => exact exec_decorated_keeps run word start stop parts
  | _ =>
    refine KeepsIn.of_lt (fun k _ lt => ?_) k
    unfold exec
    mvcgen <;> grind [Object.IsTiedBelow]

lemma execAll_keeps (run : RunKeeps code n) (statements : List Node) :
    KeepsIn scope k (execAll code (n + 1) scope statements) := by
  refine KeepsIn.of_lt (fun k _ lt => ?_) k
  unfold execAll
  mvcgen <;> grind [Object.IsTiedBelow]

lemma assignSame_keeps (run : RunKeeps code n) (t : Thing) (targets : List Node) :
    KeepsIn scope k (assignSame code (n + 1) scope t targets) := by
  refine KeepsIn.of_lt (fun k _ lt => ?_) k
  unfold assignSame
  mvcgen <;> grind [Object.IsTiedBelow]

lemma assignUnknown_keeps (run : RunKeeps code n) (targets : List Node) :
    KeepsIn scope k (assignUnknown code (n + 1) scope targets) := by
  refine KeepsIn.of_lt (fun k _ lt => ?_) k
  unfold assignUnknown
  mvcgen <;> grind [Object.IsTiedBelow]

lemma execAttempt_keeps (run : RunKeeps code n) (body : Node) (handlers : List Node)
    (otherwise : Node) :
    KeepsIn scope k (execAttempt code (n + 1) scope body handlers otherwise) := by
  refine KeepsIn.of_lt (fun k _ lt => ?_) k
  unfold execAttempt
  apply orElse_keeps
  · mvcgen <;> grind
  · mvcgen <;> grind

lemma execLoop_keeps (run : RunKeeps code n) (target body otherwise : Node) (items : List Thing) :
    KeepsIn scope k (execLoop code (n + 1) scope target body otherwise items) := by
  refine KeepsIn.of_lt (fun k _ lt => ?_) k
  unfold execLoop
  mvcgen <;> grind [Object.IsTiedBelow]

lemma execWhile_keeps (run : RunKeeps code n) (test body otherwise : Node) :
    KeepsIn scope k (execWhile code (n + 1) scope test body otherwise) := by
  refine KeepsIn.of_lt (fun k _ lt => ?_) k
  unfold execWhile
  mvcgen <;> grind [Object.IsTiedBelow]

end

/-- Every step of a run leaves scopes nested, whatever fuel the run has. -/
theorem runKeeps (code : List Char) (n : Nat) : RunKeeps code n := by
  induction n with
  | zero =>
    constructor <;> intros <;> exact fun _ _ => trivial
  | succ n ih =>
    exact {
      eval := fun _ _ _ => eval_keeps ih
      evalAll := fun _ _ _ => evalAll_keeps ih
      evalEntries := fun _ _ _ => evalEntries_keeps ih
      evalArguments := fun _ _ _ => evalArguments_keeps ih
      evalChoice := fun _ _ _ => evalChoice_keeps ih
      evalComparison := fun _ _ _ => evalComparison_keeps ih
      gather := fun _ _ _ => gather_keeps ih
      gatherItems := fun _ _ _ => gatherItems_keeps ih
      assign := fun _ _ _ => assign_keeps ih
      assignAll := fun _ _ _ => assignAll_keeps ih
      makeFunction := fun _ _ _ => makeFunction_keeps ih
      attributeOf := fun _ _ => attributeOf_keeps ih
      call := fun _ _ => call_keeps ih
      callFunction := fun _ _ => callFunction_keeps ih
      callBuiltin := fun _ _ => callBuiltin_keeps ih
      callEach := fun _ _ => callEach_keeps ih
      callOver := fun _ _ => callOver_keeps ih
      define := fun _ _ _ => define_keeps ih
      decorate := fun _ _ => decorate_keeps ih
      exec := fun _ _ _ => exec_keeps ih
      execAll := fun _ _ _ => execAll_keeps ih
      assignSame := fun _ _ _ => assignSame_keeps ih
      assignUnknown := fun _ _ _ => assignUnknown_keeps ih
      execAttempt := fun _ _ _ => execAttempt_keeps ih
      execLoop := fun _ _ _ => execLoop_keeps ih
      execWhile := fun _ _ _ => execWhile_keeps ih }

/-- Code that runs in a scope leaves scopes nested, and no object is lost. -/
theorem isNested_of_exec {code : List Char} {n scope : Nat} {statement : Node} {s s' : Store}
    {flow : Flow} (nested : s.IsNested) (there : scope < s.size)
    (run : exec code n scope statement s = some (flow, s')) :
    s'.IsNested ∧ s.size ≤ s'.size :=
  have : Floor s.size := ⟨⟩
  wp_iff.1 ((runKeeps code n).exec s.size scope statement s ⟨nested, le_rfl, there⟩) flow s' run

/-- What code leaves behind stands in nested scopes. -/
theorem isNested_of_resultOf? {name : String} {code : List Char} {t : Thing} {s : Store}
    (h : resultOf? name code = some (t, s)) : s.IsNested := by
  obtain ⟨module, -, run⟩ := Option.bind_eq_some_iff.1 h
  have all := runKeeps code runFuel
  have : Floor 0 := ⟨⟩
  dsimp only [StateT.run] at run
  refine (wp_iff.1 ((?_ : Keeps 0 _) #[] ⟨.empty, le_rfl⟩) t s run).1
  mvcgen
  all_goals grind

/-! ### Searches through scopes -/

namespace Store

variable {s : Store} {n m : Nat}

/-- A search that goes from a scope to the one around it does not depend on its fuel, as long as
that is more than there are objects. -/
lemma search_eq {α : Type} (search : Nat → Nat → α) (nested : s.IsNested)
    (next : ∀ n m address, (∀ f outer, s.frame? address = some f → f.outer = some outer →
      search n outer = search m outer) → search (n + 1) address = search (m + 1) address)
    (hn : s.size < n) (hm : s.size < m) (address : Nat) : search n address = search m address := by
  -- Scopes further out have smaller addresses, so fuel above the address is enough.
  have inside (n m address : Nat) (hn : address < n) (hm : address < m) :
      search n address = search m address := by
    induction n generalizing m address with
    | zero => omega
    | succ n ih =>
      obtain ⟨m, rfl⟩ : ∃ k, m = k + 1 := ⟨m - 1, by omega⟩
      refine next n m address fun f outer found isOuter => ?_
      have older : outer < address := nested.frame found outer isOuter
      exact ih m outer (by omega) (by omega)
  by_cases there : address < s.size
  · exact inside n m address (by omega) (by omega)
  · obtain ⟨n, rfl⟩ : ∃ k, n = k + 1 := ⟨n - 1, by omega⟩
    obtain ⟨m, rfl⟩ : ∃ k, m = k + 1 := ⟨m - 1, by omega⟩
    refine next n m address fun f outer found _ => ?_
    rw [frame?, Array.getElem?_eq_none (by omega)] at found
    cases found

/-- A name stands for the same thing whatever fuel there is to look it up. -/
theorem lookup?_eq (nested : s.IsNested) (hn : s.size < n) (hm : s.size < m) (name : String)
    (isInner : Bool) (address : Nat) :
    s.lookup? name n isInner address = s.lookup? name m isInner address := by
  refine congrFun (search_eq (fun n address isInner => s.lookup? name n isInner address) nested
    (fun n m address ih => ?_) hn hm address) isInner
  funext isInner
  simp only [lookup?]
  cases found : s.frame? address with
  | none => rfl
  | some f =>
    cases outer : f.outer with
    | none => simp [outer]
    | some place => simp [outer, congrFun (ih f place found outer) false]

/-- Whether a name is bound around a scope does not depend on the fuel of the search. -/
theorem isBoundAround_eq (nested : s.IsNested) (hn : s.size < n) (hm : s.size < m) (name : String)
    (address : Nat) : s.isBoundAround name n address = s.isBoundAround name m address := by
  refine search_eq (s.isBoundAround name) nested (fun n m address ih => ?_) hn hm address
  simp only [isBoundAround]
  cases found : s.frame? address with
  | none => rfl
  | some f =>
    cases outer : f.outer with
    | none => simp [outer]
    | some place => simp [outer, ih f place found outer]

/-- Whether a scope stands inside of a class does not depend on the fuel of the search. -/
theorem isInClass_eq (nested : s.IsNested) (hn : s.size < n) (hm : s.size < m) (address : Nat) :
    s.isInClass n address = s.isInClass m address := by
  refine search_eq s.isInClass nested (fun n m address ih => ?_) hn hm address
  simp only [isInClass]
  cases found : s.frame? address with
  | none => rfl
  | some f =>
    cases outer : f.outer with
    | none => simp [outer]
    | some place => simp [outer, ih f place found outer]

end Store

end EntityModel.Predicate
