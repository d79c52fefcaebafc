import EntityModel.Analysis.ProcedureType
import EntityModel.Proofs.Naming.Pascal
import EntityModel.Proofs.WellTyped
import Mathlib.Data.List.DropRight

/-!
# Arguments and return types

The type of an argument is read as that of what is returned, but for the names of entities: these
are known where something is returned, and are names like any others for an argument. So an argument
is typed like what is returned under the same expression just if no entity has the name in it
(`TypedProcedure.exists_typedAlike_iff`).
-/

namespace EntityModel

namespace Text

variable {cs : List Char}

/-- A trimmed text does not begin with white space. -/
lemma dropWhile_trim : (trim cs).dropWhile isBlank = trim cs := by
  have isPrefix : trim cs <+: cs.dropWhile isBlank := List.rdropWhile_prefix isBlank _
  have first := List.head?_dropWhile_not isBlank cs
  cases chars : trim cs with
  | nil => rfl
  | cons c rest =>
    obtain ⟨others, split⟩ := chars ▸ isPrefix
    rw [← split] at first
    exact List.dropWhile_cons_of_neg (Bool.eq_false_iff.1 first)

/-- A text without white space at its ends has none there to lose. -/
lemma trim_trim : trim (trim cs) = trim cs := by
  rw [trim, dropWhile_trim]
  exact List.rdropWhile_idempotent isBlank _

end Text

/-! ### Codes of scalars -/

namespace ColumnType

open Text

variable {name : String}

/-- All codes of scalars but one begin with a lowercase letter. -/
lemma scalars_code : ∀ e ∈ scalars, (e.1 = "uuid" ∧ e.2.2 = "UUID") ∨
    (e.2.2 ≠ "" ∧ ¬ StartsRaised e.2.2.toList) := by
  decide

/-- The code type of a scalar is raised for identifiers only. -/
lemma scalarCode_cases (name : String) :
    (lowercase (stripped name) = "uuid" ∧ scalarCode name = "UUID") ∨
    (scalarCode name ≠ "" ∧ ¬ StartsRaised (scalarCode name).toList) := by
  unfold scalarCode
  cases found : scalar? name with
  | none => exact .inr (by decide)
  | some types =>
    obtain ⟨before, after, split, -⟩ := List.lookup_eq_some_iff.1 found
    have mem : (lowercase (stripped name), types) ∈ scalars := by
      rw [split]
      exact List.mem_append_right _ List.mem_cons_self
    exact scalars_code (lowercase (stripped name), types) mem

/-- The code of a scalar is no entity's name in Pascal case. -/
theorem singularPascal_ne_scalarCode (trimmed : trim name.toList = name.toList) :
    Naming.singularPascal name ≠ scalarCode name := by
  intro same
  rcases scalarCode_cases name with ⟨spells, code⟩ | ⟨nonempty, lower⟩
  · rw [stripped, trimmed, String.ofList_toList] at spells
    exact Naming.singularPascal_ne_of_lowercase_eq_uuid spells (same.trans code)
  · exact lower (same ▸ Naming.singularPascal_startsRaised (same ▸ nonempty))

end ColumnType

/-! ### Expressions -/

namespace TypeExpression

variable {written : String}

/-- The element type has no white space at its ends. -/
lemma trim_element (written : String) :
    Text.trim (ofText written).element.toList = (ofText written).element.toList := by
  unfold ofText
  dsimp only
  split_ifs
  all_goals rw [String.toList_ofList, Text.trim_trim]

/-- The code type of entities of a name, or of a list of them. -/
def entityCode (t : TypeExpression) : String :=
  let pascal := Naming.singularPascal t.element
  if t.isArray then "list[" ++ pascal ++ "]" else pascal

/-- No expression has the code type of a scalar and of an entity at once. -/
lemma scalarCode_ne_entityCode (written : String) :
    (ofText written).scalarCode ≠ (ofText written).entityCode := by
  have differ := (ColumnType.singularPascal_ne_scalarCode (trim_element written)).symm
  unfold scalarCode entityCode
  cases (ofText written).isArray with
  | true => simpa using differ
  | false => exact differ

end TypeExpression

namespace TypedProcedure

variable {d : Directory} {owner owner' : Option Value} {p q : Procedure} {a : Argument}

/-! ### Signatures -/

def argumentType (a : Argument) : TypeExpression := TypeExpression.ofText a.type.shown

def typedArgument (a : Argument) : TypedArgument where
  name := a.name
  type := a.type.shown
  codeType := (argumentType a).scalarCode
  columnType := (argumentType a).scalarColumn
  default := a.default

/-- A procedure with the types of its arguments and of what it returns. -/
def signature (d : Directory) (p : Procedure) : TypedProcedure :=
  let types := returnTypeOf d (TypeExpression.ofText p.returns)
  { name := p.name, args := p.args.map typedArgument, returns := p.returns
    returnType := TypeExpression.ofText p.returns, columnType := types.columnType
    codeType := types.codeType, entity := types.entity, sql := p.sql, language := p.language
    volatility := p.volatility, security := p.security, description := p.description }

def argumentReport (owner : Option Value) (p : Procedure) (a : Argument) : Diagnostic :=
  unknownType (owner.getD p.name) p.name (.text (p.name.shown ++ "." ++ a.name.shown)) a.type.shown

def returnReport (owner : Option Value) (p : Procedure) : Diagnostic :=
  unknownType (owner.getD p.name) p.name p.name p.returns

def reportsOn (d : Directory) (owner : Option Value) (p : Procedure) : List Diagnostic :=
  (p.args.flatMap fun a => if (argumentType a).isKnownScalar then []
    else [argumentReport owner p a]) ++
    if (returnTypeOf d (TypeExpression.ofText p.returns)).isKnown then []
    else [returnReport owner p]

/-- A procedure is typed, and reported on, if the types of its arguments are texts. -/
theorem ofProcedure_eq (d : Directory) (owner : Option Value)
    (texts : ∀ a ∈ p.args, a.type.IsText) :
    ofProcedure d owner p = .ok (signature d p, reportsOn d owner p) := by
  have typed : ∀ args : List Argument, (∀ a ∈ args, a.type.IsText) →
      typeArguments (owner.getD p.name) p.name args =
        .ok (args.map typedArgument, args.flatMap fun a =>
        if (argumentType a).isKnownScalar then [] else [argumentReport owner p a]) := by
    intro args texts
    induction args with
    | nil => rfl
    | cons a rest ih =>
      obtain ⟨⟨written, isType⟩, others⟩ := List.forall_mem_cons.1 texts
      have first : typeArgument (owner.getD p.name) p.name a = .ok (typedArgument a,
          if (argumentType a).isKnownScalar then [] else [argumentReport owner p a]) := by
        rw [typeArgument, typedArgument, argumentType, argumentReport, isType]
        rfl
      rw [typeArguments, first, ih others]
      rfl
  rw [ofProcedure, typed p.args texts]
  rfl

/-! ### Reports -/

/-- A report tells what it is about and the type that is not known. -/
lemma unknownType_inj {owner procedure subject subject' : Value} {written written' : String} :
    unknownType owner procedure subject written = unknownType owner procedure subject' written' ↔
      subject = subject' ∧ written = written' := by
  simp [unknownType, and_comm]

/-- No argument is reported as the procedure itself is. -/
lemma argumentReport_ne_returnReport : argumentReport owner p a ≠ returnReport owner p := by
  intro same
  have subject : Value.text (p.name.shown ++ "." ++ a.name.shown) = p.name :=
    (unknownType_inj.1 same).1
  have shown : p.name.shown ++ "." ++ a.name.shown = p.name.shown := congrArg Value.shown subject
  have length := congrArg String.length shown
  simp only [String.length_append] at length
  have mark : ".".length = 1 := rfl
  omega

/-- An argument is reported just if its type is no known scalar. -/
lemma argumentReport_mem_iff (mem : a ∈ p.args) :
    argumentReport owner p a ∈ reportsOn d owner p ↔ (argumentType a).isKnownScalar = false := by
  rw [reportsOn, List.mem_append, List.mem_flatMap]
  constructor
  · rintro (⟨b, -, reported⟩ | reported)
    · split_ifs at reported with known
      · exact absurd reported List.not_mem_nil
      · -- the type that is reported is told, and so it is the same for both
        have same := (unknownType_inj.1 (List.mem_singleton.1 reported)).2
        rw [argumentType, same]
        exact Bool.eq_false_iff.2 known
    · split_ifs at reported
      · exact absurd reported List.not_mem_nil
      · exact absurd (List.mem_singleton.1 reported) argumentReport_ne_returnReport
  · intro unknown
    exact .inl ⟨a, mem, by simp [unknown]⟩

/-- What is returned is reported just if it is neither nothing nor entities nor a known scalar. -/
lemma returnReport_mem_iff : returnReport owner p ∈ reportsOn d owner p ↔
    (returnTypeOf d (TypeExpression.ofText p.returns)).isKnown = false := by
  rw [reportsOn, List.mem_append, List.mem_flatMap]
  constructor
  · rintro (⟨b, -, reported⟩ | reported)
    · split_ifs at reported
      · exact absurd reported List.not_mem_nil
      · exact absurd (List.mem_singleton.1 reported).symm argumentReport_ne_returnReport
    · split_ifs at reported with known
      · exact absurd reported List.not_mem_nil
      · exact Bool.eq_false_iff.2 known
  · intro unknown
    exact .inr (by simp [unknown])

/-! ### Agreement -/

/-- An argument is typed like what a procedure returns, but that lists of entities have a mark of
their own where they are returned, and the one is reported just if the other is. -/
structure TypedAlike (argument : TypedArgument) (out : TypedProcedure) (reported reported' : Prop) :
    Prop where
  column : (out.entity.isSome = true ∧ out.returnType.isArray = true) ∨
    argument.columnType = out.columnType
  code : argument.codeType = out.codeType
  reported : reported ↔ reported'

/-- What is returned under the name of no entity is typed as a scalar. -/
lemma returnTypeOf_scalar {t : TypeExpression} (returns : t.isVoid = false)
    (unnamed : d.contains t.element = false) : returnTypeOf d t =
      { columnType := t.scalarColumn, codeType := t.scalarCode, isKnown := t.isKnownScalar } := by
  rw [returnTypeOf, returns, unnamed]
  rfl

/-- What is returned under the name of an entity has its code type and is known. -/
lemma returnTypeOf_entity {t : TypeExpression} (returns : t.isVoid = false)
    (named : d.contains t.element = true) :
    (returnTypeOf d t).codeType = t.entityCode ∧ (returnTypeOf d t).isKnown = true := by
  rw [returnTypeOf, returns, named]
  exact ⟨rfl, rfl⟩

/-- An argument and a return of the same type are typed alike unless the type is an entity. -/
lemma typedAlike_signature_iff (mem : a ∈ p.args) (same : a.type = .text q.returns)
    (returns : (TypeExpression.ofText q.returns).isVoid = false) :
    TypedAlike (typedArgument a) (signature d q) (argumentReport owner p a ∈ reportsOn d owner p)
        (returnReport owner' q ∈ reportsOn d owner' q) ↔
      d.contains (TypeExpression.ofText q.returns).element = false := by
  have type : argumentType a = TypeExpression.ofText q.returns := by
    rw [argumentType, same]
    rfl
  constructor
  · intro alike
    refine Bool.eq_false_iff.2 fun named => ?_
    have code : (argumentType a).scalarCode = _ := alike.code
    rw [type] at code
    exact TypeExpression.scalarCode_ne_entityCode q.returns
      (code.trans (returnTypeOf_entity returns named).1)
  · intro unnamed
    have types := returnTypeOf_scalar returns unnamed
    refine ⟨.inr ?_, ?_, ?_⟩
    · rw [typedArgument, signature, types, type]
    · rw [typedArgument, signature, types, type]
    · rw [argumentReport_mem_iff mem, returnReport_mem_iff, types, type]

/-- A procedure with an argument of a type and one that returns this type both are typed. They are
typed alike just if no entity has the name of the element type. If one has, the argument is typed as
a scalar for all that, and reported unless it is a known one, while what is returned is never
reported. -/
theorem exists_typedAlike_iff (d : Directory) (owner owner' : Option Value)
    (texts : ∀ a ∈ p.args, a.type.IsText) (texts' : ∀ a ∈ q.args, a.type.IsText) {i : Nat}
    (isArg : p.args[i]? = some a) (same : a.type = .text q.returns)
    (returns : (TypeExpression.ofText q.returns).isVoid = false) :
    ∃ out out' reports reports' argument, ofProcedure d owner p = .ok (out, reports) ∧
      ofProcedure d owner' q = .ok (out', reports') ∧ out.args[i]? = some argument ∧
      (TypedAlike argument out' (argumentReport owner p a ∈ reports)
        (returnReport owner' q ∈ reports') ↔
        d.contains (TypeExpression.ofText q.returns).element = false) ∧
      (d.contains (TypeExpression.ofText q.returns).element = true →
        argument.columnType = (TypeExpression.ofText q.returns).scalarColumn ∧
        argument.codeType = (TypeExpression.ofText q.returns).scalarCode ∧
        (argumentReport owner p a ∈ reports ↔
          (TypeExpression.ofText q.returns).isKnownScalar = false) ∧
        returnReport owner' q ∉ reports') := by
  have mem : a ∈ p.args := List.mem_of_getElem? isArg
  have type : argumentType a = TypeExpression.ofText q.returns := by
    rw [argumentType, same]
    rfl
  refine ⟨_, _, _, _, typedArgument a, ofProcedure_eq d owner texts,
    ofProcedure_eq d owner' texts', ?_, typedAlike_signature_iff mem same returns, fun named =>
      ⟨?_, ?_, ?_, ?_⟩⟩
  · rw [signature, List.getElem?_map, isArg]
    rfl
  · rw [typedArgument, type]
  · rw [typedArgument, type]
  · rw [argumentReport_mem_iff mem, type]
  · rw [returnReport_mem_iff, (returnTypeOf_entity returns named).2]
    exact Bool.noConfusion

/-- Posts, and what may be done to one of them and to some. -/
def posts : List Entity := [{ name := .text "post" }]

/-- Takes and returns a post. -/
def publish : Procedure where
  name := .text "publish"
  returns := "post"
  args := [{ name := .text "draft", type := .text "post" }]

/-- Takes and returns a list of numbers, with blanks and capitals in their type. -/
def rank : Procedure where
  name := .text "rank"
  returns := " Number [] "
  args := [{ name := .text "weights", type := .text " Number [] " }]

/-- Lists of numbers are taken as they are returned. -/
theorem exists_typedAlike_rank : ∃ d out out' reports reports' argument,
    Directory.build posts {} = .ok d ∧ ofProcedure d none rank = .ok (out, reports) ∧
      ofProcedure d none rank = .ok (out', reports') ∧ out.args[0]? = some argument ∧
      TypedAlike argument out'
      (argumentReport none rank ⟨.text "weights", .text " Number [] ", .null⟩ ∈ reports)
        (returnReport none rank ∈ reports') := by
  obtain ⟨d, built, unnamed⟩ :
      ∃ d, Directory.build posts {} = .ok d ∧ d.contains "Number" = false :=
    ⟨_, rfl, rfl⟩
  have texts : ∀ a ∈ rank.args, a.type.IsText := by
    simp [rank, Value.isText_text]
  have element : (TypeExpression.ofText rank.returns).element = "Number" := by decide
  obtain ⟨out, out', reports, reports', argument, run, run', isArg, alike, -⟩ :=
    exists_typedAlike_iff (i := 0) d none none texts texts rfl rfl (by decide)
  exact ⟨d, out, out', reports, reports', argument, built, run, run', isArg,
    alike.2 (element ▸ unnamed)⟩

/-- A post is not taken as it is returned: it is a text, and not known. -/
theorem not_typedAlike_publish : ∃ d out reports argument,
    Directory.build posts {} = .ok d ∧ ofProcedure d none publish = .ok (out, reports) ∧
      out.args[0]? = some argument ∧ argument.columnType = "TEXT" ∧ out.columnType = "posts" ∧
      argument.codeType = "str" ∧ out.codeType = "Post" ∧
      argumentReport none publish ⟨.text "draft", .text "post", .null⟩ ∈ reports ∧
      returnReport none publish ∉ reports := by
  obtain ⟨d, built, column, code, known⟩ : ∃ d, Directory.build posts {} = .ok d ∧
      (signature d publish).columnType = "posts" ∧ (signature d publish).codeType = "Post" ∧
      (returnTypeOf d (TypeExpression.ofText publish.returns)).isKnown = true :=
    ⟨_, rfl, by decide, by decide +kernel, by decide +kernel⟩
  have texts : ∀ a ∈ publish.args, a.type.IsText := by
    simp [publish, Value.isText_text]
  refine ⟨d, _, _, _, built, ofProcedure_eq d none texts, rfl, by decide, column,
    by decide, code, ?_, ?_⟩
  · exact (argumentReport_mem_iff (by simp [publish])).2 (by decide)
  · rw [returnReport_mem_iff, known]
    exact Bool.noConfusion

end TypedProcedure

end EntityModel
