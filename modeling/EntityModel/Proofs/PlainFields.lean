import EntityModel.Proofs.Declaration.Accepted
import EntityModel.Proofs.Declaration.FieldRoundTrip
import EntityModel.Script.Function

/-!
# Plain fields in scripts and in documents

A plain field may be declared by a call in a script or by a flat document that has the arguments of
the call as its entries, in any order. Both declare the same field, but for one choice of arguments:
a message for which there is neither a bound nor a pattern stays in the field of the script and is
lost in that of the document (`Script.Function.decode_arguments_iff`).
-/

namespace EntityModel

open Outcome

/-! ### Entries in another order -/

section

variable {α : Type} {entries others : List (String × α)} {key : String} {a : α}

/-- Where no key stands twice each entry is found. -/
lemma lookup_of_mem (distinct : (entries.map Prod.fst).Nodup) (mem : (key, a) ∈ entries) :
    entries.lookup key = some a := by
  induction entries with
  | nil => exact absurd mem List.not_mem_nil
  | cons entry rest ih =>
    obtain ⟨new, others⟩ := List.nodup_cons.1 distinct
    rw [List.lookup_cons]
    rcases List.mem_cons.1 mem with rfl | mem
    · simp
    · have other : (key == entry.1) = false :=
        beq_false_of_ne fun same => new (same ▸ List.mem_map_of_mem (f := Prod.fst) mem)
      rw [other]
      exact ih others mem

/-- Where no key stands twice the order of the entries does not matter. -/
lemma lookup_perm (perm : entries.Perm others) (distinct : (others.map Prod.fst).Nodup)
    (key : String) :
    entries.lookup key = others.lookup key := by
  have distinct' : (entries.map Prod.fst).Nodup := (perm.map _).nodup_iff.2 distinct
  have found {entries : List (String × α)} {a : α} (isFound : entries.lookup key = some a) :
      (key, a) ∈ entries := by
    obtain ⟨before, after, rfl, -⟩ := List.lookup_eq_some_iff.1 isFound
    exact List.mem_append_right _ List.mem_cons_self
  ext a
  constructor
  · intro isFound
    exact lookup_of_mem distinct (perm.mem_iff.1 (found isFound))
  · intro isFound
    exact lookup_of_mem distinct' (perm.mem_iff.2 (found isFound))

end

/-! ### Flat documents -/

/-- What a flat document gives for a plain field besides its name, type and constraints. -/
def PlainOptions.ofEntries (entries : List (String × Value)) : PlainOptions where
  nullable := (entries.lookup "nullable").getD (.bool false)
  unique := (entries.lookup "unique").getD (.bool false)
  readonly := (entries.lookup "readonly").getD (.bool false)
  default := entries.lookup "default"
  min := (entries.lookup "min").getD .null
  max := (entries.lookup "max").getD .null
  pattern := (entries.lookup "pattern").getD .null
  message := (entries.lookup "message").getD .null
  hint := (entries.lookup "hint").getD .null
  description := (entries.lookup "description").getD (.text "")

/-- The keys of a flat document that make its constraints. -/
def constraintKeys : List String := ["min", "max", "pattern", "message"]

/-- There is a message, but neither a bound nor a pattern for it. -/
def isMessageAlone {α : Type} (entries : List (String × α)) : Bool :=
  (entries.lookup "message").isSome && ["min", "max", "pattern"].all fun key =>
  (entries.lookup key).isNone

namespace Field

/-- A plain field with other constraints than those of its options. -/
def plainWith (constraints : Option Constraints) (name type : Value) (o : PlainOptions) :
    Outcome Field :=
  named name type fun type => {
    name, type, nullable := o.nullable, unique := o.unique, readonly := o.readonly,
    default := o.default, constraints, hint := o.hint, description := o.description }

variable {document : List (String × Value)} {name type : Value} {o : PlainOptions} {f : Field}

/-- No check looks at the constraints. -/
lemma plainWith_eq_ok {constraints : Option Constraints}
    (ok : plainWith constraints name type o = .ok f)
    (others : Option Constraints) :
    f.constraints = constraints ∧ plainWith others name type o =
      .ok { f with constraints := others } := by
  unfold plainWith named at ok ⊢
  obtain ⟨given, ok⟩ := guard_eq_ok_iff.1 ok
  obtain ⟨tag, isTag, ok⟩ := bind_eq_ok_iff.1 ok
  obtain ⟨rfl, -⟩ := (checked_ensures _).of_eq_ok ok
  refine ⟨rfl, guard_eq_ok_iff.2 ⟨given, bind_eq_ok_iff.2 ⟨tag, isTag, ?_⟩⟩⟩
  have sound := (checked_eq_ok_iff _).1 ok
  exact (checked_eq_ok_iff _).2 ⟨sound.named, sound.valued, sound.targeted, sound.itemed,
    sound.distinct⟩

/-- There are constraints where there is a message. -/
lemma ne_none_of_constraintsOf {min max pattern message : Value} {constraints : Option Constraints}
    (given : message.isNull = false)
    (ok : constraintsOf min max pattern message = .ok constraints) :
    constraints ≠ none := by
  rw [constraintsOf, given, Bool.and_false, if_neg Bool.false_ne_true] at ok
  obtain ⟨c, -, rfl⟩ := map_eq_ok_iff.1 ok
  exact Option.some_ne_none c

/-- A document with no entries for parts of other fields is read as a plain field. -/
lemma decode_flat (flat : ∀ key ∈ ["target", "values", "items", "shape", "constraints"],
      document.lookup key = none) (isName : document.lookup "name" = some name) :
    decode .null (.record document) = decodeConstraints (.record document) >>= fun constraints =>
      plainWith constraints name ((document.lookup "type").getD (.text "string"))
        (PlainOptions.ofEntries document) := by
  simp only [List.forall_mem_cons] at flat
  obtain ⟨target, values, items, shape, constraints, -⟩ := flat
  have noValues : decodeValues (.record document) = .ok none := by
    simp [decodeValues, values, pure, Except.pure]
  rw [Value.record, decode, decodeShape_eq, decodeItems_eq, Entries.find?_record,
    Entries.find?_record, items, shape]
  dsimp only
  rw [ok_bind, ← Value.record, assemble]
  simp [noValues, isName, target, plainWith, named]
  rfl

/-- Constraints are read out of a flat document where there is a bound or a pattern; a script makes
them of a message alone, too. -/
lemma decodeConstraints_flat (flat : document.lookup "constraints" = none)
    (given : ∀ key ∈ constraintKeys, ∀ v, document.lookup key = some v → v.isNull = false) :
    decodeConstraints (.record document) =
      if isMessageAlone document then .ok none
      else
        let o := PlainOptions.ofEntries document
        constraintsOf o.min o.max o.pattern o.message := by
  have null : Value.isNull .null = true := rfl
  have isGiven : ∀ key ∈ constraintKeys,
      (document.lookup key).isSome = !((document.lookup key).getD .null).isNull := by
    intro key mem
    cases found : document.lookup key with
    | none => rfl
    | some v => simp [given key mem v found]
  have getD (key : String) :
      Value.getD key (.record document) = (document.lookup key).getD .null := by
    simp [Value.getD]
  simp only [constraintKeys, List.forall_mem_cons] at isGiven
  obtain ⟨isMin, isMax, isPattern, isMessage, -⟩ := isGiven
  unfold decodeConstraints isMessageAlone PlainOptions.ofEntries constraintsOf
  simp only [Value.optional_record, flat, Option.getD_none, ok_bind, null, Bool.true_and,
    Value.get?_record, List.any_cons, List.any_nil, List.all_cons, List.all_nil,
    ← Option.not_isSome]
  simp only [isMin, isMax, isPattern, isMessage, List.map_cons, List.map_nil, getD]
  generalize (document.lookup "min").getD .null = min, (document.lookup "max").getD .null = max,
    (document.lookup "pattern").getD .null = pattern,
    (document.lookup "message").getD .null = message
  have read : Constraints.decode (.record [("min", min), ("max", max), ("pattern", pattern),
      ("message", message)]) = Constraints.make min max pattern message := rfl
  cases min.isNull <;> cases max.isNull <;> cases pattern.isNull <;> cases message.isNull <;>
    simp [read, pure, Except.pure]

end Field

namespace Script

/-! ### Arguments -/

namespace Signature

variable {α : Type} {s : Signature}

/-- Arguments by name are bound as they are, each to a parameter of its own. -/
lemma bindNamed_eq_ok {bound named out : List (String × α)} (ok : s.bindNamed bound named = .ok out)
    (distinct : (bound.map Prod.fst).Nodup) : out = bound ++ named ∧
      (∀ a ∈ named, a.1 ∈ s.inOrder ++ s.byName) ∧ (out.map Prod.fst).Nodup := by
  induction named generalizing bound with
  | nil =>
    obtain rfl := Except.ok.inj ok
    exact ⟨(List.append_nil _).symm, by simp, distinct⟩
  | cons a rest ih =>
    obtain ⟨name, item⟩ := a
    rw [bindNamed] at ok
    split_ifs at ok with free
    · rw [Bool.and_eq_true, List.contains_iff_mem] at free
      obtain ⟨isParameter, free⟩ := free
      have new : name ∉ bound.map Prod.fst := by
        rintro isBound
        obtain ⟨a, mem, rfl⟩ := List.mem_map.1 isBound
        have absent := List.lookup_eq_none_iff.1 (Option.isNone_iff_eq_none.1 free) a mem
        simp at absent
      have distinct : ((bound ++ [(name, item)]).map Prod.fst).Nodup := by
        rw [List.map_append, List.nodup_append]
        refine ⟨distinct, List.nodup_singleton name, fun key mem other isName same => ?_⟩
        rw [List.map_singleton, List.mem_singleton] at isName
        rw [same, isName] at mem
        exact new mem
      obtain ⟨rfl, others, distinct⟩ := ih ok distinct
      exact ⟨by simp, List.forall_mem_cons.2 ⟨isParameter, others⟩, distinct⟩
    · cases ok

/-- Bound are the arguments in order under the names of their parameters, and the arguments by
name. -/
lemma bind_eq_ok {args : List α} {named : List (String × α)} {b : Bound α}
    (ok : s.bind args named = .ok b) (distinct : s.inOrder.Nodup) :
    b.named = s.inOrder.zip args ++ named ∧ (∀ a ∈ b.named, a.1 ∈ s.inOrder ++ s.byName) ∧
      (b.named.map Prod.fst).Nodup ∧ ∀ parameter ∈ s.required, (b.get? parameter).isSome := by
  have once : ((s.inOrder.zip args).map Prod.fst).Nodup := by
    rw [List.zip_eq_zip_take_min, List.map_fst_zip (by simp)]
    exact distinct.sublist (List.take_sublist _ _)
  unfold bind at ok
  dsimp only at ok
  split_ifs at ok
  · cases ok
  · obtain ⟨bound, isBound, ok⟩ := bind_eq_ok_iff.1 ok
    obtain ⟨rfl, byName, distinct⟩ := bindNamed_eq_ok isBound once
    by_cases complete : (s.required.all fun parameter =>
        (List.lookup parameter (s.inOrder.zip args ++ named)).isSome) = true
    swap
    · rw [if_neg complete] at ok
      cases ok
    rw [if_pos complete] at ok
    obtain rfl := Except.ok.inj ok
    refine ⟨rfl, List.forall_mem_append.2 ⟨fun a mem => ?_, byName⟩, distinct,
      List.all_eq_true.1 complete⟩
    exact List.mem_append_left _ (List.of_mem_zip mem).1

end Signature

/-- What an argument gives in a document: a kind of field by its tag, a compiled pattern by its
source. -/
def entryValue (parameter : String) (item : Item) : Outcome Value :=
  if parameter = "type" then item.typeTag
  else if parameter = "pattern" then item.patternSource
  else item.value

def entriesOf (arguments : List (String × Item)) : Outcome (List (String × Value)) :=
  arguments.mapM fun (parameter, item) => (parameter, ·) <$> entryValue parameter item

variable {arguments : List (String × Item)} {entries : List (String × Value)}

/-- The document has an entry just for each argument, and it is what the argument gives. -/
lemma lookup_entriesOf (written : entriesOf arguments = .ok entries) (parameter : String) :
    (arguments.lookup parameter = none ∧ entries.lookup parameter = none) ∨
      ∃ item v, arguments.lookup parameter = some item ∧ entryValue parameter item = .ok v ∧
        entries.lookup parameter = some v := by
  induction arguments generalizing entries with
  | nil =>
    obtain rfl := Except.ok.inj written
    exact .inl ⟨rfl, rfl⟩
  | cons argument rest ih =>
    obtain ⟨first, item⟩ := argument
    rw [entriesOf, List.mapM_cons] at written
    obtain ⟨entry, isEntry, written⟩ := bind_eq_ok_iff.1 written
    obtain ⟨others, areOthers, isEntries⟩ := bind_eq_ok_iff.1 written
    obtain ⟨v, isValue, rfl⟩ := map_eq_ok_iff.1 isEntry
    obtain rfl := Except.ok.inj isEntries
    rw [List.lookup_cons, List.lookup_cons]
    by_cases here : parameter = first
    · subst here
      simpa using isValue
    · rw [beq_false_of_ne here]
      exact ih areOthers

section

variable {b : Bound Item} (written : entriesOf b.named = .ok entries)

include written

/-- A parameter of a field has its written value, or the default. -/
lemma Bound.valueOr_eq {parameter : String} (noType : parameter ≠ "type")
    (noPattern : parameter ≠ "pattern") (default : Value) :
    b.valueOr parameter default = .ok ((entries.lookup parameter).getD default) := by
  unfold valueOr get?
  rcases lookup_entriesOf written parameter with
      ⟨noItem, noEntry⟩ | ⟨item, v, isItem, isValue, isEntry⟩
  · simp [noItem, noEntry]
  · rw [entryValue, if_neg noType, if_neg noPattern] at isValue
    simp [isItem, isValue, isEntry]

/-- A parameter of a field has its written value, if there is one. -/
lemma Bound.value?_eq {parameter : String} (noType : parameter ≠ "type")
    (noPattern : parameter ≠ "pattern") : b.value? parameter = .ok (entries.lookup parameter) := by
  unfold value? get?
  rcases lookup_entriesOf written parameter with
      ⟨noItem, noEntry⟩ | ⟨item, v, isItem, isValue, isEntry⟩
  · simp [noItem, noEntry]
  · rw [entryValue, if_neg noType, if_neg noPattern] at isValue
    simp [isItem, isValue, isEntry]

/-- The pattern of a field has its written value, or null. -/
lemma Bound.patternSource_eq :
    (b.item "pattern").patternSource = .ok ((entries.lookup "pattern").getD .null) := by
  unfold item get?
  rcases lookup_entriesOf written "pattern" with
      ⟨noItem, noEntry⟩ | ⟨item, v, isItem, isValue, isEntry⟩
  · rw [noItem, noEntry]
    rfl
  · rw [isItem, isEntry]
    exact isValue

/-- The type of a field is the written one, or a text. -/
lemma Function.typeOf_eq : typeOf b = .ok ((entries.lookup "type").getD (.text "string")) := by
  unfold typeOf Bound.get?
  rcases lookup_entriesOf written "type" with
      ⟨noItem, noEntry⟩ | ⟨item, v, isItem, isValue, isEntry⟩
  · rw [noItem, noEntry]
    rfl
  · rw [isItem, isEntry]
    exact isValue

/-- The call declares a plain field of what stands in the document. -/
lemma Function.run_field : field.run b = .field <$> Field.plain ((entries.lookup "name").getD .null)
    ((entries.lookup "type").getD (.text "string")) (.ofEntries entries) := by
  simp [field, typeOf_eq written, Bound.patternSource_eq written, Bound.flag, Bound.value,
    Bound.text, Bound.valueOr_eq written, Bound.value?_eq written]
  rfl

end

section

variable {b : Bound Item} {parameter : String} {item : Item} (isItem : b.get? parameter = some item)

include isItem

lemma entryValue_of_valueOr (noType : parameter ≠ "type") (noPattern : parameter ≠ "pattern")
    {default v : Value} (read : b.valueOr parameter default = .ok v) :
    entryValue parameter item = .ok v := by
  rw [Bound.valueOr, isItem] at read
  rwa [entryValue, if_neg noType, if_neg noPattern]

lemma entryValue_of_value? (noType : parameter ≠ "type") (noPattern : parameter ≠ "pattern")
    {v : Option Value} (read : b.value? parameter = .ok v) :
    ∃ v, entryValue parameter item = .ok v := by
  rw [Bound.value?, isItem] at read
  obtain ⟨v, isValue, -⟩ := map_eq_ok_iff.1 read
  rw [entryValue, if_neg noType, if_neg noPattern]
  exact ⟨v, isValue⟩

end

/-- What a call that declares a plain field was given can be written in a document. -/
lemma exists_entriesOf {b : Bound Item} {f : Field} (ok : Function.field.run b = .ok (.field f))
    (known : ∀ a ∈ b.named, a.1 ∈ Function.field.signature.inOrder ++
      Function.field.signature.byName)
    (distinct : (b.named.map Prod.fst).Nodup) : ∃ entries, entriesOf b.named = .ok entries := by
  unfold Function.field at ok
  simp only [bind_eq_ok_iff] at ok
  obtain ⟨_, nullable, _, unique, _, readonly, _, default, _, min, _, max, _, pattern, _, message,
    _, hint, _, description, _, name, _, type, -⟩ := ok
  refine exists_mapM_eq_ok_iff.2 fun (parameter, item) mem => ?_
  have isItem := lookup_of_mem distinct mem
  have isParameter := known _ mem
  suffices readable : ∃ v, entryValue parameter item = .ok v by
    obtain ⟨v, isValue⟩ := readable
    exact ⟨(parameter, v), map_eq_ok_iff.2 ⟨v, isValue, rfl⟩⟩
  simp only [Function.field, Signature.inOrder, List.cons_append, List.nil_append, List.mem_cons,
    List.not_mem_nil, or_false] at isParameter
  rcases isParameter with rfl | rfl | rfl | rfl | rfl | rfl | rfl | rfl | rfl | rfl | rfl | rfl
  · exact ⟨_, entryValue_of_valueOr isItem (by decide) (by decide) name⟩
  · rw [Function.typeOf, Bound.get?, isItem] at type
    exact ⟨_, type⟩
  · exact ⟨_, entryValue_of_valueOr isItem (by decide) (by decide) nullable⟩
  · exact ⟨_, entryValue_of_valueOr isItem (by decide) (by decide) unique⟩
  · exact ⟨_, entryValue_of_valueOr isItem (by decide) (by decide) readonly⟩
  · exact entryValue_of_value? isItem (by decide) (by decide) default
  · exact ⟨_, entryValue_of_valueOr isItem (by decide) (by decide) min⟩
  · exact ⟨_, entryValue_of_valueOr isItem (by decide) (by decide) max⟩
  · rw [Bound.item, Bound.get?, isItem] at pattern
    exact ⟨_, pattern⟩
  · exact ⟨_, entryValue_of_valueOr isItem (by decide) (by decide) message⟩
  · exact ⟨_, entryValue_of_valueOr isItem (by decide) (by decide) hint⟩
  · exact ⟨_, entryValue_of_valueOr isItem (by decide) (by decide) description⟩

/-- A parameter that is given has a value other than null. -/
lemma isNull_entryValue {parameter : String} {item : Item} {v : Value}
    (isValue : entryValue parameter item = .ok v) (given : item.isNull = false) :
    v.isNull = false := by
  have ofValue (isValue : item.value = .ok v) : v.isNull = false := by
    cases item with
    | plain s =>
      obtain rfl := Except.ok.inj isValue
      cases s with
      | null => cases given
      | _ => rfl
    | list items =>
      obtain ⟨vs, -, isList⟩ := bind_eq_ok_iff.1 isValue
      obtain rfl := Except.ok.inj isList
      rfl
    | map items =>
      obtain ⟨vs, -, isMap⟩ := bind_eq_ok_iff.1 isValue
      obtain rfl := Except.ok.inj isMap
      rfl
    | _ => cases isValue
  unfold entryValue at isValue
  split_ifs at isValue
  · cases item with
    | fieldKind kind =>
      obtain rfl := Except.ok.inj isValue
      rfl
    | _ => exact ofValue isValue
  · cases item with
    | pattern source =>
      obtain rfl := Except.ok.inj isValue
      rfl
    | _ => exact ofValue isValue
  · exact ofValue isValue

lemma map_fst_entriesOf (written : entriesOf arguments = .ok entries) :
    entries.map Prod.fst = arguments.map Prod.fst := by
  refine map_eq_map (mapM_eq_ok_iff.1 written) fun argument entry isEntry => ?_
  obtain ⟨v, -, rfl⟩ := map_eq_ok_iff.1 isEntry
  rfl

/-- A message stands alone among the entries just where it does among the arguments. -/
lemma isMessageAlone_entriesOf (written : entriesOf arguments = .ok entries) :
    isMessageAlone entries = isMessageAlone arguments := by
  have isSome (key : String) : (entries.lookup key).isSome = (arguments.lookup key).isSome := by
    rcases lookup_entriesOf written key with ⟨noItem, noEntry⟩ | ⟨item, v, isItem, -, isEntry⟩
    · rw [noItem, noEntry]
      rfl
    · rw [isItem, isEntry]
      rfl
  simp only [isMessageAlone, ← Option.not_isSome, isSome]

lemma isNull_of_lookup (written : entriesOf arguments = .ok entries) {key : String} {v : Value}
    (given : ∀ item, arguments.lookup key = some item → item.isNull = false)
    (isValue : entries.lookup key = some v) : v.isNull = false := by
  rcases lookup_entriesOf written key with ⟨-, noEntry⟩ | ⟨item, w, isItem, read, isEntry⟩
  · rw [noEntry] at isValue
    cases isValue
  · rw [isEntry] at isValue
    exact Option.some.inj isValue ▸ isNull_entryValue read (given item isItem)

/-- There is no entry under a key that no argument has. -/
lemma lookup_eq_none_of_unknown (written : entriesOf arguments = .ok entries) {key : String}
    {parameters : List String} (known : ∀ a ∈ arguments, a.1 ∈ parameters)
    (unknown : key ∉ parameters) :
    entries.lookup key = none := by
  rcases lookup_entriesOf written key with ⟨-, noEntry⟩ | ⟨item, v, isItem, -⟩
  · exact noEntry
  · obtain ⟨before, after, rfl, -⟩ := List.lookup_eq_some_iff.1 isItem
    exact absurd (known (key, item) (by simp)) unknown

/-- A document with the entries for the arguments of a call declares the field that the call
declares, but for the constraints where there is a message alone. -/
lemma Function.decode_of_run {b : Bound Item} {f : Field} {document : List (String × Value)}
    (run : field.run b = .ok (.field f)) (written : entriesOf b.named = .ok entries)
    (same : ∀ key, document.lookup key = entries.lookup key)
    (known : ∀ a ∈ b.named, a.1 ∈ field.signature.inOrder ++ field.signature.byName)
    (isNamed : (b.get? "name").isSome = true)
    (given : ∀ key ∈ constraintKeys, ∀ item, b.get? key = some item → item.isNull = false) :
    Field.decode .null (.record document) =
        .ok { f with constraints := if isMessageAlone b.named then none else f.constraints } ∧
      (isMessageAlone b.named = true → f.constraints ≠ none) := by
  obtain ⟨name, isName⟩ : ∃ name, document.lookup "name" = some name := by
    rcases lookup_entriesOf written "name" with ⟨noItem, -⟩ | ⟨item, v, -, -, isEntry⟩
    · rw [Bound.get?, noItem] at isNamed
      cases isNamed
    · exact ⟨v, (same _).trans isEntry⟩
  have unknown : ∀ key ∈ ["target", "values", "items", "shape", "constraints"],
    key ∉ field.signature.inOrder ++ field.signature.byName := by decide
  have flat :
      ∀ key ∈ ["target", "values", "items", "shape", "constraints"], document.lookup key = none :=
    fun key mem => (same key).trans (lookup_eq_none_of_unknown written known (unknown key mem))
  have notNull : ∀ key ∈ constraintKeys, ∀ v, document.lookup key = some v → v.isNull = false :=
    fun key mem v isValue =>
      isNull_of_lookup written (given key mem) ((same key).symm.trans isValue)
  have options : PlainOptions.ofEntries document = .ofEntries entries := by
    simp only [PlainOptions.ofEntries, same]
  have alone : isMessageAlone document = isMessageAlone b.named := by
    rw [← isMessageAlone_entriesOf written]
    simp only [isMessageAlone, same]
  rw [run_field written] at run
  obtain ⟨g, isPlain, isField⟩ := map_eq_ok_iff.1 run
  obtain rfl := Item.field.inj isField
  obtain ⟨constraints, areConstraints, isField⟩ := bind_eq_ok_iff.1 isPlain
  have type : (entries.lookup "type").getD (.text "string") =
      (document.lookup "type").getD (.text "string") := by
    rw [same]
  rw [← same, isName, Option.getD_some, type] at isField
  rw [Field.decode_flat flat isName, Field.decodeConstraints_flat (flat _ (by simp)) notNull,
    options, alone]
  cases isAlone : isMessageAlone b.named with
  | false =>
    dsimp only
    rw [if_neg Bool.false_ne_true, if_neg Bool.false_ne_true, areConstraints, ok_bind]
    obtain ⟨a, items, shape⟩ := g
    exact ⟨isField, nofun⟩
  | true =>
    obtain ⟨kept, others⟩ := Field.plainWith_eq_ok isField none
    refine ⟨others, fun _ isNone => ?_⟩
    rw [isAlone, isMessageAlone, Bool.and_eq_true] at alone
    obtain ⟨message, isMessage⟩ := Option.isSome_iff_exists.1 alone.1
    refine Field.ne_none_of_constraintsOf ?_ areConstraints (kept ▸ isNone)
    rw [← options, PlainOptions.ofEntries, isMessage]
    exact notNull "message" (by decide) message isMessage

/-- A call that declares a plain field and a document with its arguments as entries, in any order,
declare the same field, unless there is a message alone: from the document such a message is left
out. -/
theorem Function.decode_arguments_iff {args : List Item} {named : List (String × Item)} {f : Field}
    (call : field.call args named = .ok (.field f))
    (given : ∀ a ∈ named, a.1 ∈ constraintKeys → a.2.isNull = false) :
    ∃ entries, entriesOf (["name", "type"].zip args ++ named) = .ok entries ∧
      ∀ document, document.Perm entries →
        Field.decode .null (.record document) =
            .ok { f with constraints := if isMessageAlone named then none else f.constraints } ∧
          (Field.decode .null (.record document) = .ok f ↔ isMessageAlone named = false) := by
  obtain ⟨b, isBound, run⟩ := bind_eq_ok_iff.1 call
  obtain ⟨arguments, known, distinct, complete⟩ := Signature.bind_eq_ok isBound (by decide)
  obtain ⟨entries, written⟩ := exists_entriesOf run known distinct
  have byName {key : String} (other : key ∉ ["name", "type"]) :
      b.named.lookup key = named.lookup key := by
    have none : (["name", "type"].zip args).lookup key = none :=
      List.lookup_eq_none_iff.2 fun entry mem => bne_iff_ne.2 fun same =>
        other (same ▸ (List.of_mem_zip mem).1)
    rw [arguments, List.lookup_append]
    exact (congrArg (Option.or · _) none).trans Option.none_or
  have alone : isMessageAlone b.named = isMessageAlone named := by
    simp [isMessageAlone, byName]
  refine ⟨entries, arguments ▸ written, fun document perm => ?_⟩
  have same := lookup_perm perm (map_fst_entriesOf written ▸ distinct)
  have notNull : ∀ key ∈ constraintKeys, ∀ item, b.get? key = some item → item.isNull = false := by
    intro key mem item isItem
    have other : ∀ key ∈ constraintKeys, key ∉ ["name", "type"] := by decide
    rw [Bound.get?, byName (other key mem)] at isItem
    obtain ⟨before, after, rfl, -⟩ := List.lookup_eq_some_iff.1 isItem
    exact given (key, item) (by simp) mem
  obtain ⟨read, kept⟩ := decode_of_run run written same known (complete "name" (by decide)) notNull
  rw [alone] at read kept
  refine ⟨read, ?_⟩
  rw [read]
  cases isAlone : isMessageAlone named with
  | false =>
    obtain ⟨a, items, shape⟩ := f
    exact ⟨fun _ => rfl, fun _ => rfl⟩
  | true =>
    refine ⟨fun isField => ?_, nofun⟩
    have lost : none = f.constraints := congrArg (·.constraints) (Except.ok.inj isField)
    exact absurd lost.symm (kept isAlone)

/-- The price of a book: beside a least value, a message stays. -/
theorem Function.decode_arguments_price :
    ∃ f, field.call [.plain (.text "price"), .fieldKind .number]
        [("min", .plain (.int 1)), ("message", .plain (.text "no gifts")),
          ("default", .plain .null)] =
          .ok (.field f) ∧
      Field.decode .null (.record [("default", .null), ("message", "no gifts"), ("min", .int 1),
        ("type", "number"), ("name", "price")]) = .ok f := by
  refine ⟨_, rfl, ?_⟩
  have given : ∀ a ∈ [("min", Item.plain (.int 1)), ("message", .plain (.text "no gifts")),
      ("default", .plain .null)], a.1 ∈ constraintKeys → a.2.isNull = false := by decide
  obtain ⟨entries, written, declares⟩ := decode_arguments_iff
    (show field.call [.plain (.text "price"), .fieldKind .number] _ = .ok (.field _) from rfl) given
  obtain rfl := Except.ok.inj written
  exact (declares _ (List.reverse_perm _)).2.2 rfl

/-- The title of a book: a message alone is left out of the field that the document declares. -/
theorem Function.decode_arguments_title :
    ∃ f g, field.call [.plain (.text "title"), .plain (.text "string")]
        [("message", .plain (.text "too plain"))] = .ok (.field f) ∧
      Field.decode .null
      (.record [("name", "title"), ("type", "string"), ("message", "too plain")]) = .ok g ∧
      f.constraints.isSome = true ∧ g.constraints.isNone = true ∧ f.same g = false :=
  ⟨_, _, rfl, rfl, rfl, rfl, rfl⟩

end Script

end EntityModel
