import EntityModel.Proofs.Declaration.FieldRoundTrip
import EntityModel.Proofs.Declaration.PartsRoundTrip

/-!
# The two styles of declarations

Several declarations of one sort are written as a list of documents with their names inside, or as a
mapping of their names to documents, some of which may be a single text. A section of a document can
be changed from the second style to the first at any choice of places; the parsers do not see it.

Each parser has its own way to put a name from outside to a declaration. What they have in common is
that a declaration reads in the one style as it does in the other (`readSection_place`).
-/

namespace EntityModel

open Outcome

/-! ### Mappings with other values -/

namespace Entries

/-- The entries with each value replaced, by what is made of it under its key. -/
def mapValues (f : Scalar → Value → Value) (entries : Entries) : Entries :=
  entries.map fun (key, v) => (key, f key v)

lemma same_text_iff {key : Scalar} {s : String} : key.same (.text s) = true ↔ key = .text s := by
  cases key <;> simp [Scalar.same, Scalar.compareNumbers?, Scalar.int?]

lemma text_same_iff {key : Scalar} {s : String} :
    (Scalar.text s).same key = true ↔ key = .text s := by
  cases key with
  | text t =>
    rw [Scalar.same, beq_iff_eq, Scalar.text.injEq]
    exact eq_comm
  | _ => simp [Scalar.same, Scalar.compareNumbers?, Scalar.int?]

/-- A value under a key is changed where all values are. -/
@[simp] lemma find?_mapValues (f : Scalar → Value → Value) (key : String) (entries : Entries) :
    find? (.text key) (mapValues f entries) = (find? (.text key) entries).map (f (.text key)) := by
  induction entries with
  | nil => rfl
  | cons entry rest ih =>
    obtain ⟨k, v⟩ := entry
    change (if k.same (.text key) then _ else find? _ (mapValues f rest)) =
      Option.map _ (if k.same (.text key) then _ else find? _ rest)
    by_cases here : k.same (.text key) = true
    · rw [if_pos here, if_pos here, same_text_iff.1 here, Option.map_some]
    · rw [if_neg here, if_neg here, ih]

/-- No entry has the key that is not found. -/
lemma not_same_of_find?_isNone {s : String} {entries : Entries}
    (absent : (find? (.text s) entries).isNone = true) :
    ∀ entry ∈ entries, (Scalar.text s).same entry.1 = false := by
  induction entries with
  | nil => simp
  | cons entry rest ih =>
    rw [find?] at absent
    split_ifs at absent with here
    · cases absent
    · refine List.forall_mem_cons.2 ⟨?_, ih absent⟩
      rw [same_text_iff, ← text_same_iff] at here
      simpa using here

instance (entries : Entries) : Decidable (Distinct entries) :=
  inferInstanceAs (Decidable (List.Pairwise _ entries))

end Entries

namespace Value

/-- The value with other entries, if it is a mapping. -/
def onEntries (f : Entries → Entries) : Value → Value
  | .map entries => .map (f entries)
  | v => v

end Value

/-! ### Choices of places -/

/-- A step into a document: to the value under a key, or to the declaration at a position. -/
inductive Step where
  | key (name : String)
  | declaration (position : Nat)
  deriving DecidableEq

/-- A choice of places of a document, each given by the steps that lead there. -/
abbrev Choice := List Step → Bool

def Choice.after (c : Choice) (step : Step) : Choice := fun place => c (step :: place)

/-! ### Sections -/

/-- The declaration of a mapping with its name inside. Its name has to count as given, and it is a
document without a name or, where a text may stand for a document, the text under that key. -/
def named? (shorthand : Option String) : Scalar × Value → Option Value
  | (name, .map entries) =>
    if name.isGiven && (Entries.find? (.text "name") entries).isNone &&
      Entries.Distinct entries then
      some (.map ((.text "name", .scalar name) :: entries))
    else none
  | (name, .text s) =>
    if name.isGiven then
      shorthand.map fun key => .map [(.text "name", .scalar name), (.text key, .text s)]
    else none
  | _ => none

/-- A mapping of names to declarations as a list, if it is chosen and can be written as one. -/
def place (shorthand : Option String) (c : Choice) (entries : Entries) : Value :=
  match c [], entries.mapM (named? shorthand) with
  | true, some (form :: forms) => .list (form :: forms)
  | _, _ => .map entries

/-- A section of a document with the chosen mappings as lists, on its own and inside its
declarations. -/
def restyleSection (shorthand : Option String) (inside : Choice → Entries → Entries) (c : Choice) :
    Value → Value
  | .map entries => place shorthand c (entries.mapIdx fun i (name, v) =>
      (name, v.onEntries (inside (c.after (.declaration i)))))
  | .list forms => .list (forms.mapIdx fun i v => v.onEntries (inside (c.after (.declaration i))))
  | v => v

variable {α : Type} {shorthand : Option String} {inside : Choice → Entries → Entries}

/-- The declarations of a section, in either style. -/
def readSection (readEntry : Scalar × Value → Outcome α) (readForm : Value → Outcome α) :
    Value → Outcome (List α)
  | .map entries => entries.mapM readEntry
  | written => do (← written.elements).mapM readForm

section

variable {readEntry : Scalar × Value → Outcome α} {readForm : Value → Outcome α}
  (named : ∀ entry form, named? shorthand entry = some form → readForm form = readEntry entry)

include named

/-- Forms that carry their names are read as the entries from which they were made. -/
lemma mapM_of_mapM_named {entries : Entries} {forms : List Value}
    (all : entries.mapM (named? shorthand) = some forms) :
    forms.mapM readForm = entries.mapM readEntry := by
  induction entries generalizing forms with
  | nil =>
    obtain rfl := Option.some.inj all
    rfl
  | cons entry rest ih =>
    simp only [List.mapM_cons, Option.bind_eq_bind, Option.bind_eq_some_iff, Option.pure_def,
      Option.some.injEq] at all
    obtain ⟨form, isForm, others, areForms, rfl⟩ := all
    rw [List.mapM_cons, List.mapM_cons, named entry form isForm, ih areForms]

/-- A mapping is read alike whether or not it is written as a list, if each declaration is. -/
theorem readSection_place (c : Choice) (entries : Entries) :
    readSection readEntry readForm (place shorthand c entries) = entries.mapM readEntry := by
  unfold place
  split
  · rename_i form forms _ all
    exact mapM_of_mapM_named named all
  · rfl

omit named in
/-- Whether a section is given does not depend on its style. -/
lemma isGiven_place (c : Choice) (entries : Entries) :
    (place shorthand c entries).isGiven = !entries.isEmpty := by
  unfold place
  split
  · rename_i form forms _ all
    cases entries with
    | nil => cases all
    | cons => rfl
  · rfl

omit named in
lemma mapM_mapIdx {β γ : Type} {f : Nat → β → γ} {g : γ → Outcome α} {h : β → Outcome α}
    (same : ∀ i b, g (f i b) = h b) (items : List β) : (items.mapIdx f).mapM g = items.mapM h := by
  induction items generalizing f with
  | nil => rfl
  | cons b rest ih =>
    rw [List.mapIdx_cons, List.mapM_cons, List.mapM_cons, same, ih fun i b => same (i + 1) b]

/-- A section is read alike at any choice of places, if its declarations are: in either style, and
whatever is chosen inside them. -/
theorem readSection_restyle
    (inEntry : ∀ c name v, readEntry (name, v.onEntries (inside c)) = readEntry (name, v))
    (inForm : ∀ c v, readForm (v.onEntries (inside c)) = readForm v) (c : Choice) (v : Value) :
    readSection readEntry readForm ((restyleSection shorthand inside c v).orElse (.list [])) =
      readSection readEntry readForm (v.orElse (.list [])) := by
  have given : (restyleSection shorthand inside c v).isGiven = v.isGiven := by
    cases v with
    | scalar s => rfl
    | list forms => cases forms <;> simp [restyleSection]
    | map entries =>
      rw [restyleSection, isGiven_place]
      cases entries <;> simp
  unfold Value.orElse
  rw [given]
  split_ifs
  · cases v with
    | scalar s => rfl
    | list forms => exact mapM_mapIdx (fun i v => inForm _ v) forms
    | map entries =>
      rw [restyleSection, readSection_place named]
      exact mapM_mapIdx (fun i entry => inEntry _ entry.1 entry.2) entries
  · rfl

omit named in
lemma getD_map_restyleSection (c : Choice) (v : Option Value) :
    (v.map (restyleSection shorthand inside c)).getD .null =
      restyleSection shorthand inside c (v.getD .null) := by
  cases v <;> rfl

end

/-! ### Names from outside -/

/-- A name from outside is read as one inside the document would be. -/
def ReadsName (decode : Value → Value → Outcome α) : Prop :=
  ∀ (name : Scalar) (entries : Entries), name.isGiven = true →
    decode .null (.map ((.text "name", .scalar name) :: entries)) =
      decode (.scalar name) (.map entries)

/-- A declaration as a document, where a text may stand for one. -/
def expanded : Option String → Value → Value
  | some key, v => Entity.expandShorthand key v
  | none, v => v

/-- The reader of an entry of a mapping, where names from outside are read as those inside. -/
def readNamed (shorthand : Option String) (decode : Value → Value → Outcome α)
    (entry : Scalar × Value) : Outcome α :=
  decode (.scalar entry.1) (expanded shorthand entry.2)

/-- A declaration reads alike in either style, where names from outside are read as those inside. -/
lemma ReadsName.named {decode : Value → Value → Outcome α} (reads : ReadsName decode)
    (entry : Scalar × Value) (form : Value) (isForm : named? shorthand entry = some form) :
    decode .null form = readNamed shorthand decode entry := by
  unfold named? at isForm
  split at isForm
  · rename_i name entries
    split_ifs at isForm with nameable
    obtain rfl := Option.some.inj isForm
    simp only [Bool.and_eq_true] at nameable
    cases shorthand <;> exact reads name entries nameable.1.1
  · rename_i name s
    split_ifs at isForm with given
    obtain ⟨key, rfl, rfl⟩ := Option.map_eq_some_iff.1 isForm
    exact reads name _ given
  · cases isForm

/-- A section of a document is read from the list or the mapping under its key. -/
lemma decodeNamed_map (key short : String) (decode : Value → Value → Outcome α)
    (entries : Entries) :
    Entity.decodeNamed key short decode (.map entries) =
      readSection (readNamed (some short) decode) (decode .null)
        (((Entries.find? (.text key) entries).getD .null).orElse (.list [])) := by
  change (match ((Entries.find? (.text key) entries).getD .null).orElse (.list []) with
    | .map entries => _
    | written => _) = _
  cases ((Entries.find? (.text key) entries).getD .null).orElse (.list []) <;> rfl

/-- The declarations under a key are read alike at any choice of places. -/
theorem decodeNamed_restyle {decode : Value → Value → Outcome α} (reads : ReadsName decode)
    (inDeclaration : ∀ c name entries,
      decode name (.map (inside c entries)) = decode name (.map entries))
    {key short : String} {entries entries' : Entries} {c : Choice}
    (restyled : Entries.find? (.text key) entries' =
      (Entries.find? (.text key) entries).map (restyleSection (some short) inside c)) :
    Entity.decodeNamed key short decode (.map entries') =
      Entity.decodeNamed key short decode (.map entries) := by
  have inEntry : ∀ c name v, readNamed (some short) decode (name, v.onEntries (inside c)) =
      readNamed (some short) decode (name, v) := by
    intro c name v
    cases v with
    | scalar | list => rfl
    | map entries => exact inDeclaration c (.scalar name) entries
  have inForm : ∀ c v, decode .null (Value.onEntries (inside c) v) = decode .null v := by
    intro c v
    cases v with
    | scalar | list => rfl
    | map entries => exact inDeclaration c .null entries
  rw [decodeNamed_map, decodeNamed_map, restyled, getD_map_restyleSection]
  exact readSection_restyle reads.named inEntry inForm c _

/-! ### Fields -/

namespace Field

mutual

/-- The entries of a field with the chosen shapes as lists, at any depth. -/
def restyle (c : Choice) : List (Scalar × Value) → List (Scalar × Value)
  | [] => []
  | (key, v) :: rest =>
    (key,
      if key = .text "items" then restyleForm (c.after (.key "items")) v
      else if key = .text "shape" then restyleShape (c.after (.key "shape")) v
      else v) :: restyle c rest
termination_by structural entries => entries

/-- A field with the chosen shapes as lists. -/
def restyleForm (c : Choice) : Value → Value
  | .map entries => .map (restyle c entries)
  | v => v
termination_by structural v => v

/-- A shape as a list, if it is chosen, with the chosen shapes inside it as lists. -/
def restyleShape (c : Choice) : Value → Value
  | .map parts => place none c (restyleNamed c 0 parts)
  | .list parts => .list (restyleAll c 0 parts)
  | v => v
termination_by structural v => v

/-- The named parts of a shape from a position on, with the chosen shapes inside them as lists. -/
def restyleNamed (c : Choice) (position : Nat) : List (Scalar × Value) → List (Scalar × Value)
  | [] => []
  | (name, v) :: rest =>
    (name, restyleForm (c.after (.declaration position)) v) :: restyleNamed c (position + 1) rest
termination_by structural entries => entries

/-- The parts of a shape from a position on, with the chosen shapes inside them as lists. -/
def restyleAll (c : Choice) (position : Nat) : List Value → List Value
  | [] => []
  | v :: rest => restyleForm (c.after (.declaration position)) v :: restyleAll c (position + 1) rest
termination_by structural forms => forms

end

/-- Only the elements and the parts of a field are restyled. -/
lemma find?_restyle (c : Choice) {key : String} (items : key ≠ "items") (shape : key ≠ "shape")
    (entries : Entries) : Entries.find? (.text key) (restyle c entries) =
      Entries.find? (.text key) entries := by
  induction entries with
  | nil => rfl
  | cons entry rest ih =>
    obtain ⟨k, v⟩ := entry
    rw [restyle, Entries.find?, Entries.find?, ih]
    by_cases here : k.same (.text key) = true
    · rw [if_pos here, if_pos here, Entries.same_text_iff.1 here]
      simp [items, shape]
    · rw [if_neg here, if_neg here]

/-- A field out of a mapping depends, apart from the fields inside it, on its other entries. -/
lemma assemble_congr {entries entries' : Entries}
    (same : ∀ key, key ≠ "items" → key ≠ "shape" →
      Entries.find? (.text key) entries' = Entries.find? (.text key) entries)
    (name : Value) (shape : Option (List Field)) (items : Outcome (Option Field)) :
    assemble name (.map entries') shape items = assemble name (.map entries) shape items := by
  simp [assemble, decodeValues, decodeConstraints, Value.entry, Value.entryOr, Value.optional,
    Value.get?, Value.getD, same]

lemma readsName : ReadsName decode := by
  intro name entries given
  have named : Value.isGiven (.scalar name) = true := given
  rw [decode, decode]
  simp [assemble, decodeValues, decodeConstraints, Value.entry, Value.entryOr, Value.optional,
    Value.get?, Value.getD, Entries.find?, Scalar.same, decodeShape, decodeItems, named]

lemma isGiven_restyleForm (c : Choice) (v : Value) : (restyleForm c v).isGiven = v.isGiven := by
  cases v with
  | scalar | list => rfl
  | map entries => cases entries <;> rfl

/-- The shape that the value under its key gives. -/
def readShape (v : Value) : Outcome (Option (List Field)) := decodeShape [(.text "shape", v)]

lemma decodeShape_cons_shape (v : Value) (rest : Entries) :
    decodeShape ((.text "shape", v) :: rest) = readShape v := by
  simp [readShape, decodeShape_eq, Entries.find?, Scalar.same]

lemma readShape_map (parts : Entries) :
    readShape (.map parts) = some <$> parts.mapM (readNamed none decode) := by
  rw [readShape, decodeShape_eq]
  change some <$> decodeNamed parts = _
  rw [decodeNamed_eq_mapM]
  rfl

lemma readShape_list (part : Value) (parts : List Value) :
    readShape (.list (part :: parts)) = some <$> (part :: parts).mapM (decode .null) := by
  rw [readShape, decodeShape_eq]
  rfl

/-- A shape is read alike whether or not it is written as a list. -/
lemma readShape_place (c : Choice) (parts : Entries) :
    readShape (place none c parts) = readShape (.map parts) := by
  have same : readSection (readNamed none decode) (decode .null) (place none c parts) =
      parts.mapM (readNamed none decode) := readSection_place readsName.named c parts
  rw [readShape_map, ← same]
  unfold place
  split
  · exact readShape_list _ _
  · exact readShape_map parts

/-! #### Any choice of places -/

mutual

/-- A field is read alike in every style. -/
theorem decode_restyleForm (c : Choice) (name : Value) :
    (v : Value) → decode name (restyleForm c v) = decode name v
  | .scalar _ | .list _ => rfl
  | .map entries => by
    rw [restyleForm, decode, decode, decodeShape_restyle c entries, decodeItems_restyle c entries]
    simp only [assemble_congr fun key items shape => find?_restyle c items shape entries]
termination_by structural v => v

/-- The elements of an array are read alike in every style. -/
theorem decodeItems_restyle (c : Choice) :
    (entries : List (Scalar × Value)) → decodeItems (restyle c entries) = decodeItems entries
  | [] => rfl
  | (key, v) :: rest => by
    rw [restyle, decodeItems, decodeItems, decodeItems_restyle c rest]
    by_cases here : key = .text "items"
    · rw [if_pos here, isGiven_restyleForm, decode_restyleForm _ _ v]
    · have other : ¬ key.same (.text "items") = true :=
        fun same => here (Entries.same_text_iff.1 same)
      rw [if_neg other, if_neg other]
termination_by structural entries => entries

/-- The parts of an object are read alike in every style. -/
theorem decodeShape_restyle (c : Choice) :
    (entries : List (Scalar × Value)) → decodeShape (restyle c entries) = decodeShape entries
  | [] => rfl
  | (key, v) :: rest => by
    by_cases here : key = .text "shape"
    · obtain rfl := here
      rw [restyle, decodeShape_cons_shape, decodeShape_cons_shape, if_neg (by simp), if_pos rfl,
        readShape_restyle _ v]
    · have other : ¬ key.same (.text "shape") = true :=
        fun same => here (Entries.same_text_iff.1 same)
      rw [restyle, decodeShape.eq_def, decodeShape.eq_def (_ :: rest)]
      dsimp only
      rw [if_neg other, if_neg other, decodeShape_restyle c rest]
termination_by structural entries => entries

/-- The shape of an object is read alike as a mapping and as a list. -/
theorem readShape_restyle (c : Choice) :
    (v : Value) → readShape (restyleShape c v) = readShape v
  | .scalar _ => rfl
  | .map parts => by
    have same := decodeNamed_restyleNamed c 0 parts
    rw [decodeNamed_eq_mapM, decodeNamed_eq_mapM] at same
    rw [restyleShape, readShape_place, readShape_map, readShape_map]
    exact congrArg (some <$> ·) same
  | .list [] => rfl
  | .list (part :: parts) => by
    rw [restyleShape, restyleAll, readShape_list, readShape_list, List.mapM_cons, List.mapM_cons,
      ← decodeAll_eq_mapM, ← decodeAll_eq_mapM, decode_restyleForm _ _ part,
      decodeAll_restyleAll c 1 parts]
termination_by structural v => v

/-- Fields under names are read alike in every style. -/
theorem decodeNamed_restyleNamed (c : Choice) (position : Nat) :
    (parts : List (Scalar × Value)) →
    decodeNamed (restyleNamed c position parts) = decodeNamed parts
  | [] => rfl
  | (name, v) :: rest => by
    rw [restyleNamed, decodeNamed, decodeNamed, decode_restyleForm _ _ v,
      decodeNamed_restyleNamed c (position + 1) rest]
termination_by structural parts => parts

/-- The fields of a list are read alike in every style. -/
theorem decodeAll_restyleAll (c : Choice) (position : Nat) :
    (parts : List Value) → decodeAll (restyleAll c position parts) = decodeAll parts
  | [] => rfl
  | v :: rest => by
    rw [restyleAll, decodeAll, decodeAll, decode_restyleForm _ _ v,
      decodeAll_restyleAll c (position + 1) rest]
termination_by structural parts => parts

end

end Field

/-! ### Procedures -/

/-- An argument that carries its name is read as the entry from which it was made. -/
lemma Argument.decode_named (entry : Scalar × Value) (form : Value)
    (isForm : named? (some "type") entry = some form) :
    Argument.decode form = Argument.decodeEntry entry := by
  unfold named? at isForm
  split at isForm
  · rename_i name entries
    split_ifs at isForm with nameable
    obtain rfl := Option.some.inj isForm
    simp only [Bool.and_eq_true, decide_eq_true_eq] at nameable
    obtain ⟨⟨_, absent⟩, distinct⟩ := nameable
    have distinct : Entries.Distinct ([(.text "name", .scalar name)] ++ entries) :=
      List.pairwise_cons.2 ⟨fun entry mem =>
        Entries.not_same_of_find?_isNone absent entry mem, distinct⟩
    rw [Argument.decodeEntry, Entries.foldl_put_of_distinct distinct]
    rfl
  · rename_i name s
    split_ifs at isForm with given
    obtain rfl := Option.some.inj isForm
    rfl
  · cases isForm

namespace Procedure

/-- The entries of a procedure with its arguments as a list, if that is chosen. -/
def restyle (c : Choice) (entries : Entries) : Entries :=
  entries.mapValues fun key v =>
    if key = .text "args" then
      restyleSection (some "type") (fun _ entries => entries) (c.after (.key "args")) v
    else v

lemma find?_restyle (c : Choice) {key : String} (args : key ≠ "args") (entries : Entries) :
    Entries.find? (.text key) (restyle c entries) = Entries.find? (.text key) entries := by
  simp [restyle, args]

lemma decodeArgs_map (entries : Entries) : decodeArgs (.map entries) =
    readSection Argument.decodeEntry Argument.decode
      (((Entries.find? (.text "args") entries).getD .null).orElse (.list [])) := by
  change (match ((Entries.find? (.text "args") entries).getD .null).orElse (.list []) with
    | .map entries => _
    | written => _) = _
  cases ((Entries.find? (.text "args") entries).getD .null).orElse (.list []) <;> rfl

/-- The arguments of a procedure are read alike in every style. -/
lemma decodeArgs_restyle (c : Choice) (entries : Entries) :
    decodeArgs (.map (restyle c entries)) = decodeArgs (.map entries) := by
  have same : ∀ v : Value, v.onEntries (fun entries => entries) = v := by
    intro v
    cases v <;> rfl
  rw [decodeArgs_map, decodeArgs_map, restyle, Entries.find?_mapValues]
  simp only [if_true, getD_map_restyleSection]
  exact readSection_restyle Argument.decode_named
    (fun _ name v => by rw [same]) (fun _ v => by rw [same]) _ _

lemma decode_map_restyle (c : Choice) (name : Value) (entries : Entries) :
    decode name (.map (restyle c entries)) = decode name (.map entries) := by
  unfold decode
  rw [decodeArgs_restyle]
  simp [Value.entry, Value.entryOr, find?_restyle]

lemma readsName : ReadsName decode := by
  intro name entries given
  have named : Value.isGiven (.scalar name) = true := given
  simp [decode, decodeArgs, Value.entry, Value.entryOr, Value.optional, Entries.find?, Scalar.same,
    named]

end Procedure

/-! ### Relations -/

lemma Relation.readsName : ReadsName decode := by
  intro name entries given
  have named : Value.isGiven (.scalar name) = true := given
  simp [decode, decodeKind, Value.entry, Value.entryOr, Value.optional, Entries.find?, Scalar.same,
    named]

end EntityModel
