import EntityModel.Settings
import EntityModel.Proofs.Outcome
import EntityModel.Proofs.Value.Record

/-!
# Settings

Settings say the same in whatever order they are given, and of the variables of an environment only
those count that are named after a setting. The checks let through exactly the settings that make
sense, and a refusal shows what was written. Options can be made of any settings.
-/

namespace EntityModel

open Outcome

/-! ### Names of levels and formats -/

namespace LogLevel

lemma name_injective : Function.Injective name := fun a b => by
  cases a <;> cases b <;> decide

/-- A level is known by its name in any case. -/
lemma ofName?_eq_some_iff {written : String} {l : LogLevel} :
    ofName? written = some l ↔ Text.uppercase written = l.name := by
  constructor
  · intro found
    have same : (l.name == Text.uppercase written) = true :=
      List.find?_some (p := fun k : LogLevel => k.name == Text.uppercase written) found
    exact (beq_iff_eq.1 same).symm
  · intro named
    have unique (k : LogLevel) : (k.name == Text.uppercase written) = decide (k = l) := by
      rw [named, Bool.eq_iff_iff, beq_iff_eq, decide_eq_true_iff]
      exact name_injective.eq_iff
    simp only [ofName?, unique]
    cases l <;> rfl

end LogLevel

namespace LogFormat

lemma name_injective : Function.Injective name := fun a b => by
  cases a <;> cases b <;> decide

/-- A format is known by its name as it is spelt. -/
lemma ofName?_eq_some_iff {written : String} {f : LogFormat} :
    ofName? written = some f ↔ written = f.name := by
  constructor
  · intro found
    have same : (f.name == written) = true :=
      List.find?_some (p := fun k : LogFormat => k.name == written) found
    exact (beq_iff_eq.1 same).symm
  · rintro rfl
    cases f <;> decide

end LogFormat

namespace Settings

variable {s : Settings} {environment : List (String × String)} {name name' : String} {v v' : Value}

/-! ### Settings by name -/

/-- A value of the wrong type is the only fault of a setting that is read. -/
def wrongType (fault : Fault) : Prop := fault = .invalidSettings

lemma readText_within (v : Value) : Within wrongType (readText v) := by
  unfold readText
  split
  · trivial
  · rfl

lemma readTexts_within (v : Value) : Within wrongType (readTexts v) := by
  unfold readTexts
  split
  · refine (Ensures.mapM (R := fun _ _ => True) fun entry _ => ?_).within
    exact (readText_within _).bind fun _ _ => (readText_within _).bind fun _ _ => trivial
  · rfl

def change (name : String) (v : Value) : Outcome (Settings → Settings) :=
  match name with
  | "api_prefix" => (fun written s => { s with apiPrefix := written }) <$> readText v
  | "pluralization" => (fun texts s => { s with pluralization := texts }) <$> readTexts v
  | "table_map" => (fun texts s => { s with tables := texts }) <$> readTexts v
  | "log_level" => (fun written s => { s with logLevel := written }) <$> readText v
  | "log_format" => (fun written s => { s with logFormat := written }) <$> readText v
  | _ => .error .invalidSettings

lemma set_eq (s : Settings) (name : String) (v : Value) :
    s.set name v = (fun f => f s) <$> change name v := by
  fun_cases change name v with
  | case1 | case4 | case5 => simp only [set]; cases readText v <;> rfl
  | case2 | case3 => simp only [set]; cases readTexts v <;> rfl
  | case6 => simp only [set]; rfl

lemma change_within (name : String) (v : Value) : Within wrongType (change name v) := by
  unfold change
  split <;> first
    | exact (readText_within v).map_within
    | exact (readTexts_within v).map_within
    | rfl

/-- Different settings do not get in each other's way. -/
lemma change_comm {f g : Settings → Settings} (h : name ≠ name') (hf : change name v = .ok f)
    (hg : change name' v' = .ok g) (s : Settings) : g (f s) = f (g s) := by
  unfold change at hf hg
  split at hf <;> split at hg <;> first
    | exact absurd rfl h
    | contradiction
    | (obtain ⟨_, -, rfl⟩ := map_eq_ok_iff.1 hf
       obtain ⟨_, -, rfl⟩ := map_eq_ok_iff.1 hg
       rfl)

/-- Different settings can be given in either order. -/
lemma set_comm (s : Settings) (h : name ≠ name') (v v' : Value) :
    (s.set name v >>= fun t => t.set name' v') = (s.set name' v' >>= fun t => t.set name v) := by
  have fault := change_within name v
  have fault' := change_within name' v'
  simp only [set_eq]
  cases hf : change name v with
  | error e =>
    cases hg : change name' v' with
    | error e' =>
      rw [(fault.of_eq_error hf : e = _), (fault'.of_eq_error hg : e' = _)]
    | ok g => rfl
  | ok f =>
    cases hg : change name' v' with
    | error e' => rfl
    | ok g => exact congrArg Except.ok (change_comm h hf hg s)

/-- In whatever order different settings are given, they say the same. -/
theorem ofValues_perm {given given' : List (String × Value)} (h : given.Perm given')
    (apart : (given.map Prod.fst).Nodup) : ofValues given = ofValues given' := by
  unfold ofValues
  generalize ({} : Settings) = s
  induction h generalizing s with
  | nil => rfl
  | cons entry _ ih =>
    rw [List.map_cons, List.nodup_cons] at apart
    rw [List.foldlM_cons, List.foldlM_cons]
    exact congrArg _ (funext fun t => ih apart.2 t)
  | swap x y rest =>
    have different : y.1 ≠ x.1 := fun same => by simp [same] at apart
    simp only [List.foldlM_cons, ← bind_assoc]
    rw [set_comm s different]
  | trans first _ ih ih' =>
    exact (ih apart s).trans (ih' ((first.map Prod.fst).nodup_iff.1 apart) s)

lemma readTexts_textMap (entries : List (String × String)) :
    readTexts (textMap entries) = .ok entries := by
  simp only [textMap, Value.record, List.map_map, readTexts]
  conv_rhs => rw [← List.map_id entries]
  exact mapM_map_eq_ok entries fun entry _ => rfl

/-- Settings are read back from their document form. -/
theorem exists_encode_ofValues (s : Settings) :
    ∃ given, s.encode = .record given ∧ ofValues given = .ok s := by
  refine ⟨_, rfl, ?_⟩
  simp only [ofValues, List.foldlM_cons, List.foldlM_nil, set, readText, readTexts_textMap]
  rfl

/-! ### Settings of an environment -/

/-- Whether a variable is named after a setting, in any case. -/
def isSetting (entry : String × String) : Bool :=
  names.any fun name => Text.lowercase entry.1 == variableStart ++ name

/-- A later variable goes before the earlier ones of its setting. -/
lemma findVariable_append (environment later : List (String × String)) (name : String) :
    findVariable (environment ++ later) name =
      (findVariable later name).or (findVariable environment name) := by
  unfold findVariable
  rw [List.reverse_append, List.find?_append, Option.map_or]

/-- A setting is found in the variables for settings as it is in all of them. -/
lemma findVariable_filter (environment : List (String × String)) (h : name ∈ names) :
    findVariable (environment.filter isSetting) name = findVariable environment name := by
  unfold findVariable
  rw [← List.filter_reverse, List.find?_filter]
  congr 2
  funext entry
  rw [Bool.decide_and, Bool.decide_coe, Bool.decide_coe, Bool.and_eq_right_iff_imp]
  intro named
  exact List.any_eq_true.2 ⟨name, h, named⟩

/-- Environments in which each setting has the same variable give the same settings. -/
lemma ofEnvironment_congr {environment' : List (String × String)}
    (h : ∀ name ∈ names, findVariable environment name = findVariable environment' name) :
    ofEnvironment environment = ofEnvironment environment' := by
  simp only [names, List.forall_mem_cons] at h
  simp only [ofEnvironment, names, List.filterMapM_cons, List.filterMapM_nil, h]

/-- Variables that are not named after a setting do not count. -/
theorem ofEnvironment_filter (environment : List (String × String)) :
    ofEnvironment (environment.filter isSetting) = ofEnvironment environment :=
  ofEnvironment_congr fun _ h => findVariable_filter environment h

/-! ### Checks -/

/-- The settings make sense, and this is what they say about the log. -/
structure Allow (s : Settings) (l : Logging) : Prop where
  apiPrefix : s.apiPrefix = "" ∨ s.apiPrefix.toList.head? = some '/'
  level : Text.uppercase s.logLevel = l.level.name
  format : s.logFormat = l.format.name
  tables : ∀ entry ∈ s.tables, entry.2 ≠ ""

/-- What is wrong with settings that are refused. -/
inductive Complaint (s : Settings) : Refusal → Prop
  | apiPrefix (notEmpty : s.apiPrefix ≠ "") (noSlash : s.apiPrefix.toList.head? ≠ some '/') :
    Complaint s (.apiPrefix s.apiPrefix)
  | logLevel (unknown : ∀ level : LogLevel, Text.uppercase s.logLevel ≠ level.name) :
    Complaint s (.logLevel s.logLevel (LogLevel.all.map LogLevel.name))
  | logFormat (unknown : ∀ format : LogFormat, s.logFormat ≠ format.name) :
    Complaint s (.logFormat s.logFormat)
  | emptyTable (entity : String) (mem : (entity, "") ∈ s.tables) :
    Complaint s (.emptyTable entity)

/-- Settings about which there is something to complain do not make sense. -/
lemma Complaint.not_allow {refusal : Refusal} (h : s.Complaint refusal) (l : Logging) :
    ¬ s.Allow l := by
  intro allow
  cases h with
  | apiPrefix notEmpty noSlash => exact allow.apiPrefix.elim notEmpty noSlash
  | logLevel unknown => exact unknown _ allow.level
  | logFormat unknown => exact unknown _ allow.format
  | emptyTable entity mem => exact allow.tables _ mem rfl

lemma emptyTable?_eq_none_iff : s.emptyTable? = none ↔ ∀ entry ∈ s.tables, entry.2 ≠ "" := by
  simp [emptyTable?]

lemma mem_of_emptyTable? {entity : String} (h : s.emptyTable? = some entity) :
    (entity, "") ∈ s.tables := by
  obtain ⟨entry, found, rfl⟩ := Option.map_eq_some_iff.1 h
  have isEmpty := List.find?_some found
  have mem := List.mem_of_find?_eq_some found
  rwa [← String.isEmpty_iff.1 isEmpty]

/-- Settings that pass the checks make sense, and others are refused for a reason. -/
lemma checked_ensures (s : Settings) :
    Ensures (fun fault => ∃ refusal, fault = .refused refusal ∧ s.Complaint refusal) s.Allow
      s.checked := by
  by_cases prefixed : s.apiPrefix = "" ∨ s.apiPrefix.toList.head? = some '/'
  case neg =>
    obtain ⟨notEmpty, noSlash⟩ := not_or.1 prefixed
    have wrong : (!s.apiPrefix.isEmpty && s.apiPrefix.toList.head? != some '/') = true := by
      simp [notEmpty, noSlash]
    rw [checked, if_pos wrong]
    exact ⟨_, rfl, .apiPrefix notEmpty noSlash⟩
  have right : ¬ (!s.apiPrefix.isEmpty && s.apiPrefix.toList.head? != some '/') = true := by
    simpa [← or_iff_not_imp_left] using prefixed
  rw [checked, if_neg right]
  cases level : LogLevel.ofName? s.logLevel with
  | none =>
    refine ⟨_, rfl, .logLevel fun l named => ?_⟩
    rw [LogLevel.ofName?_eq_some_iff.2 named] at level
    cases level
  | some l =>
    cases format : LogFormat.ofName? s.logFormat with
    | none =>
      refine ⟨_, rfl, .logFormat fun f named => ?_⟩
      rw [LogFormat.ofName?_eq_some_iff.2 named] at format
      cases format
    | some f =>
      cases table : s.emptyTable? with
      | some entity => exact ⟨_, rfl, .emptyTable entity (mem_of_emptyTable? table)⟩
      | none =>
        exact ⟨prefixed, LogLevel.ofName?_eq_some_iff.1 level,
          LogFormat.ofName?_eq_some_iff.1 format, emptyTable?_eq_none_iff.1 table⟩

/-- What settings say about the log does not depend on anything else. -/
lemma Allow.unique {l l' : Logging} (h : s.Allow l) (h' : s.Allow l') : l = l' := by
  obtain ⟨level, format⟩ := l
  obtain ⟨level', format'⟩ := l'
  congr
  · exact LogLevel.name_injective (h.level.symm.trans h'.level)
  · exact LogFormat.name_injective (h.format.symm.trans h'.format)

/-- Exactly the settings that make sense pass the checks. -/
theorem checked_eq_ok_iff {l : Logging} : s.checked = .ok l ↔ s.Allow l := by
  refine ⟨s.checked_ensures.of_eq_ok, fun allow => ?_⟩
  cases result : s.checked with
  | ok l' => rw [allow.unique (s.checked_ensures.of_eq_ok result)]
  | error fault =>
    obtain ⟨_, -, complaint⟩ := s.checked_ensures.of_eq_error result
    exact absurd allow (complaint.not_allow l)

/-- Settings that are refused are refused for what they say. -/
theorem exists_complaint_of_checked {fault : Fault} (h : s.checked = .error fault) :
    ∃ refusal, fault = .refused refusal ∧ s.Complaint refusal :=
  s.checked_ensures.of_eq_error h

example : ({} : Settings).checked = .ok ⟨.info, .text⟩ := rfl

/-! ### Options of runs -/

/-- The plurals of settings are put into lowercase, and a later one goes before an earlier. -/
lemma readPlurals_textMap (entries : List (String × String)) :
    Options.readPlurals (textMap entries) = .ok
      ((entries.map fun entry => (Text.lowercase entry.1, Text.lowercase entry.2)).foldl
        (fun plurals pair => Options.putPlural pair.1 pair.2 plurals) []) := by
  refine bind_eq_ok_iff.2 ⟨_, rfl, bind_eq_ok_iff.2 ⟨_, ?_, rfl⟩⟩
  rw [List.map_map]
  exact mapM_map_eq_ok entries fun entry _ => rfl

lemma toEntries_textMap (entries : List (String × String)) :
    ((textMap entries).orElse (.map [])).toEntries =
      .ok (entries.map fun entry => (.text entry.1, .text entry.2)) := by
  simp only [textMap, Value.record, List.map_map]
  cases entries <;> rfl

/-- Options can be made of any settings. -/
theorem exists_options (s : Settings) : ∃ plurals, s.options = .ok {
    pluralization := plurals
    tables := s.tables.map fun entry => (.text entry.1, .text entry.2)
    apiPrefix := Options.trimSlashes s.apiPrefix } :=
  ⟨_, bind_eq_ok_iff.2 ⟨_, readPlurals_textMap _,
    bind_eq_ok_iff.2 ⟨_, toEntries_textMap _, rfl⟩⟩⟩

/-- In runs under settings an entity has the table that the settings give it. -/
theorem tableFor_of_options {o : Options} (h : s.options = .ok o) (entity : String) :
    o.tableFor entity = ((s.tables.lookup entity).map Value.text).getD .null := by
  obtain ⟨plurals, made⟩ := s.exists_options
  cases made.symm.trans h
  have found (entries : List (String × String)) :
      Entries.find? (.text entity) (entries.map fun entry => (.text entry.1, .text entry.2)) =
        (entries.lookup entity).map .text := by
    induction entries with
    | nil => rfl
    | cons entry rest ih =>
      obtain ⟨k, v⟩ := entry
      rw [List.map_cons, Entries.find?, ih, List.lookup_cons, Scalar.same, BEq.comm]
      cases entity == k <;> rfl
  rw [Options.tableFor, found]

/-- In runs under settings that make sense no entity has a table without a name. -/
theorem tableFor_ne_empty {o : Options} {l : Logging} (allow : s.Allow l) (h : s.options = .ok o)
    (entity : String) : o.tableFor entity ≠ .text "" := by
  rw [tableFor_of_options h]
  cases found : s.tables.lookup entity with
  | none => nofun
  | some table =>
    intro same
    obtain ⟨before, after, split, -⟩ := List.lookup_eq_some_iff.1 found
    have mem : (entity, table) ∈ s.tables := by simp [split]
    exact allow.tables _ mem (by simpa using same)

/-- The path of runs under settings does not end in a slash. -/
theorem getLast?_apiPrefix {o : Options} (h : s.options = .ok o) :
    o.apiPrefix.toList.getLast? ≠ some '/' := by
  obtain ⟨plurals, made⟩ := s.exists_options
  cases made.symm.trans h
  rw [Options.trimSlashes, String.toList_ofList, List.getLast?_reverse]
  intro slash
  have := List.head?_dropWhile_not (· == '/') s.apiPrefix.toList.reverse
  simp [slash] at this

end Settings

end EntityModel
