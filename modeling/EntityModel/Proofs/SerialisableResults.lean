import EntityModel.Declaration.Text
import EntityModel.Proofs.Analysis.HandedOn

/-!
# Results that can be written as JSON

Whether an accepted result can be written in a layout is decided by the values that its entities
hand on unread: no mapping in them may have a date for a key, and where keys are sorted the keys of
each must compare with one another (`AnalysisResult.exists_json_and_fingerprint_iff`). A document
may hold other mappings in its metadata and its defaults, so not every result can be written.

Values are finite trees of scalars, lists and mappings. Bytes, sets and values that contain
themselves are none of them, and nothing is said of declarations that would hold one.
-/

namespace EntityModel

open Outcome

variable {layout : Json.Layout} {es : List Entity} {options : Options} {r : AnalysisResult}
  {d : Directory}

/-! ### Directories -/

namespace Directory

lemma Built.fits_tableFor (known : d.Built es options) {name : String} (mem : name ∈ d.names) :
    (d.tableFor name).Fits layout ↔ (options.tableFor name).Fits layout := by
  rw [known.tabled.tableFor, if_pos mem, ownTable, known.options]
  unfold Value.orElse
  split_ifs with given
  · rfl
  · simp [Value.fits_of_not_isGiven (Bool.not_eq_true _ ▸ given)]

/-- What an entity of the directory hands on, with its table. -/
lemma Built.fits_entry_iff (known : d.Built es options) {entry : String × Entity}
    (mem : entry ∈ d.entities) : AllFit layout (d.tableFor entry.1 :: entry.2.handedOn) ↔
      AllFit layout (entry.2.handedOn ++ options.handedOn entry.2) := by
  have table : options.handedOn entry.2 = [options.tableFor entry.1] := by
    rw [Options.handedOn, known.lists.named entry mem]
    rfl
  rw [AllFit.cons_iff, AllFit.append_iff, table, known.fits_tableFor (List.mem_map_of_mem mem)]
  simp [and_comm]

/-- A directory fits a layout just where its tables and all that is handed on do. -/
lemma Built.fits_iff (known : d.Built es options) :
    d.Fits layout ↔
    ∀ entry ∈ d.entities, AllFit layout (d.tableFor entry.1 :: entry.2.handedOn) := by
  constructor
  · intro fits entry mem
    exact AllFit.cons_iff.2 ⟨fits.tables entry.1, fits.entities entry mem⟩
  · intro all
    refine ⟨fun entry mem => (AllFit.cons_iff.1 (all entry mem)).2, fun name => ?_⟩
    by_cases isName : name ∈ d.names
    · obtain ⟨entry, mem, rfl⟩ := List.mem_map.1 isName
      exact (AllFit.cons_iff.1 (all entry mem)).1
    · rw [known.tabled.tableFor, if_neg isName]
      exact .scalar

lemma Built.forall_fits_iff (known : d.Built es options) :
    d.Fits layout ↔ ∀ e ∈ es, AllFit layout (e.handedOn ++ options.handedOn e) := by
  rw [known.fits_iff, ← known.lists.listed, List.forall_mem_map]
  exact forall₂_congr fun entry mem => known.fits_entry_iff mem

end Directory

/-! ### Results -/

namespace AnalysisResult

variable {outs : List (Schema × List Diagnostic)}

/-- The analysis of each entity hands on what the entity does. -/
lemma Assembles.carries (h : Assembles d outs r) :
    List.Forall₂ (fun entry out => Carries layout d (d.tableFor entry.1 :: entry.2.handedOn)
      [out.1.encode] out.2) d.entities outs := by
  refine h.analyzed.imp fun entry out ran => ?_
  obtain ⟨_, _, _, made, same⟩ := Schema.exists_madeFrom ran
  exact same ▸ made.carries

/-- The schemas of a result have texts just if what the directory hands on has. -/
lemma Assembles.fits_schemas_iff (h : Assembles d outs r) (known : d.Built es options) :
    AllFit layout (r.schemas.map Schema.encode) ↔ d.Fits layout := by
  have schemas : AllFit layout (r.schemas.map Schema.encode) ↔
      ∀ out ∈ outs, out.1.encode.Fits layout := by
    simp only [AllFit.map_iff, h.perm.mem_iff, List.forall_mem_map]
  rw [schemas]
  constructor
  · intro all
    refine known.fits_iff.2 fun entry mem => ?_
    obtain ⟨out, isOut, carries⟩ := exists_of_mem_left h.carries mem
    exact carries.only (by simpa using all out isOut)
  · intro fits out mem
    obtain ⟨entry, isEntry, carries⟩ := exists_of_mem_right h.carries mem
    simpa using (carries.fits fits (known.fits_iff.1 fits entry isEntry)).1

/-- Where the schemas have texts so have the diagnostics. -/
lemma Assembles.fits_diagnostics (h : Assembles d outs r) (known : d.Built es options)
    (fits : d.Fits layout) : AllFit layout (r.diagnostics.map Diagnostic.encode) := by
  rw [AllFit.map_iff]
  intro x mem
  rcases h.dropped x mem with own | ⟨edge, rfl⟩
  · obtain ⟨out, isOut, isOwn⟩ := List.mem_flatMap.1 own
    obtain ⟨entry, isEntry, carries⟩ := exists_of_mem_right h.carries isOut
    exact AllFit.map_iff.1 (carries.fits fits (known.fits_iff.1 fits entry isEntry)).2 x isOwn
  · simp [Diagnostic.fits_encode_iff, CreationOrder.circular]

/-- A result can be written just if all that its entities hand on can be. -/
lemma exists_json_iff (ok : analyze es options = .ok r) (layout : Json.Layout) :
    (∃ text, r.json layout = .ok text) ↔
      ∀ e ∈ es, AllFit layout (e.handedOn ++ options.handedOn e) := by
  obtain ⟨d, outs, -, known, assembles⟩ := assembles_of_analyze ok
  have whole : r.encode.Fits layout ↔ d.Fits layout := by
    rw [← assembles.fits_schemas_iff known]
    simp only [encode, Value.fits_record, FitEntries.cons_iff, Value.fits_list, FitEntries.nil,
      and_true]
    exact and_iff_left_of_imp fun schemas =>
      assembles.fits_diagnostics known ((assembles.fits_schemas_iff known).1 schemas)
  exact (Json.exists_write_iff layout 0 r.encode).trans (whole.trans known.forall_fits_iff)

/-- A result has a fingerprint just if all that its entities hand on can be written in order. -/
lemma exists_fingerprint_iff (ok : analyze es options = .ok r) :
    (∃ digest, r.fingerprint = .ok digest) ↔
      ∀ e ∈ es, AllFit .canonical (e.handedOn ++ options.handedOn e) := by
  obtain ⟨d, outs, -, known, assembles⟩ := assembles_of_analyze ok
  have digest : (∃ digest, r.fingerprint = .ok digest) ↔ ∃ text, r.canonicalText = .ok text := by
    rw [fingerprint, exists_bind_eq_ok_iff]
    exact exists_congr fun text => and_iff_left ⟨_, rfl⟩
  rw [digest]
  refine (Json.exists_write_iff .canonical 0 _).trans ?_
  rw [← Value.Fits, Value.fits_list, assembles.fits_schemas_iff known]
  exact known.forall_fits_iff

/-- An accepted result can be written as JSON just if no mapping in the values that its entities
hand on has a date for a key, and has a fingerprint just if any two keys of each such mapping
compare as well. -/
theorem exists_json_and_fingerprint_iff (ok : analyze es options = .ok r) :
    (∀ layout, (∃ text, r.json layout = .ok text) ↔
      ∀ e ∈ es, ∀ v ∈ e.handedOn ++ options.handedOn e, v.Keyed (Json.Allows layout)) ∧
    ((∃ digest, r.fingerprint = .ok digest) ↔
      ∀ e ∈ es, ∀ v ∈ e.handedOn ++ options.handedOn e, v.Keyed (Json.Allows .canonical)) :=
  ⟨exists_json_iff ok, exists_fingerprint_iff ok⟩

/-- An entity with limits by number in its metadata. -/
def limited : Entity where
  name := "user"
  metadata := [(.text "limits", .map [(.int 1, "low"), (.int 2, "high")])]

lemma names_limited : (analyze [limited] {}).toOption.map names = some ["user"] := by decide +kernel

/-- Keys of one kind can be written, with sorted keys too. -/
theorem exists_serialised_limited : ∃ r, analyze [limited] {} = .ok r ∧
    (∃ text, r.json (.indented 2) = .ok text) ∧ ∃ digest, r.fingerprint = .ok digest := by
  obtain ⟨r, ok, -⟩ := exists_eq_ok_of_toOption names_limited
  have allows (layout : Json.Layout) : Json.Allows layout [.int 1, .int 2] := by
    refine ⟨by simp, fun _ => ?_⟩
    simp [Value.comparable]
  have fits (layout : Json.Layout) :
      ∀ e ∈ [limited], AllFit layout (e.handedOn ++ Options.handedOn {} e) := by
    have noTable : Options.tableFor {} "user" = .null := rfl
    have outer : Json.Allows layout [.text "limits"] := Json.allows_texts ["limits"]
    simp [limited, Entity.handedOn, Field.allHandedOn, Options.handedOn, Value.text?, allows,
      noTable, outer]
  obtain ⟨json, fingerprint⟩ := exists_json_and_fingerprint_iff ok
  exact ⟨r, ok, (json _).2 (fits _), fingerprint.2 (fits _)⟩

/-- No result in which the metadata of an entity has a date for a key can be written or be
fingerprinted. -/
theorem unserialisable_of_moment (ok : analyze es options = .ok r) {e : Entity} (mem : e ∈ es)
    {m : Moment} (isKey : .moment m ∈ e.metadata.map (·.1)) :
    (∀ layout, ¬ ∃ text, r.json layout = .ok text) ∧ ¬ ∃ digest, r.fingerprint = .ok digest := by
  have dated (layout : Json.Layout) :
      ¬ ∀ e ∈ es, AllFit layout (e.handedOn ++ options.handedOn e) := by
    intro all
    have inMetadata : (Value.map e.metadata).Fits layout := all e mem _ (by simp [Entity.handedOn])
    exact (Value.keyed_map.1 inMetadata).1.shown m isKey
  exact ⟨fun layout => mt (exists_json_iff ok layout).1 (dated layout),
    mt (exists_fingerprint_iff ok).1 (dated _)⟩

/-- An entity with a date for a key in its metadata. -/
def dated : Entity where
  name := "user"
  metadata := [(.moment ⟨2020, 1, 1, none⟩, "a")]

lemma names_dated : (analyze [dated] {}).toOption.map names = some ["user"] := by decide +kernel

/-- The dated entity is accepted. Its result can neither be written nor be fingerprinted. -/
lemma exists_analyze_dated : ∃ r, analyze [dated] {} = .ok r ∧
    (∀ layout, ¬ ∃ text, r.json layout = .ok text) ∧ ¬ ∃ digest, r.fingerprint = .ok digest := by
  obtain ⟨r, ok, -⟩ := exists_eq_ok_of_toOption names_dated
  exact ⟨r, ok, unserialisable_of_moment ok (List.mem_singleton_self dated)
    (List.mem_singleton_self _)⟩

def datedText : String := "entities:\n- name: user\n  metadata:\n    2020-01-01: a\n"

def datedTokens : List Yaml.Token :=
  [.blockMappingStart, .key, .scalar "entities" true, .value, .item,
    .blockMappingStart, .key, .scalar "name" true, .value, .scalar "user" true,
    .key, .scalar "metadata" true, .value,
    .blockMappingStart, .key, .scalar "2020-01-01" true, .value, .scalar "a" true,
    .blockEnd, .blockEnd, .blockEnd]

def datedNode : Yaml.Node :=
  .map .map [(.scalar .text "entities", .list .list [
    .map .map [(.scalar .text "name", .scalar .text "user"),
      (.scalar .text "metadata", .map .map [(.scalar .moment "2020-01-01", .scalar .text "a")])]])]

def datedData : Value :=
  .map [(.text "entities", .list [
    .map [(.text "name", "user"), (.text "metadata", .map dated.metadata)]])]

/-- The document declares the dated entity. Its tokens, its node and its value are computed one from
the other, since values are not compared by evaluation. -/
lemma ofYaml_datedText : Document.ofYaml datedText = .ok [dated] := by
  have scanned : (Yaml.Token.ofText datedText).toOption = some datedTokens := by decide +kernel
  have parsed : Yaml.Node.ofTokens? datedTokens = some (some datedNode) := by rfl
  have constructed : datedNode.value = .ok datedData := by rfl
  have read : Yaml.read datedText = .ok datedData := by
    unfold Yaml.read
    cases tokens : Yaml.Token.ofText datedText with
    | error defect => simp [tokens, Except.toOption] at scanned
    | ok found =>
      rw [tokens] at scanned
      obtain rfl := Option.some.inj scanned
      dsimp only [bind, Except.bind]
      rw [parsed]
      exact constructed
  unfold Document.ofYaml
  rw [read]
  rfl

/-- In a document, too, a date that is a key can neither be written nor be fingerprinted. -/
theorem exists_dated_unserialisable : ∃ r,
    Document.ofYaml datedText = .ok [dated] ∧ analyze [dated] {} = .ok r ∧
    (∀ layout, ¬ ∃ text, r.json layout = .ok text) ∧ ¬ ∃ digest, r.fingerprint = .ok digest := by
  obtain ⟨r, ok, unserialisable⟩ := exists_analyze_dated
  exact ⟨r, ofYaml_datedText, ok, unserialisable⟩

end AnalysisResult

end EntityModel
