import EntityModel.Proofs.Analysis.Places
import EntityModel.Proofs.Value.Amount

/-!
# Ranges in sample data hints

The hint of a field is written out of pieces: words, and ranges that are drawn from. A range has the
declared bounds of a field, and where one of them is missing a number that stands in for it
(`SampleHint.ofField_eq`).
-/

namespace EntityModel

open Outcome

namespace SampleHint

/-! ### Pieces -/

/-- What is measured by a range: a number itself, or the characters of a text. -/
inductive Measure where
  | value | chars

/-- What stands before the lower bound. -/
def Measure.lowMark : Measure → String
  | value => "min_value="
  | chars => "min_chars="

/-- What stands before the upper bound. -/
def Measure.highMark : Measure → String
  | value => ", max_value="
  | chars => ", max_chars="

/-- A range between two bounds, each with the number that stands in for it if it is null. -/
structure Range where
  measure : Measure
  low : Value
  lowest : Nat
  high : Value
  highest : Nat

/-- The two ends of a range as they are written. -/
def Range.text (r : Range) : Outcome String := do
  return r.measure.lowMark ++ (← bound r.low r.lowest) ++ r.measure.highMark ++
    (← bound r.high r.highest)

/-- A piece of an expression. -/
inductive Piece where
  | words (text : String)
  | range (r : Range)

namespace Piece

def text : Piece → Outcome String
  | words text => .ok text
  | range r => r.text

def range? : Piece → Option Range
  | words _ => none
  | range r => some r

end Piece

def render : List Piece → Outcome String
  | [] => .ok ""
  | piece :: rest => do return (← piece.text) ++ (← render rest)

def ranges (ps : List Piece) : List Range := ps.filterMap Piece.range?

variable {ps qs : List Piece} {words : String}

lemma render_words : render (.words words :: ps) = (words ++ ·) <$> render ps := by
  rw [render]
  cases render ps <;> rfl

/-- Pieces are rendered one after the other. -/
lemma render_append : render (ps ++ qs) = do return (← render ps) ++ (← render qs) := by
  induction ps with
  | nil =>
    rw [List.nil_append, render, ok_bind]
    cases render qs with
    | ok text => simp
    | error fault => rfl
  | cons piece rest ih =>
    rw [List.cons_append, render, render, ih]
    cases piece.text with
    | error fault => rfl
    | ok first =>
      cases render rest with
      | error fault => rfl
      | ok text =>
        cases render qs with
        | error fault => rfl
        | ok last => simp [String.append_assoc]

/-- Expressions with the same words between them are written so. -/
lemma render_intercalate (parts : List (List Piece)) :
    render ([.words words].intercalate parts) = words.intercalate <$> parts.mapM render := by
  induction parts with
  | nil => rfl
  | cons first rest ih =>
    cases rest with
    | nil =>
      rw [List.intercalate_singleton, List.mapM_cons]
      cases render first with
      | error fault => rfl
      | ok text => simp [List.mapM_nil]
    | cons second rest =>
      rw [List.intercalate_cons_cons, render_append, render_append, ih,
        List.mapM_cons (a := first)]
      cases render first with
      | error fault => rfl
      | ok text =>
        cases others : (second :: rest).mapM render with
        | error fault => rfl
        | ok texts =>
          cases mapM_eq_ok_iff.1 others with
          | cons => simp [render, Piece.text, String.append_assoc]

/-! ### Pieces of a hint -/

/-- An expression that draws from a range: what stands before the range, and after it. -/
structure Draw where
  before : String
  range : Range
  after : String

def Draw.pieces (d : Draw) : List Piece := [.words d.before, .range d.range, .words d.after]

/-- The draw for a kind within bounds; numbers and whole numbers are drawn without bounds as
well. -/
def drawOfKind? (kind : FieldKind) (low high : Value) : Option Draw :=
  if kind = .integer then some ⟨"faker.pyint(", ⟨.value, low, 1, high, 1000⟩, ")"⟩
  else if kind = .number then
    some ⟨"faker.pyfloat(", ⟨.value, low, 0, high, 1000⟩, ", right_digits=2)"⟩
  else if kind = .string && (low.isGiven || high.isGiven) then
    some ⟨"faker.pystr(", ⟨.chars, low, 1, high, 100⟩, ")"⟩
  else none

/-- The draw for the number of elements of an array. -/
def drawOfLength (low high : Value) : Draw :=
  ⟨" for _ in range(faker.pyint(", ⟨.value, low, 1, high, 5⟩, "))]"⟩

def drawOfPrice : Draw := ⟨"faker.pyfloat(", ⟨.value, .null, 1, .null, 1000⟩, ", right_digits=2)"⟩

/-- The expression that a hint of the author or the name of a field stands for. -/
def fixed? (name : Value) (a : FieldAttributes) (kind : FieldKind) : Option String :=
  (if a.hint.isGiven then ofGiven? a.hint.shown else none).or
    (if ignoresName kind then none else ofName? name.shown)

/-- The draw of a fixed expression: that of prices is the only one with a range. -/
def drawOfFixed? (expression : String) : Option Draw :=
  if expression = "faker.pyfloat(min_value=1, max_value=1000, right_digits=2)"
  then some drawOfPrice
  else none

def plainDraw? (name : Value) (a : FieldAttributes) (kind : FieldKind) : Option Draw :=
  match fixed? name a kind with
  | some expression => drawOfFixed? expression
  | none => drawOfKind? kind (a.constraints.getD {}).min (a.constraints.getD {}).max

/-- The draw for a field of a kind, apart from those for the fields inside it. -/
def draw? (f : Field) (name : Value) (kind : FieldKind) : Option Draw :=
  if kind = .enumeration && !(f.values.getD []).isEmpty then none
  else if kind = .array then
    some (drawOfLength (f.constraints.getD {}).min (f.constraints.getD {}).max)
  else if kind = .object && !(f.shape.getD []).isEmpty then none
  else plainDraw? name f.toFieldAttributes kind

def plainPieces (name : Value) (a : FieldAttributes) (kind : FieldKind) : List Piece :=
  match plainDraw? name a kind with
  | some d => d.pieces
  | none => [.words ((fixed? name a kind).getD (ofKind kind))]

mutual

/-- The pieces of the hint of a field of a kind, whose name is given apart. -/
def pieces : (f : Field) → (name : Value) → (kind : FieldKind) → List Piece
  | ⟨a, items, shape⟩, name, kind =>
    if kind = .enumeration && !(a.values.getD []).isEmpty then
      [.words ("faker.random_element(elements=" ++ Value.quotedSequence (a.values.getD []) ++ ")")]
    else if kind = .array then
      let element := match items with
        | none => [.words "faker.word()"]
        | some item => pieces item (.text "item") (item.kind.getD .string)
      .words "[" :: element ++
        (drawOfLength (a.constraints.getD {}).min (a.constraints.getD {}).max).pieces
    else if kind = .object && !(shape.getD []).isEmpty then
      match shape with
      | some parts =>
        .words "\x7b" :: [.words ", "].intercalate (partPieces parts) ++ [.words "\x7d"]
      | none => []
    else plainPieces name a kind
termination_by structural f => f

def partPieces : List Field → List (List Piece)
  | [] => []
  | part :: rest =>
    (.words (part.name.quoted ++ ": ") :: pieces part part.name (part.kind.getD .string)) ::
      partPieces rest
termination_by structural fs => fs

end

/-- What a draw is written as, where its ends are written. -/
lemma Draw.render_pieces (d : Draw) : render d.pieces = do
    let low ← bound d.range.low d.range.lowest
    let high ← bound d.range.high d.range.highest
    return d.before ++
      (d.range.measure.lowMark ++ (low ++ (d.range.measure.highMark ++ (high ++ d.after)))) := by
  rw [pieces, render_words, render, Piece.text, Range.text, render_words, render]
  cases bound d.range.low d.range.lowest with
  | error fault => rfl
  | ok low =>
    cases bound d.range.high d.range.highest with
    | error fault => rfl
    | ok high => simp [String.append_assoc]

/-- Two ends between words that are written as one with the marks before them. -/
lemma bounds_eq {low high : Value} {lowest highest : Nat}
    {before lowMark highMark after opening : String}
    (opens : opening = before ++ lowMark) :
    (do return opening ++ (← bound low lowest) ++ highMark ++ (← bound high highest) ++ after) =
      (do
        let low ← bound low lowest
        let high ← bound high highest
        return before ++ (lowMark ++ (low ++ (highMark ++ (high ++ after)))) : Outcome String) := by
  subst opens
  simp only [String.append_assoc]

/-- An expression within bounds is rendered from the draw of its kind, if the kind has one. -/
lemma ofBounds_eq (kind : FieldKind) (low high : Value) : ofBounds kind low high =
    match drawOfKind? kind low high with
    | some d => render d.pieces
    | none => .ok (ofKind kind) := by
  unfold ofBounds
  split_ifs with integer number string
  · rw [drawOfKind?, if_pos integer]
    dsimp only
    rw [Draw.render_pieces]
    exact bounds_eq rfl
  · rw [drawOfKind?, if_neg integer, if_pos (by simp_all)]
    dsimp only
    rw [Draw.render_pieces]
    exact bounds_eq rfl
  · obtain ⟨rfl, given⟩ : kind = .string ∧ (low.isGiven || high.isGiven) = true := by
      simpa using string
    rw [drawOfKind?, if_neg (by decide), if_neg (by decide), if_pos string]
    dsimp only
    rw [Draw.render_pieces]
    exact bounds_eq rfl
  · by_cases isNumber : kind = .number
    · -- without bounds a number is drawn between those that stand in for them
      subst isNumber
      have noBounds : low.isNull = true ∧ high.isNull = true := by
        simpa using number
      rw [drawOfKind?, if_neg (by decide), if_pos rfl]
      dsimp only
      rw [Draw.render_pieces]
      simp only [bound, noBounds, if_true]
      rfl
    · rw [drawOfKind?, if_neg integer, if_neg isNumber, if_neg string]
      rfl

lemma render_singleton (words : String) : render [.words words] = .ok words := by
  rw [render_words, render, ok_map, String.append_empty]

/-- A hint of the author counts before the name of the field, and both before its bounds. -/
lemma ofPlain_eq_fixed {name : Value} {a : FieldAttributes} (isText : name.IsText)
    (hint : a.hint.IsTextOrNull) (kind : FieldKind) : ofPlain name a kind =
      match fixed? name a kind with
      | some expression => .ok expression
      | none => ofBounds kind (a.constraints.getD {}).min (a.constraints.getD {}).max := by
  obtain ⟨s, rfl⟩ := isText
  unfold ofPlain fixed?
  dsimp only
  rw [ite_bind_eq]
  have given :
      (if a.hint.isGiven then ofGiven? <$> a.hint.asText else pure none : Outcome (Option String)) =
      .ok (if a.hint.isGiven then ofGiven? a.hint.shown else none) := by
    split_ifs with isGiven
    · obtain ⟨hint, isHint⟩ := hint.isText isGiven
      rw [isHint]
      rfl
    · rfl
  rw [given, ok_bind]
  cases (if a.hint.isGiven then ofGiven? a.hint.shown else none) with
  | some expression => rfl
  | none =>
    cases ignoresName kind with
    | true => rfl
    | false => cases ofName? s <;> rfl

/-- The pieces for a field without parts render to its expression. -/
lemma render_plainPieces {name : Value} {a : FieldAttributes} (isText : name.IsText)
    (hint : a.hint.IsTextOrNull) (kind : FieldKind) :
    render (plainPieces name a kind) = ofPlain name a kind := by
  rw [ofPlain_eq_fixed isText hint, plainPieces, plainDraw?]
  cases fixed? name a kind with
  | some expression =>
    dsimp only
    unfold drawOfFixed?
    split_ifs with price
    · rw [price]
      dsimp only
      rw [Draw.render_pieces]
      rfl
    · exact render_singleton expression
  | none =>
    dsimp only
    rw [ofBounds_eq]
    cases drawOfKind? kind (a.constraints.getD {}).min (a.constraints.getD {}).max with
    | some d => rfl
    | none => exact render_singleton _

/-- An expression that is repeated a number of times that is drawn. -/
lemma repeated_eq {element : Outcome String} (isElement : element = render ps) (low high : Value) :
    (do
      let element ← element
      return "[" ++ element ++ " for _ in range(faker.pyint(min_value=" ++ (← bound low 1) ++
        ", max_value=" ++ (← bound high 5) ++ "))]") =
      render (.words "[" :: ps ++ (drawOfLength low high).pieces) := by
  rw [render_append, render_words, ← isElement, Draw.render_pieces]
  dsimp only [drawOfLength, Measure.lowMark, Measure.highMark]
  cases element with
  | error fault => rfl
  | ok element =>
    have words : " for _ in range(faker.pyint(min_value=" =
        " for _ in range(faker.pyint(" ++ "min_value=" := rfl
    have opens : "[" ++ element ++ " for _ in range(faker.pyint(min_value=" =
        ("[" ++ element ++ " for _ in range(faker.pyint(") ++ "min_value=" := by
      rw [words, String.append_assoc, String.append_assoc, String.append_assoc]
    refine (bounds_eq opens).trans ?_
    cases bound low 1 with
    | error fault => rfl
    | ok low =>
      cases bound high 5 with
      | error fault => rfl
      | ok high => simp [String.append_assoc]

/-- The parts of an object render to their expressions, if each of them does. -/
lemma mapM_render_partPieces {parts : List Field}
    (h : ∀ part ∈ parts, render (pieces part part.name (part.kind.getD .string)) =
      ofField part part.name (part.kind.getD .string)) :
    (partPieces parts).mapM render = ofParts parts := by
  induction parts with
  | nil => rfl
  | cons part rest ih =>
    obtain ⟨first, others⟩ := List.forall_mem_cons.1 h
    rw [partPieces, List.mapM_cons, render_words, first, ih others, ofParts]
    cases ofField part part.name (part.kind.getD .string) with
    | error fault => rfl
    | ok expression => rfl

variable {valid : Value → Prop}

/-- The hint of a field is written out of its pieces. -/
theorem ofField_eq {f : Field} (typed : f.WellTyped valid) {name : Value} (isText : name.IsText)
    (kind : FieldKind) : ofField f name kind = render (pieces f name kind) := by
  induction f using Field.induction_on generalizing name kind with
  | mk a items shape inItems inShape =>
    obtain ⟨attributes, inItem, inParts⟩ := Field.wellTyped_mk.1 typed
    rw [ofField.eq_def, pieces.eq_def]
    dsimp only
    split_ifs with isEnumeration isArray isObject
    · exact (render_singleton _).symm
    · cases items with
      | none => exact repeated_eq (render_singleton _).symm _ _
      | some item =>
        exact repeated_eq (inItems item rfl (inItem item rfl) (Value.isText_text _) _) _ _
    · cases shape with
      | none => simp at isObject
      | some parts =>
        have each : ∀ part ∈ parts, render (pieces part part.name (part.kind.getD .string)) =
            ofField part part.name (part.kind.getD .string) := fun part mem =>
          have typed := inParts parts rfl part mem
          (inShape parts rfl part mem typed typed.attributes.name _).symm
        dsimp only
        rw [render_append, render_words, render_intercalate, mapM_render_partPieces each,
          render_singleton]
        cases ofParts parts with
        | error fault => rfl
        | ok entries => rfl
    · exact (render_plainPieces isText attributes.hint kind).symm

/-! ### Ranges of a hint -/

variable {r : Range}

lemma ranges_append : ranges (ps ++ qs) = ranges ps ++ ranges qs := List.filterMap_append

lemma ranges_words : ranges (.words words :: ps) = ranges ps := rfl

lemma Draw.ranges_pieces (d : Draw) : ranges d.pieces = [d.range] := rfl

/-- The ranges of joined parts are those of the parts. -/
lemma mem_ranges_intercalate_iff (parts : List (List Piece)) :
    r ∈ ranges ([.words words].intercalate parts) ↔ ∃ ps ∈ parts, r ∈ ranges ps := by
  induction parts with
  | nil => simp [ranges]
  | cons first rest ih =>
    cases rest with
    | nil => simp [List.intercalate_singleton]
    | cons second rest =>
      rw [List.intercalate_cons_cons, ranges_append, ranges_append, List.mem_append,
        List.mem_append, ih, List.exists_mem_cons_iff (l := second :: rest)]
      exact or_congr (or_iff_left List.not_mem_nil) Iff.rfl

lemma mem_ranges_partPieces_iff {parts : List Field} :
    (∃ ps ∈ partPieces parts, r ∈ ranges ps) ↔
      ∃ part ∈ parts, r ∈ ranges (pieces part part.name (part.kind.getD .string)) := by
  induction parts with
  | nil => simp [partPieces]
  | cons part rest ih =>
    rw [partPieces, List.exists_mem_cons_iff, List.exists_mem_cons_iff, ih, ranges_words]

lemma mem_ranges_plainPieces_iff {name : Value} {a : FieldAttributes} {kind : FieldKind} :
    r ∈ ranges (plainPieces name a kind) ↔ (plainDraw? name a kind).map Draw.range = some r := by
  unfold plainPieces
  cases plainDraw? name a kind with
  | some d => simp [Draw.ranges_pieces, eq_comm]
  | none => simp [ranges, Piece.range?]

/-- The ranges of a hint are that of the field itself, if there is one, and those for the elements
of an array or the parts of an object. -/
lemma mem_ranges_iff {f : Field} {name : Value} {kind : FieldKind} :
    r ∈ ranges (pieces f name kind) ↔
    (draw? f name kind).map Draw.range = some r ∨
      (kind = .array ∧ ∃ item, f.items = some item ∧
        r ∈ ranges (pieces item (.text "item") (item.kind.getD .string))) ∨
      (kind = .object ∧ ∃ parts, f.shape = some parts ∧
        ∃ part ∈ parts, r ∈ ranges (pieces part part.name (part.kind.getD .string))) := by
  obtain ⟨a, items, shape⟩ := f
  rw [pieces.eq_def, draw?]
  dsimp only
  split_ifs with isEnumeration isArray isObject
  · have notArray : kind ≠ .array := by rintro rfl; simp at isEnumeration
    have notObject : kind ≠ .object := by rintro rfl; simp at isEnumeration
    simp [notArray, notObject, ranges, Piece.range?]
  · subst isArray
    rw [ranges_append, ranges_words, List.mem_append, Draw.ranges_pieces,
      List.mem_singleton, or_comm]
    refine or_congr ?_ ?_
    · rw [Option.map_some, Option.some.injEq, eq_comm]
    · cases items with
      | none => simp [ranges, Piece.range?]
      | some item => simp
  · obtain ⟨rfl, nonempty⟩ : kind = .object ∧ (!(shape.getD []).isEmpty) = true := by
      simpa using isObject
    cases shape with
    | none => simp at nonempty
    | some parts =>
      dsimp only
      rw [ranges_append, ranges_words, List.mem_append, mem_ranges_intercalate_iff,
        mem_ranges_partPieces_iff]
      simp [ranges, Piece.range?]
  · have noParts : ¬ (kind = .object ∧ ∃ parts, shape = some parts ∧
        ∃ part ∈ parts, r ∈ ranges (pieces part part.name (part.kind.getD .string))) := by
      rintro ⟨rfl, parts, rfl, part, mem, -⟩
      have none : parts = [] := by simpa using isObject
      exact absurd (none ▸ mem) List.not_mem_nil
    rw [mem_ranges_plainPieces_iff]
    exact (or_iff_left (not_or.2 ⟨fun h => isArray h.1, noParts⟩)).symm

/-! ### Ends of a range -/

/-- What an end of a range amounts to, by the bound or what stands in for it. -/
def endOf (v : Value) (standIn : Nat) : ℚ := if v.isNull then standIn else v.amount

/-- An end of a range as it is written: the whole number that it amounts to, or else the bound as it
is shown. -/
def IsWrittenEnd (v : Value) (standIn : Nat) (written : String) : Prop :=
  (∃ i : Int, written = toString i ∧ (i : ℚ) = endOf v standIn) ∨ written = v.shown

/-- A finite bound is written, and the end it stands for is its own or the default. -/
lemma exists_bound {v : Value} (h : v = .null ∨ v.IsFinite) (standIn : Nat) :
    ∃ written, bound v standIn = .ok written ∧ IsWrittenEnd v standIn written := by
  unfold bound IsWrittenEnd endOf
  cases h with
  | inl null =>
    subst null
    exact ⟨_, rfl, .inl ⟨standIn, rfl, by simp [Value.isNull]⟩⟩
  | inr finite =>
    split_ifs
    · exact ⟨_, rfl, .inl ⟨standIn, rfl, by simp⟩⟩
    · obtain ⟨whole, isWhole, number⟩ := Value.exists_isWhole finite
      rw [isWhole, ok_bind]
      cases whole with
      | false => exact ⟨_, rfl, .inr rfl⟩
      | true =>
        obtain ⟨i, isNumber, amount⟩ := number rfl
        rw [if_pos rfl, isNumber]
        exact ⟨_, rfl, .inl ⟨i, rfl, amount⟩⟩

namespace Range

/-- A range is written by its ends. -/
structure IsWritten (r : Range) (low high : String) : Prop where
  text : r.text = .ok (r.measure.lowMark ++ low ++ r.measure.highMark ++ high)
  low : IsWrittenEnd r.low r.lowest low
  high : IsWrittenEnd r.high r.highest high

lemma exists_isWritten (low : r.low = .null ∨ r.low.IsFinite)
    (high : r.high = .null ∨ r.high.IsFinite) :
    ∃ low high, r.IsWritten low high := by
  obtain ⟨low, isLow, lowWritten⟩ := exists_bound low r.lowest
  obtain ⟨high, isHigh, highWritten⟩ := exists_bound high r.highest
  refine ⟨low, high, ?_, lowWritten, highWritten⟩
  rw [text, isLow, isHigh]
  rfl

def Ordered (r : Range) : Prop := endOf r.low r.lowest ≤ endOf r.high r.highest

/-- If only one bound is declared, it is in order with what stands in for the other one. -/
structure Fits (r : Range) : Prop where
  high : r.low.isNull = true → r.high.isNull = false → (r.lowest : ℚ) ≤ r.high.amount
  low : r.low.isNull = false → r.high.isNull = true → r.low.amount ≤ r.highest

/-- If the bounds that are declared are in order, the ends are so just if a bound that is declared
alone fits. -/
lemma ordered_iff (standIns : r.lowest ≤ r.highest)
    (declared : r.low.isNull = false → r.high.isNull = false → r.low.amount ≤ r.high.amount) :
    r.Ordered ↔ r.Fits := by
  have standIns : (r.lowest : ℚ) ≤ r.highest := by exact_mod_cast standIns
  unfold Ordered endOf
  cases low : r.low.isNull <;> cases high : r.high.isNull
  all_goals simp only [Bool.false_eq_true, if_false, if_true]
  · exact iff_of_true (declared low high) ⟨by simp [low], by simp [high]⟩
  · exact ⟨fun h => ⟨by simp [low], fun _ _ => h⟩, fun fits => fits.low low high⟩
  · exact ⟨fun h => ⟨fun _ _ => h, by simp [low]⟩, fun fits => fits.high low high⟩
  · exact iff_of_true standIns ⟨by simp [high], by simp [low]⟩

end Range

/-- What a field draws from has the declared bounds, or none, and numbers in order that stand in for
them. -/
lemma draw?_range {f : Field} {name : Value} {kind : FieldKind} {d : Draw}
    (isDraw : draw? f name kind = some d) :
    d.range.lowest ≤ d.range.highest ∧
      ((d.range.low = (f.constraints.getD {}).min ∧ d.range.high = (f.constraints.getD {}).max) ∨
        (d.range.low = .null ∧ d.range.high = .null)) := by
  unfold draw? at isDraw
  split_ifs at isDraw
  · obtain rfl := Option.some.inj isDraw
    exact ⟨by simp [drawOfLength], .inl ⟨rfl, rfl⟩⟩
  · unfold plainDraw? at isDraw
    split at isDraw
    · unfold drawOfFixed? at isDraw
      split_ifs at isDraw
      obtain rfl := Option.some.inj isDraw
      exact ⟨by decide, .inr ⟨rfl, rfl⟩⟩
    · unfold drawOfKind? at isDraw
      split_ifs at isDraw
      all_goals
        obtain rfl := Option.some.inj isDraw
        exact ⟨by simp, .inl ⟨rfl, rfl⟩⟩

end SampleHint

end EntityModel
