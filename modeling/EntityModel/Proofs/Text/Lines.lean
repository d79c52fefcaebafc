import EntityModel.Text.Lines
import Mathlib.Data.List.Infix

/-!
# Margins

The margin that lines share is the longest run of blanks with which every line begins that has other
characters. A text from which the margin has been taken away has none left.
-/

namespace EntityModel.Text

variable {line margin : List Char} {lines : List (List Char)}

/-! ### Lines and their text -/

/-- Lines are what stands between line feeds. -/
lemma betweenFeeds_eq (cs : List Char) : betweenFeeds cs = cs.splitOn '\n' := by
  induction cs with
  | nil => rfl
  | cons c cs ih =>
    obtain ⟨first, rest, parts⟩ := List.exists_cons_of_ne_nil (List.splitOn_ne_nil '\n' cs)
    rw [List.splitOn_cons_eq_if_modifyHead, parts]
    by_cases feed : c = '\n'
    · subst feed
      rw [betweenFeeds, ih, parts]
      rfl
    · rw [betweenFeeds, ih, parts, if_neg (by simpa using feed)]
      · rfl
      · exact feed

lemma betweenFeeds_ne_nil (cs : List Char) : betweenFeeds cs ≠ [] := by
  rw [betweenFeeds_eq]
  exact List.splitOn_ne_nil _ _

lemma not_mem_of_mem_betweenFeeds (cs : List Char) : ∀ line ∈ betweenFeeds cs, '\n' ∉ line := by
  rw [betweenFeeds_eq]
  induction cs with
  | nil => simp
  | cons c cs ih =>
    obtain ⟨first, rest, parts⟩ := List.exists_cons_of_ne_nil (List.splitOn_ne_nil '\n' cs)
    rw [List.splitOn_cons_eq_if_modifyHead]
    rw [parts] at ih ⊢
    obtain ⟨inFirst, inRest⟩ := List.forall_mem_cons.1 ih
    split_ifs with feed
    · exact List.forall_mem_cons.2 ⟨List.not_mem_nil, ih⟩
    · refine List.forall_mem_cons.2 ⟨fun mem => ?_, inRest⟩
      rcases List.mem_cons.1 mem with rfl | mem
      · exact feed (beq_self_eq_true _)
      · exact inFirst mem

/-- Lines without line feeds in them are found again in their text. -/
lemma betweenFeeds_joinLines (plain : ∀ line ∈ lines, '\n' ∉ line) (some : lines ≠ []) :
    betweenFeeds (joinLines lines) = lines := by
  rw [betweenFeeds_eq, joinLines, List.splitOn_intercalate _ plain some]

/-! ### The common start -/

/-- Texts start with another one just where their common start does. -/
lemma isPrefix_commonStart_iff {as bs : List Char} :
    margin <+: commonStart as bs ↔ margin <+: as ∧ margin <+: bs := by
  induction as generalizing bs margin with
  | nil =>
    rw [commonStart.eq_def, List.prefix_nil]
    exact ⟨fun none => by simp [none], And.left⟩
  | cons a as ih =>
    cases bs with
    | nil =>
      rw [commonStart.eq_def, List.prefix_nil]
      exact ⟨fun none => by simp [none], And.right⟩
    | cons b bs =>
      rw [commonStart]
      cases margin with
      | nil => simp
      | cons c margin =>
        split_ifs with same
        · obtain rfl := eq_of_beq same
          rw [List.cons_prefix_cons, List.cons_prefix_cons, List.cons_prefix_cons, ih]
          tauto
        · rw [List.cons_prefix_cons, List.cons_prefix_cons]
          refine ⟨fun none => by simp at none, ?_⟩
          rintro ⟨⟨rfl, -⟩, rfl, -⟩
          exact absurd (beq_self_eq_true c) same

/-- What several lines begin with is what each of them begins with. -/
lemma isPrefix_foldl_commonStart_iff {first : List Char} {rest : List (List Char)} :
    margin <+: rest.foldl commonStart first ↔
      margin <+: first ∧ ∀ other ∈ rest, margin <+: other := by
  induction rest generalizing first with
  | nil => simp
  | cons other rest ih =>
    rw [List.foldl_cons, ih, isPrefix_commonStart_iff, List.forall_mem_cons, and_assoc]

/-! ### The margin -/

/-- A line has characters that are not part of a margin. -/
def HasInk (line : List Char) : Prop := ∃ c ∈ line, isMarginChar c = false

lemma any_iff : line.any (!isMarginChar ·) = true ↔ HasInk line := by
  simp [HasInk]

lemma isPrefix_takeWhile_iff : margin <+: line.takeWhile isMarginChar ↔
    (∀ c ∈ margin, isMarginChar c = true) ∧ margin <+: line := by
  constructor
  · intro starts
    exact ⟨fun c mem => List.all_eq_true.1 List.all_takeWhile c (starts.subset mem),
      starts.trans (List.takeWhile_prefix _)⟩
  · rintro ⟨blank, rest, rfl⟩
    rw [List.takeWhile_append_of_pos blank]
    exact List.prefix_append _ _

/-- The margin of lines is the longest run of blanks with which every line begins that has ink. -/
theorem isPrefix_sharedMargin_iff (inked : ∃ line ∈ lines, HasInk line) :
    margin <+: sharedMargin lines ↔
      (∀ c ∈ margin, isMarginChar c = true) ∧ ∀ line ∈ lines, HasInk line → margin <+: line := by
  have each : (∀ m ∈ (lines.filter (·.any (!isMarginChar ·))).map (·.takeWhile isMarginChar),
      margin <+: m) ↔ (∀ c ∈ margin, isMarginChar c = true) ∧
        ∀ line ∈ lines, HasInk line → margin <+: line := by
    simp only [List.forall_mem_map, List.mem_filter, isPrefix_takeWhile_iff, and_imp, any_iff]
    obtain ⟨line, mem, ink⟩ := inked
    exact ⟨fun all => ⟨(all line mem ink).1, fun l m i => (all l m i).2⟩,
      fun ⟨blank, all⟩ l m i => ⟨blank, all l m i⟩⟩
  rw [← each, sharedMargin]
  split
  · rename_i none
    obtain ⟨line, mem, ink⟩ := inked
    rw [List.map_eq_nil_iff, List.filter_eq_nil_iff] at none
    exact absurd (any_iff.2 ink) (none line mem)
  · rename_i first rest found
    rw [isPrefix_foldl_commonStart_iff, found, List.forall_mem_cons]

/-- Without a line that has ink no margin is shared. -/
lemma sharedMargin_of_not_hasInk (none : ∀ line ∈ lines, ¬HasInk line) :
    sharedMargin lines = [] := by
  have empty : lines.filter (·.any (!isMarginChar ·)) = [] :=
    List.filter_eq_nil_iff.2 fun line mem ink => none line mem (any_iff.1 ink)
  rw [sharedMargin, empty]
  rfl

/-- A line with ink begins with the margin. -/
lemma margin_append_drop (mem : line ∈ lines) (ink : HasInk line) :
    sharedMargin lines ++ line.drop (sharedMargin lines).length = line :=
  List.prefix_iff_eq_append.1
    (((isPrefix_sharedMargin_iff ⟨line, mem, ink⟩).1 (List.prefix_refl _)).2 line mem ink)

/-- The ink of a line stands behind the margin. -/
lemma HasInk.drop (mem : line ∈ lines) (ink : HasInk line) :
    HasInk (line.drop (sharedMargin lines).length) := by
  have blank := ((isPrefix_sharedMargin_iff ⟨line, mem, ink⟩).1 (List.prefix_refl _)).1
  have split := margin_append_drop mem ink
  obtain ⟨c, inLine, isInk⟩ := ink
  rw [← split, List.mem_append] at inLine
  refine ⟨c, inLine.resolve_left fun inMargin => ?_, isInk⟩
  exact Bool.noConfusion (isInk.symm.trans (blank c inMargin))

/-- Lines from which their margin has been taken away share none. -/
theorem sharedMargin_map_drop (lines : List (List Char)) :
    sharedMargin (lines.map (·.drop (sharedMargin lines).length)) = [] := by
  by_cases inked : ∃ line ∈ lines, HasInk line
  · obtain ⟨blank, -⟩ := (isPrefix_sharedMargin_iff inked).1 (List.prefix_refl _)
    have inked' : ∃ line ∈ lines.map (·.drop (sharedMargin lines).length), HasInk line := by
      obtain ⟨line, mem, ink⟩ := inked
      exact ⟨_, List.mem_map_of_mem mem, ink.drop mem⟩
    obtain ⟨blank', starts'⟩ := (isPrefix_sharedMargin_iff inked').1 (List.prefix_refl _)
    generalize sharedMargin (lines.map _) = more at blank' starts' ⊢
    -- what the lines still had in common would have belonged to the margin
    have longer : sharedMargin lines ++ more <+: sharedMargin lines := by
      rw [isPrefix_sharedMargin_iff inked]
      refine ⟨List.forall_mem_append.2 ⟨blank, blank'⟩, fun line mem ink => ?_⟩
      rw [← margin_append_drop mem ink, List.prefix_append_right_inj]
      exact starts' _ (List.mem_map_of_mem mem) (ink.drop mem)
    have length := longer.length_le
    rw [List.length_append] at length
    exact List.length_eq_zero_iff.1 (by omega)
  · have none : ∀ line ∈ lines, ¬HasInk line := by simpa using inked
    rw [sharedMargin_of_not_hasInk none, List.length_nil]
    simpa using sharedMargin_of_not_hasInk none

/-! ### Texts without their margin -/

/-- A line of nothing but blanks counts as empty. -/
def withInk (line : List Char) : List Char := if line.all isMarginChar then [] else line

lemma withInk_of_hasInk (ink : HasInk line) : withInk line = line := by
  obtain ⟨c, mem, isInk⟩ := ink
  exact if_neg fun all => Bool.noConfusion (isInk.symm.trans (List.all_eq_true.1 all c mem))

lemma hasInk_or_withInk_eq_nil (line : List Char) : HasInk line ∨ withInk line = [] := by
  by_cases all : line.all isMarginChar = true
  · exact .inr (if_pos all)
  · exact .inl (by simpa [HasInk] using all)

/-- The lines of a text without the margin that they share. -/
def dedentedLines (cs : List Char) : List (List Char) :=
  let lines := (betweenFeeds cs).map withInk
  lines.map (·.drop (sharedMargin lines).length)

lemma dedented_eq (cs : List Char) : dedented cs = joinLines (dedentedLines cs) := rfl

/-- Taking the margin off does not join or split lines. -/
lemma betweenFeeds_dedented (cs : List Char) : betweenFeeds (dedented cs) = dedentedLines cs := by
  rw [dedented_eq]
  refine betweenFeeds_joinLines ?_ (by simp [dedentedLines, betweenFeeds_ne_nil])
  simp only [dedentedLines, List.forall_mem_map]
  intro line mem feed
  refine not_mem_of_mem_betweenFeeds cs line mem ?_
  have inLine := List.mem_of_mem_drop feed
  rw [withInk] at inLine
  split_ifs at inLine with blank
  · cases inLine
  · exact inLine

lemma map_withInk_dedentedLines (cs : List Char) :
    (dedentedLines cs).map withInk = dedentedLines cs := by
  refine (List.map_congr_left ?_).trans (List.map_id _)
  simp only [dedentedLines, List.forall_mem_map]
  intro line mem
  rcases hasInk_or_withInk_eq_nil line with ink | none
  · have ink : HasInk (withInk line) := (withInk_of_hasInk ink).symm ▸ ink
    exact withInk_of_hasInk (ink.drop (List.mem_map_of_mem mem))
  · rw [none, List.drop_nil]
    rfl

/-- Taking the margin away a second time changes nothing. -/
theorem dedented_dedented (cs : List Char) : dedented (dedented cs) = dedented cs := by
  have none : sharedMargin (dedentedLines cs) = [] := sharedMargin_map_drop _
  rw [dedented_eq (dedented cs), dedentedLines, betweenFeeds_dedented, map_withInk_dedentedLines]
  simp only [none, List.length_nil, List.drop_zero, List.map_id']
  rfl

end EntityModel.Text
