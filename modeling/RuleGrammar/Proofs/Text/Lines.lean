import Mathlib.Algebra.GroupWithZero.Nat
import Mathlib.Data.List.TakeWhile
import Mathlib.Data.List.Induction
import RuleGrammar.Matcher.Failure
import RuleGrammar.Notation.Cursor

/-! The lines of a text and the places in them. A place is found by counting newlines and by
searching for the nearest ones; that it names the line and the column of its offset is stated
over the lines that splitting the text gives. The reader of grammar notation finds the place of its
cursor in a way of its own, and it is the same place.
-/

namespace RuleGrammar

-----------------------------------------------------------------------------------------
-- Lines
-----------------------------------------------------------------------------------------

/-- The lines of a text: what its newlines separate, the last one possibly empty. -/
def Text.lines (t : Text) : List Text :=
  t.splitOn (CodePoint.ofChar '\n')

/-- The end of a text after its last newline. -/
def Text.lastLine (t : Text) : Text :=
  (t.reverse.takeWhile (· ≠ CodePoint.ofChar '\n')).reverse

/-- The start of a text before its first newline. -/
def Text.firstLine (t : Text) : Text :=
  t.takeWhile (· ≠ CodePoint.ofChar '\n')

namespace Text

@[simp]
theorem lastLine_newline (t : Text)
    : lastLine (t ++ [CodePoint.ofChar '\n']) = [] := by
  simp [lastLine]

theorem lastLine_snoc {t : Text} {c : CodePoint} (other : c ≠ CodePoint.ofChar '\n')
    : lastLine (t ++ [c]) = lastLine t ++ [c] := by
  simp [lastLine, other]

/-- The first line of a text is a part of it from the start. -/
theorem take_length_firstLine (t : Text) : t.take (firstLine t).length = firstLine t :=
  (List.prefix_iff_eq_take.mp (List.takeWhile_prefix _)).symm

theorem firstLine_of_single {t : Text} (single : CodePoint.ofChar '\n' ∉ t)
    : firstLine t = t := by
  rw [firstLine, List.takeWhile_eq_self_iff]
  simpa using fun c member (same : c = CodePoint.ofChar '\n') => single (same ▸ member)

/-- A text ends with its last line. -/
theorem exists_append_lastLine (t : Text) : ∃ start, start ++ lastLine t = t := by
  have starts := (List.takeWhile_prefix (· ≠ CodePoint.ofChar '\n') (l := t.reverse)).reverse
  rwa [List.reverse_reverse] at starts

theorem lines_newline (t rest : Text)
    : lines (t ++ CodePoint.ofChar '\n' :: rest) = lines t ++ lines rest :=
  List.splitOn_append_cons_self t rest

theorem lines_of_single {t : Text} (single : CodePoint.ofChar '\n' ∉ t) : lines t = [t] := by
  rw [lines, List.splitOn_eq_splitOnP]
  refine List.splitOnP_eq_singleton fun c member => ?_
  simpa using fun same : c = CodePoint.ofChar '\n' => single (same ▸ member)

theorem not_mem_lastLine (t : Text) : CodePoint.ofChar '\n' ∉ lastLine t := by
  intro member
  simpa using List.mem_takeWhile_imp (List.mem_reverse.mp member)

theorem not_mem_firstLine (t : Text) : CodePoint.ofChar '\n' ∉ firstLine t := by
  intro member
  simpa using List.mem_takeWhile_imp member

/-- What a text adds to the lines before it: as many lines as it has newlines, which with
their newlines and its last line take up the whole text. By induction from the end of the
text.
-/
theorem lines_append (t : Text)
    : ∃ full : List Text, full.length = t.count (CodePoint.ofChar '\n')
        ∧ (full.map (·.length + 1)).sum + t.lastLine.length = t.length
        ∧ ∀ rest, lines (t ++ rest) = full ++ lines (t.lastLine ++ rest) := by
  induction t using List.reverseRecOn with
  | nil => exact ⟨[], rfl, rfl, fun rest => rfl⟩
  | append_singleton t c earlier =>
      obtain ⟨full, counted, measured, split⟩ := earlier
      by_cases newline : c = CodePoint.ofChar '\n'
      · subst newline
        refine ⟨full ++ [lastLine t], by simp [counted], ?_, fun rest => ?_⟩
        · rw [List.map_append, List.sum_append, List.map_singleton, List.sum_singleton,
            lastLine_newline, List.length_append, List.length_singleton, ← measured]
          rfl
        · rw [List.append_assoc, split, List.singleton_append, lines_newline,
            lines_of_single (not_mem_lastLine t), lastLine_newline]
          simp
      · refine ⟨full, ?_, ?_, fun rest => ?_⟩
        · simpa [List.count_singleton, newline] using counted
        · rw [lastLine_snoc newline, List.length_append, List.length_append,
            ← Nat.add_assoc, measured]
        · rw [List.append_assoc, split, lastLine_snoc newline, List.append_assoc]

/-- The first line of a text goes on with a line that stands before it. -/
theorem exists_lines_of_single {before : Text} (single : CodePoint.ofChar '\n' ∉ before)
    (rest : Text)
    : ∃ more, lines (before ++ rest) = (before ++ rest.firstLine) :: more := by
  have parts : rest.firstLine ++ rest.dropWhile (· ≠ CodePoint.ofChar '\n') = rest :=
    List.takeWhile_append_dropWhile
  have joined : CodePoint.ofChar '\n' ∉ before ++ rest.firstLine := by
    simp [single, not_mem_firstLine]
  cases after : rest.dropWhile (· ≠ CodePoint.ofChar '\n') with
  | nil =>
      refine ⟨[], ?_⟩
      rw [after, List.append_nil] at parts
      rw [lines_of_single (by simpa [parts] using joined), parts]
  | cons c tail =>
      have newline : c = CodePoint.ofChar '\n' := by
        simpa only [after, List.head_cons, decide_eq_false_iff_not, not_not] using
          List.head_dropWhile_not (l := rest) (· ≠ CodePoint.ofChar '\n') (by rw [after]; simp)
      refine ⟨lines tail, ?_⟩
      rw [← congrArg (before ++ ·) parts, after, newline, ← List.append_assoc, lines_newline,
        lines_of_single joined, List.singleton_append]

end Text

-----------------------------------------------------------------------------------------
-- The line of an offset
-----------------------------------------------------------------------------------------

namespace Subject

variable {s : Subject}

@[simp]
theorem index_of_nat (s : Subject) (n : Nat) : s.index n = n := by
  rw [index, if_neg (by omega), Int.toNat_natCast]

theorem slice_of_nat (s : Subject) (start stop : Nat)
    : s.slice start stop = (s.toText.take stop).drop start := by
  rw [slice, index_of_nat, index_of_nat, Array.toList_extract, List.extract_eq_take_drop,
    ← List.drop_take]
  rfl

theorem before_of_nat (s : Subject) (pos : Nat) : s.before pos = s.toText.take pos := by
  simpa [before] using s.slice_of_nat 0 pos

theorem length_before {pos : Nat} (within : pos ≤ s.size) : (s.before pos).length = pos := by
  rw [before_of_nat, List.length_take]
  exact Nat.min_eq_left (by simpa [toText, size] using within)

/-- The line of an offset starts behind what precedes the last line before it. -/
theorem lineStart_eq {pos : Int} {start : Text}
    (parts : start ++ (s.before pos).lastLine = s.before pos)
    : s.lineStart pos = start.length := by
  have measured := congrArg List.length parts
  simp only [List.length_append, Text.lastLine, List.length_reverse] at measured
  rw [lineStart]
  omega

/-- The line of an offset is what stands between the newlines around it. -/
theorem lineAt_of_nat {pos : Nat} (within : pos ≤ s.size)
    : s.lineAt pos = (s.before pos).lastLine ++ Text.firstLine (s.toText.drop pos) := by
  obtain ⟨start, parts⟩ := (s.before pos).exists_append_lastLine
  have line_to (stop : Nat)
      : s.slice start.length (pos + stop : Nat)
          = (s.before pos).lastLine ++ (s.toText.drop pos).take stop := by
    rw [slice_of_nat, List.take_add, ← before_of_nat, ← parts, List.append_assoc,
      List.drop_left, parts]
  have to_end : s.slice pos s.size = s.toText.drop pos := by
    rw [slice_of_nat, List.take_of_length_le (by simp [toText, size])]
  have last : s.size = pos + (s.toText.drop pos).length := by
    simp only [toText, size, List.length_drop, Array.length_toList] at within ⊢
    omega
  simp only [lineAt, lineStart_eq parts, index_of_nat, to_end]
  split
  · rw [← Text.firstLine, line_to, Text.take_length_firstLine]
  case isFalse single =>
    rw [last, line_to, List.take_length, Text.firstLine_of_single (by simpa using single)]

end Subject

-----------------------------------------------------------------------------------------
-- Places
-----------------------------------------------------------------------------------------

/-- What makes a place that of an offset in a text: it names one of the text's lines, its
column stands in that line or right behind it, and the columns before it make up the offset
together with the lines before it and their newlines.
-/
structure Place.Marks (place : Place) (t : Text) (pos : Int) (line : Text) : Prop where
  line_from_one : 1 ≤ place.line
  line_within : place.line ≤ t.lines.length
  line_named : t.lines[place.line - 1]? = some line
  column_from_one : 1 ≤ place.column
  column_within : place.column ≤ line.length + 1
  measured :
    (((t.lines.take (place.line - 1)).map (·.length + 1)).sum : Nat) + (place.column - 1) = pos

/-- The place of an offset marks it, and the line it names is the one the caret is drawn under.
-/
theorem Subject.marks_of_nat {s : Subject} {pos : Nat} (within : pos ≤ s.size)
    : (s.place pos).Marks s.toText pos (s.lineAt pos) := by
  obtain ⟨start, parts⟩ := (s.before pos).exists_append_lastLine
  obtain ⟨full, counted, measured, split⟩ := (s.before pos).lines_append
  obtain ⟨more, here⟩ :=
    Text.exists_lines_of_single (s.before pos).not_mem_lastLine (s.toText.drop pos)
  have lines : s.toText.lines = full ++ s.lineAt pos :: more := by
    rw [lineAt_of_nat within, ← here, ← split, before_of_nat, List.take_append_drop]
  have line : (s.place pos).line = full.length + 1 := by rw [counted, place]
  have column : (s.place pos).column = (s.before pos).lastLine.length + 1 := by
    have joined := congrArg List.length parts
    rw [length_before within, List.length_append] at joined
    simp only [place, lineStart_eq parts]
    omega
  have longer := congrArg List.length (lineAt_of_nat within)
  rw [List.length_append] at longer
  rw [length_before within] at measured
  refine ⟨by omega, by simp [lines, line], by simp [lines, line], by omega, by omega, ?_⟩
  simp only [lines, line, Nat.add_sub_cancel, List.take_left]
  omega

/-- Behind its last newline a text has its last line, by induction from its end. -/
theorem Notation.lastNewline_add_length (t : Text)
    : lastNewline t + 1 + t.lastLine.length = t.length := by
  induction t using List.reverseRecOn with
  | nil => rfl
  | append_singleton t c earlier =>
      simp only [lastNewline, List.zipIdx_append, List.foldl_append, Nat.zero_add,
        List.zipIdx_singleton, List.foldl_cons, List.foldl_nil] at earlier ⊢
      by_cases newline : c = CodePoint.ofChar '\n'
      · subst newline
        simp
      · rw [if_neg newline, Text.lastLine_snoc newline, List.length_append, List.length_append]
        push_cast
        omega

/-- Counting back to the last newline before a cursor finds the place of its offset. -/
theorem Notation.cursorPlace_eq (source : Text) (offset : Nat)
    : cursorPlace source offset = (Subject.ofText source).place offset := by
  have before : (Subject.ofText source).before offset = source.take offset :=
    Subject.before_of_nat _ _
  obtain ⟨start, parts⟩ := Text.exists_append_lastLine (source.take offset)
  have measured := congrArg List.length parts
  have behind := lastNewline_add_length (source.take offset)
  rw [List.length_append] at measured
  have lineStart : (Subject.ofText source).lineStart offset = start.length :=
    Subject.lineStart_eq (before ▸ parts)
  simp only [cursorPlace, Subject.place, before, lineStart, Place.mk.injEq, true_and]
  omega

/-- A reported failure is located: its place marks its position, the report draws the caret
under that column of that line, and a fault of grammar notation at the same offset of the same
text is reported at the same place.
-/
theorem Failure.located {subject : Subject} {f : Failure} (from_start : 0 ≤ f.position)
    (within : f.position ≤ subject.size)
    : ∃ line,
        (subject.place f.position).Marks subject.toText f.position line
        ∧ f.report subject
          = f.message subject ++ "\n" ++ (line ++ "\n"
            ++ Text.spaces ((subject.place f.position).column - 1).toNat ++ "^")
        ∧ ∀ (cursor : Notation.Cursor) (cause : Notation.Cause),
          cursor.offset = f.position →
          ((Notation.Reader.fail cause : Notation.Reader Unit) cursor).mapError
              (Notation.Error.ofFault subject.toText)
            = .error (.malformed (subject.place f.position) cause) := by
  obtain ⟨pos, here⟩ := Int.eq_ofNat_of_zero_le from_start
  rw [here] at within ⊢
  refine ⟨_, Subject.marks_of_nat (by omega), ?_, fun cursor cause same => ?_⟩
  · rw [report, here, Subject.caretSnippet]
    simp [Subject.place]
  · obtain ⟨offset, rest⟩ := cursor
    obtain rfl : offset = pos := Int.ofNat.inj same
    simp only [Notation.Reader.fail, Except.mapError, Notation.Error.ofFault,
      Notation.cursorPlace_eq]
    rfl

/-- At the end of a text that ends with a newline, the place is the start of the empty line
behind it, and the caret is drawn there.
-/
theorem Failure.located_behind_newline
    : (⟨3, 1⟩ : Place).Marks (Text.ofString "a\nb\n") 4 []
      ∧ ({ position := 4, rule := "top" } : Failure).report (.ofText "a\nb\n")
        = Text.ofString "Parse failed at 3:1 in <top>: no match\n\n^"
      ∧ ((Notation.Reader.fail .noGrammar : Notation.Reader Unit) ⟨4, []⟩).mapError
            (Notation.Error.ofFault "a\nb\n")
        = .error (.malformed ⟨3, 1⟩ .noGrammar) := by
  obtain ⟨line, marks, drawn, same⟩ :=
    @Failure.located (.ofText "a\nb\n") { position := 4, rule := "top" } (by decide) (by decide)
  have placed : (Subject.ofText "a\nb\n").place 4 = ⟨3, 1⟩ := by decide
  rw [placed] at marks drawn same
  obtain rfl : line = [] := Option.some.inj (marks.line_named.symm.trans (by decide))
  exact ⟨marks, drawn.trans (by decide), same ⟨4, []⟩ .noGrammar rfl⟩

end RuleGrammar
