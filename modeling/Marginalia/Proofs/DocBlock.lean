import Marginalia.Proofs.Occurrence
import Marginalia.Proofs.Section

/-!
# Blocks of documentation

A block of documentation is written with a margin: a star in front of every
line, and a line with nothing but the star where nothing is said.  Main
statement: a block directly above a declaration is found whole, and what is said
about the declaration is what the lines of the block say, without the margin.
-/

namespace Marginalia.Comment

/-- A line of a block: text behind the margin, or the margin alone. -/
inductive BlockLine where
  | said (text : Text)
  | bare

namespace BlockLine

/-- The text of a line, if there is any. -/
def text? : BlockLine → Option Text
  | .said text => some text
  | .bare => none

/-- The line as it is written. -/
def written (indent : Text) : BlockLine → Text
  | .said text => indent ++ " * ".toList ++ text ++ ['\n']
  | .bare => indent ++ " *".toList ++ ['\n']

/-- The text of a line ends neither the line nor the block. -/
def Fits (line : BlockLine) : Prop :=
  ∀ text ∈ line.text?, '\n' ∉ text ∧ ¬ "*/".toList <:+: text

instance (line : BlockLine) : Decidable line.Fits :=
  inferInstanceAs (Decidable (∀ text ∈ line.text?, '\n' ∉ text ∧ ¬ "*/".toList <:+: text))

end BlockLine

/-- A block as it is written, with a line for each of its marks. -/
def block (indent : Text) (lines : List BlockLine) : Text :=
  indent ++ "/**".toList ++ ['\n'] ++ lines.flatMap (BlockLine.written indent) ++
    indent ++ " */".toList ++ ['\n']

/-- What the lines of a block say. -/
def blockText (lines : List BlockLine) : Text :=
  Text.joinLines (lines.filterMap BlockLine.text?)

/-- Spaces and tabs that lines are indented with. -/
def IsIndent (indent : Text) : Prop :=
  ∀ c ∈ indent, c = ' ' ∨ c = '\t'

namespace IsIndent

variable {indent : Text}

theorem blank (indents : IsIndent indent) : ∀ c ∈ indent, Text.isBlank c := by
  intro c member
  rcases indents c member with rfl | rfl
  · decide
  · decide

theorem not_mem (indents : IsIndent indent) {c : Char} (notSpace : c ≠ ' ') (notTab : c ≠ '\t') :
    c ∉ indent := by
  intro member
  rcases indents c member with same | same
  · exact notSpace same
  · exact notTab same

end IsIndent

/-! ## The margin -/

theorem withoutMargin_blanks {gap : Text} (blank : ∀ c ∈ gap, Text.isBlank c) (held rest : Text) :
    withoutMargin .blank held (gap ++ rest) = withoutMargin .blank (gap.reverse ++ held) rest := by
  induction gap generalizing held with
  | nil => rfl
  | cons c gap ih =>
      rw [List.forall_mem_cons] at blank
      rw [List.cons_append, withoutMargin, if_pos blank.1, ih blank.2, List.reverse_cons,
        List.append_assoc, List.singleton_append]

theorem withoutMargin_line {text : Text} (unbroken : '\n' ∉ text) (rest : Text) :
    withoutMargin .closed [] (text ++ '\n' :: rest) =
      text ++ '\n' :: withoutMargin .blank [] rest := by
  induction text with
  | nil => rfl
  | cons c text ih =>
      rw [List.mem_cons, not_or] at unbroken
      have inLine : (c == '\n') = false := by simpa using Ne.symm unbroken.1
      rw [List.cons_append, withoutMargin, inLine, List.cons_append]
      exact congrArg (c :: ·) (ih unbroken.2)

/-- What a line says without its margin, its line feed included. -/
def BlockLine.unmargined : BlockLine → Text
  | .said text => text ++ ['\n']
  | .bare => []

/-- The margin of a line is left out.  If the line has nothing else, its line
feed is left out as well. -/
theorem withoutMargin_written {indent : Text} (indents : IsIndent indent) {line : BlockLine}
    (fits : line.Fits) (held rest : Text) :
    withoutMargin .blank held (line.written indent ++ rest) =
      line.unmargined ++ withoutMargin .blank [] rest := by
  cases line with
  | said text =>
      have unbroken : '\n' ∉ text := (fits text rfl).1
      simp only [BlockLine.written, BlockLine.unmargined, List.append_assoc, List.singleton_append]
      rw [withoutMargin_blanks indents.blank]
      exact withoutMargin_line unbroken rest
  | bare =>
      simp only [BlockLine.written, List.append_assoc]
      rw [withoutMargin_blanks indents.blank]
      rfl

/-- Without its margin a block has the lines that say something, and blanks
behind them. -/
theorem withoutMargin_lines {indent : Text} (indents : IsIndent indent) {lines : List BlockLine}
    (fit : ∀ line ∈ lines, line.Fits) {held : Text} (heldBlank : ∀ c ∈ held, Text.isBlank c) :
    ∃ tail, (∀ c ∈ tail, Text.isBlank c) ∧
      withoutMargin .blank held (lines.flatMap (BlockLine.written indent) ++ (indent ++ [' '])) =
        lines.flatMap BlockLine.unmargined ++ tail := by
  induction lines generalizing held with
  | nil =>
      refine ⟨held.reverse ++ (indent ++ [' ']), ?_, ?_⟩
      · simp only [List.forall_mem_append, List.forall_mem_singleton, List.mem_reverse]
        exact ⟨heldBlank, indents.blank, by decide⟩
      · rw [List.flatMap_nil, List.nil_append, withoutMargin_blanks indents.blank]
        simp [withoutMargin, Text.isBlank]
  | cons line lines ih =>
      rw [List.forall_mem_cons] at fit
      obtain ⟨tail, tailBlank, below⟩ := ih fit.2 (List.forall_mem_nil _)
      refine ⟨tail, tailBlank, ?_⟩
      rw [List.flatMap_cons, List.append_assoc, withoutMargin_written indents fit.1, below,
        List.flatMap_cons, List.append_assoc]

theorem joinLines_lineFeed (first : Text) (more : List Text) :
    (first :: more).flatMap (· ++ ['\n']) = Text.joinLines (first :: more) ++ ['\n'] := by
  induction more generalizing first with
  | nil =>
      rw [Text.joinLines, List.intercalate_singleton, List.flatMap_singleton]
  | cons second more ih =>
      rw [List.flatMap_cons, ih, Text.joinLines, Text.joinLines, List.intercalate_cons_cons,
        ← List.append_assoc]

theorem unmargined_eq (lines : List BlockLine) :
    lines.flatMap BlockLine.unmargined =
      (lines.filterMap BlockLine.text?).flatMap (· ++ ['\n']) := by
  induction lines with
  | nil => rfl
  | cons line lines ih =>
      rw [List.flatMap_cons, ih]
      cases line with
      | said text => rfl
      | bare => rfl

/-- The lines of a block are joined by line feeds, with blanks behind them. -/
theorem trim_unmargined (lines : List BlockLine) {tail : Text}
    (blank : ∀ c ∈ tail, Text.isBlank c) :
    Text.trim (lines.flatMap BlockLine.unmargined ++ tail) = Text.trim (blockText lines) := by
  rw [Text.trim_append_blank _ blank, unmargined_eq, blockText]
  cases lines.filterMap BlockLine.text? with
  | nil => rfl
  | cons first more =>
      rw [joinLines_lineFeed]
      exact Text.trim_append_blank _ (List.forall_mem_singleton.mpr (by decide))

/-! ## The marks -/

/-- What stands between the marks of a block. -/
def blockInside (indent : Text) (lines : List BlockLine) : Text :=
  '\n' :: (lines.flatMap (BlockLine.written indent) ++ (indent ++ [' ']))

theorem block_eq (indent : Text) (lines : List BlockLine) :
    block indent lines =
      indent ++ "/**".toList ++ (blockInside indent lines ++ "*/".toList ++ ['\n']) := by
  simp [block, blockInside]

/-- Nothing opens a block in front of its opening mark. -/
theorem not_opened {indent : Text} (indents : IsIndent indent) :
    ¬ "/**".toList <:+: indent ++ "/*".toList := by
  intro occurs
  have starless : indent.count '*' = 0 :=
    List.count_eq_zero.mpr (indents.not_mem (by decide) (by decide))
  have stars := occurs.sublist.count_le '*'
  rw [List.count_append, starless] at stars
  exact absurd stars (by decide)

/-- Nothing closes a line of a block. -/
theorem not_closed_written {indent : Text} (indents : IsIndent indent) {line : BlockLine}
    (fits : line.Fits) : ¬ "*/".toList <:+: line.written indent := by
  have solid : ' ' ∉ "*/".toList := by decide
  have unbroken : '\n' ∉ "*/".toList := by decide
  have indentOpen : ¬ "*/".toList <:+: indent := fun occurs =>
    indents.not_mem (by decide) (by decide) (occurs.subset List.mem_cons_self)
  have starOpen : ¬ "*/".toList <:+: ['*'] := by decide
  have nothingOpen : ¬ "*/".toList <:+: [] := by decide
  rw [BlockLine.written.eq_def]
  cases line with
  | said text =>
      have textOpen := (fits text rfl).2
      have split : indent ++ " * ".toList ++ text ++ ['\n'] =
          indent ++ ' ' :: (['*'] ++ ' ' :: (text ++ '\n' :: [])) := by simp
      simp only [split]
      rw [Text.infix_append_cons_iff solid, Text.infix_append_cons_iff solid,
        Text.infix_append_cons_iff unbroken]
      simp only [indentOpen, starOpen, textOpen, nothingOpen, or_self, not_false_eq_true]
  | bare =>
      have split : indent ++ " *".toList ++ ['\n'] = indent ++ ' ' :: (['*'] ++ '\n' :: []) := by
        simp
      simp only [split]
      rw [Text.infix_append_cons_iff solid, Text.infix_append_cons_iff unbroken]
      simp only [indentOpen, starOpen, nothingOpen, or_self, not_false_eq_true]

/-- The lines of a block are complete. -/
theorem written_complete {indent : Text} (indents : IsIndent indent) {line : BlockLine}
    (fits : line.Fits) : ∃ body, '\n' ∉ body ∧ line.written indent = body ++ ['\n'] := by
  have indentUnbroken : '\n' ∉ indent := indents.not_mem (by decide) (by decide)
  cases line with
  | said text =>
      refine ⟨indent ++ " * ".toList ++ text, ?_, rfl⟩
      simp [indentUnbroken, (fits text rfl).1]
  | bare =>
      refine ⟨indent ++ " *".toList, ?_, rfl⟩
      simp [indentUnbroken]

/-- Nothing closes a block in front of its closing mark. -/
theorem not_closed {indent : Text} (indents : IsIndent indent) {lines : List BlockLine}
    (fit : ∀ line ∈ lines, line.Fits) :
    ¬ "*/".toList <:+: blockInside indent lines ++ ['*'] := by
  have inLines : blockInside indent lines ++ ['*'] =
      (['\n'] :: lines.map (BlockLine.written indent) ++ [indent ++ " *".toList]).flatten := by
    simp [blockInside, List.flatMap_def]
  have complete : ∀ line ∈ (['\n'] :: lines.map (BlockLine.written indent) ++
      [indent ++ " *".toList]).dropLast, line.getLast? = some '\n' := by
    rw [List.dropLast_concat, List.forall_mem_cons, List.forall_mem_map]
    refine ⟨rfl, ?_⟩
    intro line member
    obtain ⟨body, -, written⟩ := written_complete indents (fit line member)
    rw [written, List.getLast?_concat]
  rw [inLines, Text.infix_flatten_iff (by decide) (by decide) complete]
  rintro ⟨line, member, occurs⟩
  simp only [List.cons_append, List.mem_cons, List.mem_append, List.mem_map, List.not_mem_nil,
    or_false] at member
  rcases member with rfl | ⟨said, inside, rfl⟩ | rfl
  · exact absurd occurs (by decide)
  · exact not_closed_written indents (fit said inside) occurs
  · -- the line of the closing mark begins like a bare one
    have bare : BlockLine.bare.Fits := by simp [BlockLine.Fits, BlockLine.text?]
    exact not_closed_written indents bare (occurs.trans (List.prefix_append _ _).isInfix)

theorem between?_block {indent : Text} (indents : IsIndent indent) {lines : List BlockLine}
    (fit : ∀ line ∈ lines, line.Fits) :
    between? "/**".toList "*/".toList (block indent lines) = some (blockInside indent lines) := by
  have opened := (Text.cut?_eq_some_iff (by decide)).mpr
    ⟨block_eq indent lines, not_opened indents⟩
  have closed : Text.cut? (blockInside indent lines ++ "*/".toList ++ ['\n']) "*/".toList =
      some (blockInside indent lines, ['\n']) :=
    (Text.cut?_eq_some_iff (by decide)).mpr ⟨rfl, not_closed indents fit⟩
  simp only [between?, opened, closed, Option.map_some]

/-- A block says what its lines say. -/
theorem blockDescription_block {indent : Text} (indents : IsIndent indent)
    {lines : List BlockLine} (fit : ∀ line ∈ lines, line.Fits) :
    blockDescription .javaScript (block indent lines) = Text.trim (blockText lines) := by
  have feed : ∀ c ∈ ['\n'], Text.isBlank c := List.forall_mem_singleton.mpr (by decide)
  obtain ⟨tail, blank, unmargined⟩ := withoutMargin_lines indents fit feed
  have inside : withoutMargin .blank [] (blockInside indent lines) =
      lines.flatMap BlockLine.unmargined ++ tail :=
    (withoutMargin_blanks feed [] _).trans unmargined
  simp only [blockDescription, between?_block indents fit, inside]
  exact trim_unmargined lines blank

/-! ## The run of comment lines -/

/-- Comment lines directly above a declaration are found, and no line above
them. -/
theorem leading_flatten {family : Family} {lines : List Text}
    (complete : ∀ line ∈ lines, ∃ body, '\n' ∉ body ∧ line = body ++ ['\n'])
    (comments : ∀ line ∈ lines, isLeading family (Text.trim line)) {before head : Text}
    (endsRun : EndsRun family before) (unbroken : '\n' ∉ head) (rest : Text) :
    leading family (before ++ lines.flatten ++ head ++ rest)
      (before ++ lines.flatten ++ head).byteLength = lines.flatten := by
  have shifted := leading_shift endsRun (lines.flatten ++ head) rest (Nat.le_refl _)
  rw [← Text.byteLength_append, ← List.append_assoc before] at shifted
  rw [shifted, leading, Text.takeBytes_of_byteLength_le (Nat.le_refl _)]
  have ends : ∀ line ∈ lines, (line.getLast? == some '\n') = true := by
    intro line member
    obtain ⟨body, -, rfl⟩ := complete line member
    rw [List.getLast?_concat, beq_self_eq_true]
  have found : ((Text.segments (lines.flatten ++ head)).filter fun line =>
      line.getLast? == some '\n') = lines := by
    rw [Text.segments_flatten_append complete, List.filter_append, List.filter_eq_self.mpr ends,
      Text.completeLines_of_not_mem unbroken, List.append_nil]
  have all : lines.reverse.takeWhile (fun line => isLeading family (Text.trim line)) =
      lines.reverse := by
    rw [List.takeWhile_eq_self_iff]
    intro line member
    exact comments line (List.mem_reverse.mp member)
  simp only [found, all, List.reverse_reverse]

theorem isLeading_star {gap : Text} (blank : ∀ c ∈ gap, Text.isBlank c) (rest : Text) :
    isLeading .javaScript (Text.trim (gap ++ '*' :: rest)) := by
  rw [Text.trim_blank_append blank, Text.trim_cons (by decide)]
  simp [isLeading, Text.startsWith]

/-- The lines of a block, those of its marks included. -/
def blockLines (indent : Text) (lines : List BlockLine) : List Text :=
  (indent ++ "/**".toList ++ ['\n']) :: lines.map (BlockLine.written indent) ++
    [indent ++ " */".toList ++ ['\n']]

theorem flatten_blockLines (indent : Text) (lines : List BlockLine) :
    (blockLines indent lines).flatten = block indent lines := by
  simp [blockLines, block, List.flatMap_def]

theorem blockLines_complete {indent : Text} (indents : IsIndent indent) {lines : List BlockLine}
    (fit : ∀ line ∈ lines, line.Fits) :
    ∀ line ∈ blockLines indent lines, ∃ body, '\n' ∉ body ∧ line = body ++ ['\n'] := by
  have indentUnbroken : '\n' ∉ indent := indents.not_mem (by decide) (by decide)
  rw [blockLines, List.cons_append, List.forall_mem_cons, List.forall_mem_append,
    List.forall_mem_map, List.forall_mem_singleton]
  refine ⟨⟨_, ?_, rfl⟩, ?_, ⟨_, ?_, rfl⟩⟩
  · simp [indentUnbroken]
  · intro line member
    exact written_complete indents (fit line member)
  · simp [indentUnbroken]

theorem blockLines_isLeading {indent : Text} (indents : IsIndent indent)
    (lines : List BlockLine) :
    ∀ line ∈ blockLines indent lines, isLeading .javaScript (Text.trim line) := by
  have gap : ∀ c ∈ indent ++ [' '], Text.isBlank c := by
    rw [List.forall_mem_append, List.forall_mem_singleton]
    exact ⟨indents.blank, by decide⟩
  have star (rest : Text) : isLeading .javaScript (Text.trim (indent ++ ' ' :: '*' :: rest)) := by
    rw [← List.singleton_append, ← List.append_assoc]
    exact isLeading_star gap rest
  rw [blockLines, List.cons_append, List.forall_mem_cons, List.forall_mem_append,
    List.forall_mem_map, List.forall_mem_singleton]
  refine ⟨?_, ?_, ?_⟩
  · rw [List.append_assoc, Text.trim_blank_append indents.blank]
    decide
  · intro line member
    cases line with
    | said text =>
        simp only [BlockLine.written, List.append_assoc]
        exact star _
    | bare =>
        simp only [BlockLine.written, List.append_assoc]
        exact star _
  · rw [List.append_assoc]
    exact star _

/-- A block directly above a declaration is found whole: it begins where a run of
comment lines may begin, and only an unbroken head stands between it and the
declaration.  If its lines say anything, what is said about the declaration is
what they say, and bare lines add nothing to it. -/
theorem declarationDescription_block {before indent head : Text} {lines : List BlockLine}
    (endsRun : EndsRun .javaScript before) (indents : IsIndent indent)
    (fit : ∀ line ∈ lines, line.Fits) (unbroken : '\n' ∉ head) (rest : Text) :
    leading .javaScript (before ++ block indent lines ++ head ++ rest)
        (before ++ block indent lines ++ head).byteLength = block indent lines ∧
    (Text.trim (blockText lines) ≠ [] →
      declarationDescription .javaScript (block indent lines) rest =
        Text.trim (blockText lines)) := by
  constructor
  · rw [← flatten_blockLines]
    exact leading_flatten (blockLines_complete indents fit) (blockLines_isLeading indents lines)
      endsRun unbroken rest
  · intro speaks
    have nonempty : (Text.trim (blockText lines)).isEmpty = false := by simpa using speaks
    simp only [declarationDescription, blockDescription_block indents fit, nonempty,
      Bool.not_false, if_true]

/-- Lines that begin with a star or with blanks, and an empty one, between bare
ones. -/
def starredLines : List BlockLine :=
  [.bare, .said "* é".toList, .bare, .bare, .said [], .said "  / *".toList, .bare]

theorem declarationDescription_block_starred :
    EndsRun .javaScript "// x\n\n".toList ∧ IsIndent "\t ".toList ∧
    (∀ line ∈ starredLines, line.Fits) ∧ '\n' ∉ "export ".toList ∧
    leading .javaScript
        ("// x\n\n".toList ++ block "\t ".toList starredLines ++ "export ".toList ++
          "class A {}".toList)
        (Text.byteLength ("// x\n\n".toList ++ block "\t ".toList starredLines ++
          "export ".toList)) =
      block "\t ".toList starredLines ∧
    declarationDescription .javaScript (block "\t ".toList starredLines) "class A {}".toList =
      "* é\n\n  / *".toList := by
  have endsRun : EndsRun .javaScript "// x\n\n".toList := by decide
  have indents : IsIndent "\t ".toList := by simp [IsIndent]
  have fit : ∀ line ∈ starredLines, line.Fits := by decide
  have unbroken : '\n' ∉ "export ".toList := by decide
  have text : Text.trim (blockText starredLines) = "* é\n\n  / *".toList := by decide +kernel
  obtain ⟨found, described⟩ :=
    declarationDescription_block endsRun indents fit unbroken "class A {}".toList
  rw [text] at described
  exact ⟨endsRun, indents, fit, unbroken, found, described (by decide)⟩

end Marginalia.Comment
