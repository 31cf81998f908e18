import Marginalia.Proofs.Codec
import Mathlib.Data.List.DropRight

/-!
# The form of a file

What is read of a file is not the file: breaks are unified, a byte order mark is
dropped, and bytes of a declared encoding are written anew.  Main statements: what
is heard of a text up to the end of a token is heard of a beginning of that text;
and the table of line starts puts the place behind such a beginning at its true
offset exactly if the beginning fits the form of the file.  Both hold for files in
UTF-8, with a mark or without, and for files that a regular codec reads.
-/

namespace Marginalia.Offside

/-! ## Forms -/

/-- How the bytes of a file are heard. -/
inductive Form where
  /-- In UTF-8. -/
  | plain
  /-- In UTF-8, behind a byte order mark. -/
  | marked
  /-- As a codec reads them. -/
  | coded (codec : Codec)

/-- The last line of a text, as far as it goes. -/
def lastLine (text : Text) : Text :=
  text.rtakeWhile (· != '\n')

theorem lastLine_append {above line : Text} (ends : EndsLine '\n' above) (unbroken : '\n' ∉ line) :
    lastLine (above ++ line) = line := by
  induction line using List.reverseRecOn with
  | nil =>
      rw [List.append_nil]
      rcases ends.cases with rfl | ⟨front, rfl⟩
      · rfl
      · exact List.rtakeWhile_concat_neg _ _ _ (by simp)
  | append_singleton line last ih =>
      simp only [List.mem_append, List.mem_singleton, not_or] at unbroken
      rw [lastLine] at ih ⊢
      rw [← List.append_assoc, List.rtakeWhile_concat_pos _ _ _ (by simpa using Ne.symm unbroken.2),
        ih unbroken.1]

namespace Form

/-- What is dropped from the beginning of what is heard. -/
def mark : Form → Text
  | .marked => byteOrderMark
  | .plain | .coded _ => []

/-- The codec that reads the bytes of a file. -/
def codec : Form → Codec
  | .plain | .marked => Bytes.toText?
  | .coded codec => codec

/-- What is heard of a text: its breaks are unified, a codec reads its bytes, and what
is read is written in UTF-8. -/
def hear (form : Form) (text : Text) : Option Text :=
  (form.codec (Text.toBytes (unifyBreaks false text))).map octets

/-- UTF-8, or a form with a regular codec. -/
def Regular : Form → Prop
  | .plain | .marked => True
  | .coded codec => codec.Regular

/-- The form of a file: it begins with a byte order mark, or declares an encoding that
a codec reads, or neither. -/
def ofText (codecs : Codecs) (text : Text) : Form :=
  if text.head? = some '\uFEFF' then .marked
  else
    match (fileEncoding? (closeLastLine (unifyBreaks false (octets text)))).map
      (encoding? codecs) with
    | some (some (.coded codec)) => .coded codec
    | _ => .plain

/-- A beginning of a file fits its form.  No carriage return stands alone in it; it
goes beyond the first line, if that has a mark; and its last line has as many bytes
as the characters that a codec reads of it. -/
def Fits : Form → Text → Prop
  | .plain, front => Paired front
  | .marked, front => Paired front ∧ '\n' ∈ front
  | .coded codec, front =>
    Paired front ∧ (codec (Text.toBytes (lastLine front))).map Text.byteLength =
      some (lastLine front).byteLength

theorem Regular.readsUnits {form : Form} (regular : form.Regular) :
    ∃ known, form.codec.ReadsUnits known := by
  cases form with
  | plain => exact regular_utf8
  | marked => exact regular_utf8
  | coded codec => exact regular

/-- What is heard is the meaning of units that are spelled in the text. -/
theorem hear_eq_some_iff {form : Form} {known : Bytes × Text → Prop}
    (reads : form.codec.ReadsUnits known) {text heard : Text} :
    form.hear text = some heard ↔
      ∃ units, (∀ unit ∈ units, known unit) ∧
        spelling units = Text.toBytes (unifyBreaks false text) ∧ octets (meaning units) = heard := by
  rw [hear, Option.map_eq_some_iff]
  constructor
  · rintro ⟨decoded, read, rfl⟩
    obtain ⟨units, areKnown, spelled, rfl⟩ := (reads.reads_iff _ _).mp read
    exact ⟨units, areKnown, spelled, rfl⟩
  · rintro ⟨units, areKnown, spelled, rfl⟩
    exact ⟨meaning units, (reads.reads_iff _ _).mpr ⟨units, areKnown, spelled, rfl⟩, rfl⟩

end Form

/-! ## Offsets -/

/-- The table puts a column of a line behind the beginning of that line. -/
theorem offset?_lineStarts {above : Text} (ends : EndsLine '\n' above) (rest : Text)
    (column : Nat) :
    offset? (lineStarts (Text.toBytes (above ++ rest)))
      { line := above.count '\n' + 1, column } = some (above.byteLength + column) := by
  simp only [offset?, Nat.add_sub_cancel, toBytes_append, ← count_toBytes,
    lineStarts_count ends.toBytes, Option.map_some, length_toBytes]

/-- A place with more lines above than the text has line feeds lies behind the
text. -/
theorem lt_of_offset? {front rest : Text} {place : Place} {offset : Nat}
    (more : front.count '\n' + 1 < place.line)
    (found : offset? (lineStarts (Text.toBytes (front ++ rest))) place = some offset) :
    front.byteLength < offset := by
  obtain ⟨start, held, rfl⟩ := Option.map_eq_some_iff.mp found
  rw [toBytes_append] at held
  have beyond := lt_of_lineStarts (by rw [count_toBytes]; omega) held
  rw [length_toBytes] at beyond
  omega

/-- The lines above and the last line of a text, with what is heard of the lines above
and read of the last line. -/
structure LastLine (form : Form) (above line heardAbove meant : Text) : Prop where
  ends : EndsLine '\n' above
  unbroken : '\n' ∉ line
  heardEnds : EndsLine '\n' heardAbove
  feeds : heardAbove.count '\n' = above.count '\n'
  reads : form.codec (Text.toBytes line) = some meant
  meantUnbroken : '\n' ∉ meant

theorem endsLine_unifyBreaks {text : Text} (ends : EndsLine '\n' text) :
    EndsLine '\n' (unifyBreaks false text) := by
  rcases ends.cases with rfl | ⟨front, rfl⟩
  · exact endsLine_nil _
  · rw [unifyBreaks_append]
    cases last : returned false front with
    | true =>
        obtain ⟨inner, ended⟩ := endsLine_of_returned false last
        have swallowed : unifyBreaks true ['\n'] = [] := rfl
        rw [ended, swallowed, List.append_nil]
        exact endsLine_concat _ inner
    | false => exact endsLine_concat _ _

theorem count_unifyBreaks_of_paired {text : Text} (paired : Paired text) :
    (unifyBreaks false text).count '\n' = text.count '\n' := by
  have feeds := count_unifyBreaks false text
  rw [(lone_eq_zero_iff false text).mpr ⟨by simp, paired⟩] at feeds
  simpa using feeds

/-- A text without lone carriage returns is heard line by line. -/
theorem exists_lastLine_of_paired {form : Form} (regular : form.Regular) {text heard : Text}
    (hears : form.hear text = some heard) (paired : Paired text) :
    ∃ above line heardAbove meant, text = above ++ line ∧ heard = heardAbove ++ octets meant ∧
      LastLine form above line heardAbove meant := by
  obtain ⟨known, readsUnits⟩ := regular.readsUnits
  obtain ⟨units, areKnown, spelled, rfl⟩ := (Form.hear_eq_some_iff readsUnits).mp hears
  obtain ⟨above, line, rfl, ends, unbroken⟩ := exists_lastLine '\n' text
  have noReturn : '\r' ∉ line := by
    intro member
    obtain ⟨front, back, rfl⟩ := List.append_of_mem member
    have feed := paired (above ++ front) back (by simp)
    exact unbroken (by simp [List.mem_of_mem_head? feed])
  have whole : unifyBreaks false (above ++ line) = unifyBreaks false above ++ line := by
    rw [unifyBreaks_append, unifyBreaks_of_not_mem noReturn unbroken]
  have feeds : (unifyBreaks false above).count '\n' = above.count '\n' := by
    have all := count_unifyBreaks_of_paired paired
    rw [whole, List.count_append, List.count_append] at all
    omega
  rw [whole, toBytes_append] at spelled
  obtain ⟨left, right, rfl, spelledAbove, spelledLine, meantEnds⟩ :=
    exists_lines (readsUnits.areUnits areKnown) (endsLine_unifyBreaks ends).toBytes spelled
  have ofLeft : ∀ unit ∈ left, known unit :=
    fun unit member => areKnown unit (List.mem_append_left right member)
  have ofRight : ∀ unit ∈ right, known unit :=
    fun unit member => areKnown unit (List.mem_append_right left member)
  refine ⟨above, line, octets (meaning left), meaning right, rfl, ?_, ends, unbroken,
    meantEnds.octets, ?_, (readsUnits.reads_iff _ _).mpr ⟨right, ofRight, spelledLine, rfl⟩, ?_⟩
  · rw [meaning_append, octets_append]
  · rw [count_octets (by decide), count_meaning (readsUnits.areUnits ofLeft), spelledAbove,
      count_toBytes, feeds]
  · rw [← List.count_eq_zero, count_meaning (readsUnits.areUnits ofRight), spelledLine,
      count_toBytes, List.count_eq_zero]
    exact unbroken

namespace LastLine

variable {form : Form} {above line heardAbove meant rest : Text} {offset : Nat}

/-- The offset of what is heard in lines above and in a last line. -/
theorem offset_eq {heard heardLine : Text} (lines : LastLine form above line heardAbove meant)
    (heardEnds : EndsLine '\n' heard) (unbroken : '\n' ∉ heardLine)
    (feeds : heard.count '\n' = above.count '\n')
    (found : offset? (lineStarts (Text.toBytes (above ++ line ++ rest)))
      (Place.origin.after (heard ++ heardLine)) = some offset) :
    offset = above.byteLength + heardLine.length := by
  rw [Place.after_lastLine heardEnds unbroken, feeds, List.append_assoc,
    offset?_lineStarts lines.ends] at found
  exact (Option.some.inj found).symm

theorem octets_unbroken (lines : LastLine form above line heardAbove meant) :
    '\n' ∉ octets meant := by
  rw [mem_octets_iff (by decide)]
  exact lines.meantUnbroken

/-- Without a mark the place is as far behind the lines above as what is read. -/
theorem offset_unmarked (lines : LastLine form above line heardAbove meant)
    (found : offset? (lineStarts (Text.toBytes (above ++ line ++ rest)))
      (Place.origin.after (heardAbove ++ octets meant)) = some offset) :
    offset = above.byteLength + meant.byteLength := by
  rw [lines.offset_eq lines.heardEnds lines.octets_unbroken lines.feeds found, length_octets]

/-- Without its mark a first line is heard too short, and a later line as it is. -/
theorem offset_marked {heard : Text} (lines : LastLine form above line heardAbove meant)
    (hears : heardAbove ++ octets meant = byteOrderMark ++ heard)
    (found : offset? (lineStarts (Text.toBytes (above ++ line ++ rest)))
      (Place.origin.after heard) = some offset) :
    (above = [] ∧ offset < meant.byteLength) ∨
      ('\n' ∈ above ∧ offset = above.byteLength + meant.byteLength) := by
  have feeds := lines.feeds
  rcases lines.ends.cases with rfl | ⟨front, rfl⟩
  · obtain rfl : heardAbove = [] := by
      rcases lines.heardEnds.cases with empty | ⟨front, rfl⟩
      · exact empty
      · simp at feeds
    rw [List.nil_append] at hears
    have unbroken : '\n' ∉ heard := by
      intro member
      apply lines.octets_unbroken
      rw [hears]
      exact List.mem_append_right byteOrderMark member
    have longer := congrArg List.length hears
    rw [length_octets, List.length_append] at longer
    have size : byteOrderMark.length = 3 := rfl
    have same := lines.offset_eq (endsLine_nil '\n') unbroken rfl found
    rw [Text.byteLength_nil] at same
    exact Or.inl ⟨rfl, by omega⟩
  · obtain ⟨more, rfl, rfl⟩ : ∃ more, heardAbove = byteOrderMark ++ more ∧
        heard = more ++ octets meant := by
      rcases List.append_eq_append_iff.mp hears with ⟨more, mark, -⟩ | split
      · -- the mark would hold the feed that ends the lines above
        have feed : '\n' ∈ byteOrderMark := by
          rw [mark]
          apply List.mem_append_left
          apply List.count_pos_iff.mp
          rw [feeds, List.count_append, List.count_singleton_self]
          exact Nat.succ_pos _
        exact absurd feed (by decide)
      · exact split
    rw [List.count_append] at feeds
    refine Or.inr ⟨by simp, ?_⟩
    rw [lines.offset_eq lines.heardEnds.of_append lines.octets_unbroken
      ((Nat.zero_add _).symm.trans feeds) found, length_octets]

/-- In UTF-8 a line is read as it is. -/
theorem meant_eq (lines : LastLine form above line heardAbove meant)
    (utf8 : form.codec = Bytes.toText?) : meant = line := by
  have read := lines.reads
  rw [utf8, Bytes.toText?_eq_some_iff.mpr rfl] at read
  exact (Option.some.inj read).symm

end LastLine

namespace Form

theorem count_hear {form : Form} (regular : form.Regular) {text heard : Text}
    (hears : form.hear text = some heard) :
    heard.count '\n' = text.count '\n' + lone false text := by
  obtain ⟨known, reads⟩ := regular.readsUnits
  obtain ⟨units, areKnown, spelled, rfl⟩ := (hear_eq_some_iff reads).mp hears
  rw [count_octets (by decide), count_meaning (reads.areUnits areKnown), spelled, count_toBytes]
  exact count_unifyBreaks false text

theorem Fits.paired {form : Form} {front : Text} (fits : form.Fits front) : Paired front := by
  cases form with
  | plain => exact fits
  | marked => exact fits.1
  | coded codec => exact fits.1

/-- A lone carriage return moves the place behind it beyond its true offset. -/
theorem lt_of_not_paired {form : Form} (regular : form.Regular) {front rest heard : Text}
    {offset : Nat} (hears : form.hear front = some (form.mark ++ heard))
    (unpaired : ¬ Paired front)
    (found : offset? (lineStarts (Text.toBytes (front ++ rest))) (Place.origin.after heard) =
      some offset) : front.byteLength < offset := by
  have positive : lone false front ≠ 0 := by
    intro none
    exact unpaired ((lone_eq_zero_iff false _).mp none).2
  have noFeed : form.mark.count '\n' = 0 := by cases form <;> rfl
  have feeds := count_hear regular hears
  rw [List.count_append, noFeed] at feeds
  have firstLine : Place.origin.line = 1 := rfl
  apply lt_of_offset? _ found
  rw [Place.line_after, firstLine]
  omega

/-- The table puts the place behind a beginning of a file at its true offset
exactly if the beginning fits the form of the file. -/
theorem offset_iff {form : Form} (regular : form.Regular) {front rest heard : Text} {offset : Nat}
    (hears : form.hear front = some (form.mark ++ heard))
    (found : offset? (lineStarts (Text.toBytes (front ++ rest))) (Place.origin.after heard) =
      some offset) : offset = front.byteLength ↔ form.Fits front := by
  by_cases paired : Paired front
  case neg =>
    have beyond := lt_of_not_paired regular hears paired found
    constructor
    · intro same
      omega
    · intro fits
      exact absurd fits.paired paired
  obtain ⟨above, line, heardAbove, meant, rfl, heardLines, lines⟩ :=
    exists_lastLine_of_paired regular hears paired
  rw [Text.byteLength_append]
  cases form with
  | plain =>
      obtain rfl : heard = heardAbove ++ octets meant := heardLines
      rw [lines.offset_unmarked found, lines.meant_eq rfl]
      exact ⟨fun _ => paired, fun _ => rfl⟩
  | marked =>
      have sameLine := lines.meant_eq rfl
      rcases lines.offset_marked heardLines.symm found with ⟨rfl, shorter⟩ | ⟨below, same⟩
      · constructor
        · intro same
          rw [Text.byteLength_nil, ← sameLine] at same
          omega
        · intro fits
          exact absurd fits.2 lines.unbroken
      · rw [sameLine] at same
        exact ⟨fun _ => ⟨paired, List.mem_append_left line below⟩, fun _ => same⟩
  | coded codec =>
      obtain rfl : heard = heardAbove ++ octets meant := heardLines
      have reads : codec (Text.toBytes line) = some meant := lines.reads
      rw [lines.offset_unmarked found, Nat.add_left_cancel_iff, Fits,
        lastLine_append lines.ends lines.unbroken, reads, Option.map_some, Option.some.injEq]
      exact ⟨fun same => ⟨paired, same⟩, fun fits => fits.2⟩

/-- In a charset of single bytes that leaves ASCII alone, a beginning of a file fits
exactly if its last line is ASCII, carriage returns apart. -/
theorem fits_bytes_iff {upper : String} {front : Text} :
    (coded (Repertoire.bytes [] upper).codec).Fits front ↔
      Paired front ∧ ∀ c ∈ lastLine front, c.toNat < 0x80 := by
  have bytesOf : (∀ byte ∈ Text.toBytes (lastLine front), byte.toNat < 0x80) ↔
      ∀ c ∈ lastLine front, c.toNat < 0x80 := by
    rw [← ascii_octets_iff]
    simp [octets, asChars, toNat_asChar]
  rw [Fits, ← bytesOf]
  apply and_congr_right'
  constructor
  · intro same
    obtain ⟨meant, read, size⟩ := Option.map_eq_some_iff.mp same
    obtain ⟨length, ascii⟩ := size_of_bytes read
    rw [← ascii, ← byteLength_eq_length_iff, size, length, length_toBytes]
  · intro ascii
    have read : (Repertoire.bytes [] upper).codec (Text.toBytes (lastLine front)) =
        some (octets (lastLine front)) := mapM_byteMeaning_of_ascii upper.toList ascii
    rw [read, Option.map_some, byteLength_eq_length_iff.mpr, length_octets]
    exact ascii_octets_iff.mpr (bytesOf.mp ascii)

end Form

end Marginalia.Offside
