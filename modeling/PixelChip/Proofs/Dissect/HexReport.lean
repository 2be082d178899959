import PixelChip.Dissect.Report
import PixelChip.Proofs.Dissect.Account
import PixelChip.Proofs.Dissect.HexDump
import PixelChip.Proofs.Link.Description

/-!
# A report is a hex dump of its capture

The report of a piece is a line that starts with the offset, and then one line for every sixteen raw
bytes.  Only these start with nine blanks, so they can be told from the rest, and together they are
a hex dump of the pieces (`raw_part_reads_back`), which are the capture.
-/

namespace PixelChip

open Text

namespace Dissection

/-- The cause of a skipped byte is one that the parser reports, and is found in bytes. -/
lemma foundInBytes_of_mem_skippedFrom {α : Type} [Packet α] [LawfulPacket α]
    (hparse : ∀ {src : List UInt8} {cause : ParseError},
      Packet.parse (α := α) src = .error cause → cause.FoundInBytes)
    {offset : Nat} {src : List UInt8} {skip : SkippedByte} (h : skip ∈ skippedFrom α offset src) :
    skip.reason.FoundInBytes := by
  induction src using bufferInduction (α := α) generalizing offset with
  | nil => exact absurd h List.not_mem_nil
  | item src item n hsrc hitem ih =>
      rw [skippedFrom_of_parse_ok offset hsrc hitem] at h
      exact ih h
  | skip byte rest reason hskip ih =>
      rw [skippedFrom_of_parse_error offset hskip, List.mem_cons] at h
      obtain rfl | h := h
      · exact hparse hskip
      · exact ih h

/-- The cause of a run of skipped bytes is that of its first byte. -/
lemma foundInBytes_of_mem_pieces {α : Type} [Packet α] [UniformPacket α] {wrap : α → Content}
    (hwrap : ∀ a, (wrap a).isSkipped = false)
    (hparse : ∀ {src : List UInt8} {cause : ParseError},
      Packet.parse (α := α) src = .error cause → cause.FoundInBytes)
    {capture : List UInt8} {piece : Piece} (hpiece : piece ∈ pieces wrap capture)
    {reason : ParseError} (hreason : piece.content = .skipped reason) : reason.FoundInBytes := by
  rw [pieces_eq] at hpiece
  obtain ⟨byte, -, hmem⟩ := reason_of_mem_runs hwrap 0 capture piece hpiece reason hreason
  exact foundInBytes_of_mem_skippedFrom hparse hmem

lemma foundInBytes_of_mem_ofCapture {link : Link} {capture : List UInt8} {piece : Piece}
    (hpiece : piece ∈ ofCapture link capture) {reason : ParseError}
    (hreason : piece.content = .skipped reason) : reason.FoundInBytes := by
  cases link with
  | command =>
      exact foundInBytes_of_mem_pieces (fun _ => rfl) Command.foundInBytes_of_parse hpiece hreason
  | data =>
      exact foundInBytes_of_mem_pieces (fun _ => rfl) Frame.foundInBytes_of_parse hpiece hreason

/-- The pieces of a capture of either link are the capture. -/
lemma flatMap_raw_ofCapture (link : Link) (capture : List UInt8) :
    (ofCapture link capture).flatMap (·.raw) = capture := by
  cases link with
  | command => exact (accounts_pieces (fun _ => rfl) capture).raw_eq
  | data => exact (accounts_pieces (fun _ => rfl) capture).raw_eq

end Dissection

namespace Report

/-- A report with raw bytes and without colours. -/
def plainHex : ReportStyle where
  showRawHex := true
  useColor := false

/-- Whether a line is indented by nine blanks. -/
def isIndented (line : List Char) : Bool :=
  (List.replicate 9 ' ').isPrefixOf line

/-- The lines of a report that are indented by nine blanks, as a text of their own. -/
def rawPart (text : String) : List Char :=
  ['\n'].intercalate ((text.toList.splitOn '\n').filter isIndented)

/-! ## Rows -/

lemma flatten_rows (bytes : List UInt8) : (rows bytes).flatten = bytes := by
  induction bytes using rows.induct with
  | case1 => rw [rows, List.flatten_nil]
  | case2 byte rest ih =>
      rw [rows, List.flatten_cons, ih, List.cons_append, List.take_append_drop]

/-- A row is indented. -/
lemma isIndented_row (bytes : List UInt8) : isIndented (HexDump.row 9 bytes) = true :=
  List.isPrefixOf_iff_prefix.2 (List.prefix_append _ _)

/-- A line that starts with a number is not indented. -/
lemma isIndented_append {digits : List Char} (hne : digits ≠ [])
    (hdigits : ∀ c ∈ digits, c ∈ digitChars) (rest : List Char) :
    isIndented (digits ++ rest) = false := by
  obtain _ | ⟨c, digits⟩ := digits
  · exact absurd rfl hne
  · rw [isIndented, ← Bool.not_eq_true, List.isPrefixOf_iff_prefix, List.replicate_succ,
      List.cons_append, List.cons_prefix_cons]
    rintro ⟨rfl, -⟩
    exact absurd (hdigits ' ' List.mem_cons_self) (by decide)

/-! ## The lines of a report -/

/-- The line of a report that describes a piece. -/
def header (link : Link) (piece : Piece) : String :=
  Text.hex 8 piece.offset ++ " " ++ label plainHex link ++ ": " ++ contentText plainHex piece

/-- Lines that each follow a line break are joined to the one in front of them by line breaks. -/
lemma append_flatMap_newline (first : List Char) (lines : List (List Char)) :
    first ++ lines.flatMap ('\n' :: ·) = ['\n'].intercalate (first :: lines) := by
  induction lines generalizing first with
  | nil => rw [List.flatMap_nil, List.append_nil, List.intercalate_singleton]
  | cons line lines ih =>
      rw [List.flatMap_cons, List.cons_append, ih, List.intercalate_cons_cons, List.append_assoc,
        List.singleton_append]

/-- The text of a piece is its header and the rows of its bytes, one to a line. -/
lemma toList_pieceText (link : Link) (piece : Piece) :
    (pieceText plainHex link piece).toList =
      ['\n'].intercalate ((header link piece).toList :: (rows piece.raw).map (HexDump.row 9)) := by
  have hrow : ∀ bytes, ("\n         " ++ plainHex.paint grey (hexBytes bytes)).toList =
      '\n' :: HexDump.row 9 bytes := by
    intro bytes
    rw [String.toList_append]
    rfl
  have hrows : (rawLines plainHex piece.raw).toList =
      ((rows piece.raw).map (HexDump.row 9)).flatMap ('\n' :: ·) := by
    rw [rawLines, String.toList_join, List.flatMap_map, List.flatMap_map]
    simp only [hrow]
  rw [← append_flatMap_newline, ← hrows, ← String.toList_append]
  rfl

lemma newline_not_mem_header {link : Link} {piece : Piece}
    (h : ∀ reason, piece.content = .skipped reason → reason.FoundInBytes) :
    '\n' ∉ (header link piece).toList := by
  have hlabel : '\n' ∉ (label plainHex link).toList := by
    cases link <;> simp [label, plainHex, ReportStyle.paint]
  have hcontent : '\n' ∉ (contentText plainHex piece).toList := by
    unfold contentText
    cases hpiece : piece.content with
    | command command => exact command.newline_not_mem_text
    | frame frame => exact frame.newline_not_mem_text
    | skipped reason =>
        have hmessage := (h reason hpiece).newline_not_mem_message
        simp [plainHex, ReportStyle.paint, hmessage]
  unfold header
  simp [hlabel, hcontent]

/-- Of the lines of a piece those with its bytes are indented. -/
lemma filter_splitOn_pieceText {link : Link} {piece : Piece}
    (h : ∀ reason, piece.content = .skipped reason → reason.FoundInBytes) :
    ((pieceText plainHex link piece).toList.splitOn '\n').filter isIndented =
      (rows piece.raw).map (HexDump.row 9) := by
  have hheader : isIndented (header link piece).toList = false := by
    -- the offset stands in front
    unfold header
    rw [String.toList_append, String.toList_append, String.toList_append, String.toList_append,
      List.append_assoc, List.append_assoc, List.append_assoc]
    exact isIndented_append (toList_padded_ne_nil 16 8 _)
      (fun c => mem_digitChars_of_mem_padded (by decide) (by decide)) _
  have hlines : ∀ line ∈ (header link piece).toList :: (rows piece.raw).map (HexDump.row 9),
      '\n' ∉ line := by
    intro line hline
    obtain hfirst | hline := List.mem_cons.1 hline
    · rw [hfirst]
      exact newline_not_mem_header h
    · obtain ⟨bytes, -, rfl⟩ := List.mem_map.1 hline
      exact HexDump.not_mem_row (by decide) newline_not_mem_digitChars 9 bytes
  rw [toList_pieceText, List.splitOn_intercalate '\n' hlines (List.cons_ne_nil _ _),
    List.filter_cons_of_neg (by simp [hheader]), List.filter_eq_self]
  intro line hline
  obtain ⟨bytes, -, rfl⟩ := List.mem_map.1 hline
  exact isIndented_row bytes

/-- The summary is one line, which is not indented. -/
lemma filter_splitOn_summaryText (summary : Summary) (total : Nat) :
    ((summaryText summary total).toList.splitOn '\n').filter isIndented = [] := by
  have hnewline : '\n' ∉ (summaryText summary total).toList := by
    unfold summaryText
    simp
  have hindented : isIndented (summaryText summary total).toList = false := by
    unfold summaryText
    simp only [String.append_assoc]
    rw [String.toList_append]
    exact isIndented_append (toList_decimal_ne_nil _) (fun c => mem_digitChars_of_mem_decimal) _
  rw [List.splitOn_eq_singleton hnewline, List.filter_cons_of_neg (by simp [hindented]),
    List.filter_nil]

/-- The indented lines of a report are the rows of its pieces. -/
lemma rawPart_texts (link : Link) (capture : List UInt8) :
    rawPart ("\n".intercalate (texts plainHex link capture)) = ['\n'].intercalate
      (((Dissection.ofCapture link capture).flatMap fun piece => rows piece.raw).map
        (HexDump.row 9)) := by
  have hpieces : ∀ piece ∈ Dissection.ofCapture link capture,
      ((pieceText plainHex link piece).toList.splitOn '\n').filter isIndented =
        (rows piece.raw).map (HexDump.row 9) := fun piece hpiece =>
    filter_splitOn_pieceText fun reason => Dissection.foundInBytes_of_mem_ofCapture hpiece
  have hcut : ("\n".intercalate (texts plainHex link capture)).toList.splitOn '\n' =
      (texts plainHex link capture).flatMap fun text => text.toList.splitOn '\n' := by
    have htexts : (texts plainHex link capture).map String.toList ≠ [] := by
      simp [texts]
    have hnewline : "\n".toList = ['\n'] := rfl
    rw [String.toList_intercalate, hnewline, List.splitOn_eq_splitOnP,
      HexDump.splitOnP_intercalate (p := (· == '\n')) (by decide) htexts, List.flatMap_map]
    rfl
  rw [rawPart, hcut, List.filter_flatMap, texts, List.flatMap_append, List.flatMap_singleton,
    filter_splitOn_summaryText, List.append_nil, List.flatMap_map, List.flatMap_congr hpieces,
    List.map_flatMap]

/-- **A report with raw bytes is a hex dump of its capture.** -/
theorem raw_part_reads_back [HexDecoder] [LawfulHexDecoder] (link : Link)
    (capture : List UInt8) :
    HexDump.parse (rawPart ("\n".intercalate (texts plainHex link capture))) = .ok capture := by
  rw [rawPart_texts, HexDump.parse_rows, List.flatten_eq_flatMap, List.flatMap_assoc]
  simp only [← List.flatten_eq_flatMap, flatten_rows]
  rw [Dissection.flatMap_raw_ofCapture]

/-- A reset of the event counter and a skipped byte stand in rows of their own. -/
theorem raw_part_of_reset_reads_back :
    LawfulHexDecoder ∧
      rawPart ("\n".intercalate (texts plainHex .command [0x5A, 0x5A, 0xFF])) =
        "         5a 5a\n         ff".toList ∧
      HexDump.parse (rawPart ("\n".intercalate (texts plainHex .command [0x5A, 0x5A, 0xFF]))) =
        .ok [0x5A, 0x5A, 0xFF] := by
  refine ⟨inferInstance, ?_, raw_part_reads_back .command [0x5A, 0x5A, 0xFF]⟩
  rw [rawPart_texts]
  decide +kernel

end Report
end PixelChip
