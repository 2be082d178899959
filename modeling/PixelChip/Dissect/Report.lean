import PixelChip.Dissect.Dissection

/-!
# Reporting a dissection

Each piece gives one line with its offset, the direction of the link and the item in words. If raw
bytes are asked for, they follow in hexadecimal, sixteen to a line, indented by nine blanks so
that no other line of a report without colours looks like them.
-/

namespace PixelChip

/-- What a report shows. -/
structure ReportStyle where
  showRawHex : Bool
  useColor : Bool
  deriving DecidableEq, Repr

namespace ReportStyle

/-- Colours, and no raw bytes. -/
def default : ReportStyle where
  showRawHex := false
  useColor := true

/-- A text in the colour with the given terminal code, where colours are used. -/
def paint (style : ReportStyle) (code text : String) : String :=
  if style.useColor then "\x1b[" ++ code ++ "m" ++ text ++ "\x1b[0m" else text

end ReportStyle

namespace Report

/-- Terminal code of a light cyan, for the link to the chip. -/
def cyan : String := "96"

/-- Terminal code of a light yellow, for the link from the chip. -/
def yellow : String := "93"

/-- Terminal code of red, for skipped bytes. -/
def red : String := "31"

/-- Terminal code of grey (a light black), for raw bytes. -/
def grey : String := "90"

/-- The direction of a link. -/
def label (style : ReportStyle) : Link → String
  | .command => style.paint cyan "CMD → RD53A"
  | .data => style.paint yellow "DATA ← RD53A"

/-- What a piece holds, in words. -/
def contentText (style : ReportStyle) (piece : Piece) : String :=
  match piece.content with
  | .command command => command.text
  | .frame frame => frame.text
  | .skipped reason =>
    style.paint red
      ("skipped " ++ Text.decimal piece.raw.length ++ " byte(s): " ++ reason.message)

/-- Cuts bytes into rows of sixteen, the last of which may be shorter. -/
def rows (bytes : List UInt8) : List (List UInt8) :=
  match bytes with
  | [] => []
  | byte :: rest => (byte :: rest.take 15) :: rows (rest.drop 15)
termination_by bytes.length
decreasing_by
  simp only [List.length_drop, List.length_cons]
  omega

/-- The lines of raw bytes, each with the line break before it. -/
def rawLines (style : ReportStyle) (bytes : List UInt8) : String :=
  String.join ((rows bytes).map fun row => "\n         " ++ style.paint grey (hexBytes row))

/-- The report of a piece. -/
def pieceText (style : ReportStyle) (link : Link) (piece : Piece) : String :=
  Text.hex 8 piece.offset ++ " " ++ label style link ++ ": " ++ contentText style piece
    ++ (if style.showRawHex then rawLines style piece.raw else "")

/-- The report of a summary, with the length of the capture. -/
def summaryText (summary : Summary) (total : Nat) : String :=
  Text.decimal summary.items ++ " item(s), " ++ Text.decimal summary.skippedBytes ++ " of "
    ++ Text.decimal total ++ " byte(s) skipped"

/-- The report of a capture: its pieces and their summary. -/
def texts (style : ReportStyle) (link : Link) (capture : List UInt8) : List String :=
  let pieces := Dissection.ofCapture link capture
  pieces.map (pieceText style link) ++ [summaryText (.ofPieces pieces) capture.length]

end Report
end PixelChip
