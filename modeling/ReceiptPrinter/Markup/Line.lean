import ReceiptPrinter.Text.Basic

/-!
# Lines of markup

Lines end with a line feed or with a carriage return and a line feed.
-/

namespace ReceiptPrinter.Markup

/-- The lines of `markup`, each without its line ending. -/
def splitLines (markup : Text) : List Text := (Text.splitOn '\n' markup).map Text.chomp

end ReceiptPrinter.Markup
