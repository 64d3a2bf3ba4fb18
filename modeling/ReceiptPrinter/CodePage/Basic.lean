import ReceiptPrinter.CodePage.Gbk
import ReceiptPrinter.CodePage.Windows1252
import ReceiptPrinter.Command.Basic

/-!
# Text in the printer's code pages

In GBK a Chinese character takes two bytes and two columns and an ASCII character one of each; the
euro sign is printed through another code table. In Windows-1252 every character takes one byte.
Control characters are printed as spaces, so text never forms a command, and characters that a code
page lacks as question marks.
-/

namespace ReceiptPrinter

/-- A code page of the printer. -/
inductive Charset where
  | gbk
  | windows1252
  deriving DecidableEq, Repr

namespace Charset

def preamble : Charset → List Command
  | .gbk => [.enterChinese, .chineseCode 1]
  | .windows1252 => [.leaveChinese, .codeTable 16]

/-- The code of a character past ASCII; `none` if the page lacks it. -/
def encode? (charset : Charset) (c : Char) : Option (List UInt8) :=
  match charset with
  | .gbk => if c = '€' then some [0x80] else Gbk.encode? c
  | .windows1252 => (Windows1252.encode? c).map fun b => [b]

/-- Columns that `c` takes at normal size: as many as its GBK code has bytes, otherwise one. -/
def charWidth (charset : Charset) (c : Char) : Nat :=
  if Text.isAscii c then 1
  else
    match charset with
    | .gbk => ((charset.encode? c).map List.length).getD 1
    | .windows1252 => 1

def textWidth (charset : Charset) (s : Text) : Nat := (s.map charset.charWidth).sum

theorem textWidth_cons (charset : Charset) (c : Char) (s : Text) :
    charset.textWidth (c :: s) = charset.charWidth c + charset.textWidth s := by
  rw [textWidth, List.map_cons, List.sum_cons, ← textWidth]

theorem textWidth_append (charset : Charset) (s t : Text) :
    charset.textWidth (s ++ t) = charset.textWidth s + charset.textWidth t := by
  rw [textWidth, List.map_append, List.sum_append_nat, ← textWidth, ← textWidth]

/-- The longest start of a text that takes at most so many columns. -/
def truncate (charset : Charset) : Nat → Text → Text
  | _, [] => []
  | columns, c :: s =>
    if charset.charWidth c ≤ columns then c :: truncate charset (columns - charset.charWidth c) s
    else []

/-- The euro sign, which GBK lacks: leave Chinese mode, print it from code table 19, and come back.
-/
def euro : List Command := [.leaveChinese, .codeTable 19, .print 0xD5, .enterChinese]

def charCommands (charset : Charset) (c : Char) : List Command :=
  if Text.isControl c then [.print 0x20]
  else if Text.isAscii c then [.print (UInt8.ofNat c.toNat)]
  else if c = '€' ∧ charset = .gbk then euro
  else
    match charset.encode? c with
    | some bytes => bytes.map .print
    | none => [.print 0x3F]

def textCommands (charset : Charset) (s : Text) : List Command := s.flatMap charset.charCommands

/-- The bytes that `textCommands` sends. -/
def encodeText (charset : Charset) (s : Text) : List UInt8 :=
  Command.stream (charset.textCommands s)

end Charset

end ReceiptPrinter
