import ReceiptPrinter.Image.Base64
import ReceiptPrinter.Image.Bmp
import ReceiptPrinter.Image.Netpbm
import ReceiptPrinter.Image.Png

/-!
# Pictures as text

A picture is given as Base64 text, bare or as a data URL. `Bitmap.ofBase64` takes the bytes out of
it, reads them with a `PictureDecoder` and rasterizes what comes out. The decoder is an argument of
every call that takes a picture: which formats there are, and which files are damaged, is for the
decoder to say.
-/

namespace ReceiptPrinter

/-- Reads the bytes of a picture file; `none` if they are no picture. -/
abbrev PictureDecoder := List UInt8 → Option Image

/-- A decoder for the files that `Png`, `Netpbm` and `Bmp` read. Calls that leave their decoder out
run with it. -/
def plainDecoder : PictureDecoder := fun bytes =>
  [Png.decode?, Netpbm.decode?, Bmp.decode?].findSome? fun decode => decode bytes

/-- The payload of a data URL; any other text is its own payload. -/
def dataUrlPayload (s : Text) : Text :=
  match Text.splitAt? ";base64,".toList s with
  | some (head, payload) => if "data:".toList.isPrefixOf head then payload else s
  | none => s

/-- The bitmap of a picture given as text, at most `most` dots wide. -/
def Bitmap.ofBase64 (s : Text) (most : Nat) (decode : PictureDecoder := plainDecoder) :
    Except PictureFault Bitmap :=
  match Base64.decode (Text.trim (dataUrlPayload s)) with
  | .error fault => .error (.badBase64 fault)
  | .ok bytes =>
    match decode bytes with
    | none => .error .undecodable
    | some image => image.rasterize most

end ReceiptPrinter
