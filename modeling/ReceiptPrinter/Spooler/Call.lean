import ReceiptPrinter.Image.Decode
import ReceiptPrinter.Markup.Parser
import ReceiptPrinter.Spooler.DirectPrint
import ReceiptPrinter.Spooler.Worker

/-!
# Calls to a spooler

What a caller may ask for. A call checks its input first, then acts at once on what is shared, and
is either done or waits for the worker: for a ticket or for a job. A call that takes pictures brings
the `PictureDecoder` that reads them.
-/

namespace ReceiptPrinter

open Number

/-- A call to a spooler. -/
inductive Call where
  | configure (options : Options)
  | connect
  | disconnect
  /-- Queues a job of markup with a feed of lines at its end. -/
  | submit (markup : Text) (feed : Option Single)
  | startPrint
  /-- Prints markup and feeds lines. -/
  | printText (markup : Text) (lines : Nat)
  | printFeed (lines : Nat)
  | printQrCode (content : Text)
  | printBarcode (content : Text)
  /-- Prints a picture given as Base64 text, read by `decode`. -/
  | printPicture (base64 : Text) (decode : PictureDecoder := plainDecoder)
  | directPrint (request : DirectPrint) (decode : PictureDecoder := plainDecoder)
  | cutPaper
  | openDrawer
  | cancel (job : Nat)
  | appendText (markup : Text)
  | appendPicture (base64 : Text) (decode : PictureDecoder := plainDecoder)
  | appendBarcode (barcode : Barcode)
  | appendQrCode (content : Text) (moduleSize : UInt8)
  | appendFeed (lines : Nat)
  | shutdown

/-- What a call comes to before it waits. -/
inductive Answer where
  | done (result : PrintResult)
  /-- The worker answers the ticket. -/
  | ticket (ticket : Nat)
  /-- The job was accepted. -/
  | job (job : Nat)
  /-- Whether the job was cancelled. -/
  | cancelled (won : Bool)

namespace Spooler

def helperFeed : Single := Single.ofNat 10

def directQrSize : UInt8 := 38

def requireConfig (s : Spooler) : Except PrintError Config :=
  match s.config with
  | some config => .ok config
  | none => .error (.configuration .notConfigured)

/-- Queues a request that is answered by the next ticket. -/
def pushTicket (s : Spooler) (request : Nat → Request) : Answer × Spooler :=
  let ticket := s.tickets.length
  (.ticket ticket, { s.push (request ticket) with tickets := s.tickets ++ [none] })

/-- Installs a configuration, and has the worker drop a connection to another device. -/
def configure (s : Spooler) (options : Options) : Answer × Spooler :=
  match Config.build options with
  | .error e => (.done (.error (.configuration e)), s)
  | .ok config =>
    let s := { s with config := some config }
    if s.isClosed then (.done (.error .closed), s) else s.pushTicket (.configure config)

/-- Opens the connection. The answer is at once where the stage says that it is open or being
opened: the transport is not asked. -/
def connect (s : Spooler) : Answer × Spooler :=
  match s.requireConfig with
  | .error e => (.done (.error e), s)
  | .ok config =>
    match s.stage with
    | .connecting => (.done (.error .alreadyInProgress), s)
    | .ready | .printing => (.done (.ok ()), s)
    | .idle | .faulted =>
      let s := s.enter .connecting
      if s.isClosed then (.done (.error .closed), s.enter .faulted)
      else s.pushTicket (.connect config)

def disconnect (s : Spooler) : Answer × Spooler :=
  let s := { s with config := none }
  if s.isClosed then (.done (.ok ()), s) else s.pushTicket .disconnect

/-- Queues a job of `body` under the installed configuration; refused where the stage accepts no
jobs. -/
def enqueue (s : Spooler) (body : JobBody) : Except PrintError (Nat × Spooler) :=
  if !s.stage.acceptsJobs then .error (.notReady s.stage)
  else
    match s.requireConfig with
    | .error e => .error e
    | .ok config =>
      if s.isClosed then .error .closed
      else
        let job := s.jobs.length
        .ok (job, { s.push (.print job) with jobs := s.jobs ++ [{ body, config }] })

/-- Reads `markup` and queues it as a job. -/
def submit (s : Spooler) (markup : Text) (feed : Option Single) :
    Except PrintError (Nat × Spooler) :=
  match Markup.parse markup with
  | .error e => .error (.markup e)
  | .ok elements => s.enqueue (.elements elements feed)

/-- The answer of an operation that queues a job. -/
def jobAnswer (s : Spooler) : Except PrintError (Nat × Spooler) → Answer × Spooler
  | .ok (job, s) => (.job job, s)
  | .error e => (.done (.error e), s)

/-- Queues the append buffer as a job, and empties it if the job is accepted. -/
def startPrint (s : Spooler) : Answer × Spooler :=
  match s.submit s.buffer.markup none with
  | .ok (job, s) => (.job job, { s with buffer := .empty })
  | .error e => (.done (.error e), s)

/-- Refuses the content of a QR code that does not stand on one line of markup, or ends it early. -/
def checkQrContent (content : Text) : Except PrintError Unit :=
  if content.isEmpty then .error (.encoding (.qrContent .empty))
  else if content.any (fun c => c == '\n' || c == '\r') ||
      Text.contains Markup.BlockKind.qrCode.closing (Text.lower content) then
    .error (.encoding (.qrContent .notOneLine))
  else .ok ()

/-- Refuses the content of a barcode that cannot be encoded. Its closing tag is not looked for. -/
def checkBarcode (b : Barcode) : Except PrintError Unit :=
  match b.data with
  | .ok _ => .ok ()
  | .error e => .error (.encoding e)

/-- A picture given as Base64 text, read by `decode` and fitted to the paper of `config`. -/
def readPicture (decode : PictureDecoder) (config : Config) (base64 : Text) :
    Except PrintError Bitmap :=
  match Bitmap.ofBase64 base64 config.printableDots decode with
  | .ok bitmap => .ok bitmap
  | .error fault => .error (.encoding (.picture fault))

def printText (s : Spooler) (markup : Text) (lines : Nat) : Except PrintError (Nat × Spooler) :=
  s.submit markup (some (Single.ofNat lines))

def printFeed (s : Spooler) (lines : Nat) : Except PrintError (Nat × Spooler) :=
  s.printText (Markup.alignTag .left) lines

def printQrCode (s : Spooler) (content : Text) : Except PrintError (Nat × Spooler) := do
  checkQrContent content
  s.submit ((Markup.Buffer.empty.qrCode content QrCode.defaultSize).feed 1).markup (some helperFeed)

/-- Prints `content`, without the white space around it, as a centred Code 128 barcode. -/
def printBarcode (s : Spooler) (content : Text) : Except PrintError (Nat × Spooler) := do
  let barcode : Barcode := { symbology := .code128, content := Text.trim content }
  checkBarcode barcode
  s.submit ((Markup.Buffer.empty.barcode barcode).feed 1).markup (some helperFeed)

def printPicture (s : Spooler) (base64 : Text) (decode : PictureDecoder) :
    Except PrintError (Nat × Spooler) := do
  let config ← s.requireConfig
  let bitmap ← readPicture decode config base64
  s.submit ((Markup.Buffer.empty.picture bitmap).feed 1).markup (some helperFeed)

/-- Adds the picture of a direct print, unless it is absent or empty. -/
def addPicture (decode : PictureDecoder) (config : Config) (buffer : Markup.Buffer) :
    Option Text → Except PrintError Markup.Buffer
  | none | some [] => .ok buffer
  | some base64 => (readPicture decode config base64).map buffer.picture

/-- The markup of a direct print: logo, lines, QR code and picture in this order. -/
def directMarkup (decode : PictureDecoder) (config : Config) (request : DirectPrint) :
    Except PrintError Text := do
  let buffer ← addPicture decode config .empty request.logo
  let buffer := request.lines.foldl Markup.Buffer.text buffer
  let buffer ← match request.qrContent with
    | none => Except.ok buffer
    | some content => do
      checkQrContent content
      Except.ok ((buffer.qrCode content directQrSize).feed 1)
  match request.picture with
  | none | some [] => return buffer.markup
  | some base64 => return ((← addPicture decode config buffer (some base64)).feed 1).markup

def directPrint (s : Spooler) (request : DirectPrint) (decode : PictureDecoder) :
    Except PrintError (Nat × Spooler) := do
  let config ← s.requireConfig
  let markup ← directMarkup decode config request
  s.submit markup none

/-- The cut of `config`; a full one where cutting is off. -/
def cutCommands (config : Config) : List Command :=
  match config.cut with
  | .none => CutMode.full.commands
  | mode => mode.commands

def cutPaper (s : Spooler) : Except PrintError (Nat × Spooler) := do
  let config ← s.requireConfig
  s.enqueue (.raw (Command.stream (cutCommands config)))

def openDrawer (s : Spooler) : Except PrintError (Nat × Spooler) := do
  let _ ← s.requireConfig
  s.enqueue (.raw (Command.stream [.openDrawer]))

def cancel (s : Spooler) (job : Nat) : Answer × Spooler :=
  match s.jobs[job]? with
  | none => (.cancelled false, s)
  | some j => (.cancelled j.cancel.1, s.updateJob job fun j => j.cancel.2)

/-- The buffer after an append; of a call that is none, the buffer as it is. -/
def appended (s : Spooler) : Call → Except PrintError Markup.Buffer
  | .appendText markup =>
    match Markup.parse markup with
    | .error e => .error (.markup e)
    | .ok _ => .ok (s.buffer.text markup)
  | .appendPicture base64 decode => do
    let config ← s.requireConfig
    let bitmap ← readPicture decode config base64
    return s.buffer.picture bitmap
  | .appendBarcode barcode => do
    checkBarcode barcode
    return s.buffer.barcode barcode
  | .appendQrCode content size => do
    checkQrContent content
    return s.buffer.qrCode content (if size = 0 then QrCode.defaultSize else size)
  | .appendFeed lines => .ok (s.buffer.feed lines)
  | _ => .ok s.buffer

/-- Appends to the buffer; a failed append leaves it as it was. -/
def append (s : Spooler) (call : Call) : Answer × Spooler :=
  match s.appended call with
  | .ok buffer => (.done (.ok ()), { s with buffer })
  | .error e => (.done (.error e), s)

/-- The part of a call before it waits; it happens at once. -/
def call (s : Spooler) : Call → Answer × Spooler
  | .configure options => s.configure options
  | .connect => s.connect
  | .disconnect => s.disconnect
  | .submit markup feed => s.jobAnswer (s.submit markup feed)
  | .startPrint => s.startPrint
  | .printText markup lines => s.jobAnswer (s.printText markup lines)
  | .printFeed lines => s.jobAnswer (s.printFeed lines)
  | .printQrCode content => s.jobAnswer (s.printQrCode content)
  | .printBarcode content => s.jobAnswer (s.printBarcode content)
  | .printPicture base64 decode => s.jobAnswer (s.printPicture base64 decode)
  | .directPrint request decode => s.jobAnswer (s.directPrint request decode)
  | .cutPaper => s.jobAnswer s.cutPaper
  | .openDrawer => s.jobAnswer s.openDrawer
  | .cancel job => s.cancel job
  | .shutdown => (.done (.ok ()), { s with shutdown := true })
  | c@(.appendText _) | c@(.appendPicture ..) | c@(.appendBarcode _) | c@(.appendQrCode ..)
  | c@(.appendFeed _) => s.append c

end Spooler

/-- What may happen to a spooler next. -/
inductive Action where
  | call (c : Call)
  /-- A step of the worker. -/
  | work
  /-- The worker heeds the request to stop. -/
  | stop
  | change (c : LinkChange)
  | advance (ms : Nat)

namespace Spooler

/-- The spooler after an action; what cannot happen changes nothing. -/
def act (s : Spooler) : Action → Spooler
  | .call c => (s.call c).2
  | .work => s.work.getD s
  | .stop => s.stop.getD s
  | .change c => s.changeLink c
  | .advance ms => s.advance ms

/-- The spooler after `actions` in order. -/
def run (s : Spooler) (actions : List Action) : Spooler := actions.foldl act s

end Spooler

end ReceiptPrinter
