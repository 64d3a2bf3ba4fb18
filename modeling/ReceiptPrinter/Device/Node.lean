import ReceiptPrinter.Link.Error
import ReceiptPrinter.Text.Basic

/-!
# Device nodes

A host shows its devices as nodes in a tree of folders. A path leads to a node step by step: every
step but the last has to reach a folder, an empty step and `.` stay where they are, `..` goes up.
-/

namespace ReceiptPrinter

/-- Why a path cannot be opened for writing. -/
inductive OpenFault where
  | missing
  | isFolder
  /-- The path leads through something that is no folder. -/
  | throughNode
  /-- The system keeps the node closed, for want of permission among others. -/
  | system (error : SystemError) (number : Nat)
  deriving DecidableEq, Repr

namespace OpenFault

def text : OpenFault → String
  | missing => "No such file or directory"
  | isFolder => "Is a directory"
  | throughNode => "Not a directory"
  | system error _ => error.text

def number : OpenFault → Nat
  | missing => 2
  | isFolder => 21
  | throughNode => 20
  | system _ number => number

def numberedText (fault : OpenFault) : String := s!"{fault.text} (os error {fault.number})"

def kind : OpenFault → SystemErrorKind
  | missing => .notFound
  | isFolder | throughNode => .other
  | system error _ => error.kind

end OpenFault

inductive DeviceNode where
  | folder
  /-- A node that keeps what is written at the place it is written to. -/
  | plain (contents : List UInt8)
  /-- A serial line, which takes what is written as it comes. -/
  | serial (received : List UInt8)
  /-- A node that does not open. -/
  | closed (fault : OpenFault)
  deriving DecidableEq, Repr

/-- The steps from the top of the tree to a node. -/
abbrev Place := List Text

structure NodeTree where
  nodes : List (Place × DeviceNode) := []
  deriving DecidableEq, Repr

namespace NodeTree

def node? (tree : NodeTree) (place : Place) : Option DeviceNode :=
  match tree.nodes.lookup place with
  | some node => some node
  | none =>
    if place.isEmpty || tree.nodes.any fun entry => place.isPrefixOf entry.1 then some .folder
    else none

/-- Follows steps from `place` to a node that is no folder; every place on the way must be one. -/
def follow (tree : NodeTree) (place : Place) : List Text → Except OpenFault Place
  | [] =>
    match tree.node? place with
    | none => .error .missing
    | some .folder => .error .isFolder
    | some (.closed fault) => .error fault
    | some _ => .ok place
  | step :: rest =>
    match tree.node? place with
    | none => .error .missing
    | some .folder =>
      if step = [] ∨ step = ['.'] then follow tree place rest
      else if step = ['.', '.'] then follow tree place.dropLast rest
      else follow tree (place ++ [step]) rest
    | some _ => .error .throughNode

/-- The place that `path` opens for writing. -/
def openPath (tree : NodeTree) (path : Text) : Except OpenFault Place :=
  tree.follow [] (Text.splitOn '/' path)

theorem node?_of_follow {tree : NodeTree} {place result : Place} {steps : List Text}
    (h : tree.follow place steps = .ok result) :
    ∃ node, tree.node? result = some node ∧ node ≠ .folder ∧ ∀ fault, node ≠ .closed fault := by
  induction steps generalizing place with
  | nil =>
    simp only [follow] at h
    split at h
    · cases h
    · cases h
    · cases h
    · next node hfolder hclosed hnode =>
      cases h
      exact ⟨node, hnode, hfolder, hclosed⟩
  | cons step rest ih =>
    simp only [follow] at h
    split at h
    · cases h
    · split at h
      · exact ih h
      · split at h
        · exact ih h
        · exact ih h
    · cases h

/-- `contents` with `bytes` written over them from `offset` on. -/
def overwrite (contents : List UInt8) (offset : Nat) (bytes : List UInt8) : List UInt8 :=
  contents.take offset ++ bytes ++ contents.drop (offset + bytes.length)

def write (tree : NodeTree) (place : Place) (offset : Nat) (bytes : List UInt8) : NodeTree :=
  { tree with
    nodes := tree.nodes.map fun entry =>
      if entry.1 = place then
        match entry.2 with
        | .folder | .closed _ => entry
        | .plain contents => (entry.1, .plain (overwrite contents offset bytes))
        | .serial received => (entry.1, .serial (received ++ bytes))
      else entry }

end NodeTree

/-- `name` in `folder`; a name that starts at the top of the tree stays as it is. -/
def joinPath (folder name : Text) : Text :=
  match name with
  | '/' :: _ => name
  | _ => if folder = [] ∨ folder.getLast? = some '/' then folder ++ name else folder ++ '/' :: name

end ReceiptPrinter
