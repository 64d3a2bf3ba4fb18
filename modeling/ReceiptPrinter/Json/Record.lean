import ReceiptPrinter.Json.Reader

/-!
# Records in JSON

A record has a fixed list of fields. It is read from an object, whose other members are ignored, or
from an array of the values of the fields in order, which may end early. A field may be given once.
The first problem in reading order is reported.
-/

namespace ReceiptPrinter.Json

/-- How the fields `F` of a record `R` are read from JSON, with errors `ε`. -/
structure Record (F R ε : Type) where
  /-- The fields in order. -/
  fields : List F
  /-- The names of a field; the first is the main one. -/
  names : F → List Text
  /-- Sets a field from its value. -/
  set : F → Json → R → Except ε R
  /-- The record with no field given. -/
  start : R
  /-- The error for text that is no such record. -/
  malformed : ε

namespace Record

variable {F R ε : Type} [DecidableEq F]

def field? (r : Record F R ε) (key : Text) : Option F := r.fields.find? fun f => key ∈ r.names f

/-- Sets fields from members, unknown ones left aside; `seen` are the fields already given. -/
def setMembers (r : Record F R ε) (seen : List F) (value : R) :
    List (Option Text × Json) → Except ε R
  | [] => .ok value
  | (none, _) :: _ => .error r.malformed
  | (some key, json) :: rest =>
    match r.field? key with
    | none => setMembers r seen value rest
    | some f =>
      if f ∈ seen then .error r.malformed
      else
        match r.set f json value with
        | .error e => .error e
        | .ok value => setMembers r (f :: seen) value rest

def setItems (r : Record F R ε) (value : R) : List F → List Json → Except ε R
  | _, [] => .ok value
  | [], _ :: _ => .error r.malformed
  | f :: fields, json :: rest =>
    match r.set f json value with
    | .error e => .error e
    | .ok value => setItems r value fields rest

/-- `value`, if the document also ended as it should. -/
def finish (r : Record F R ε) (complete : Bool) (value : Except ε R) : Except ε R :=
  match value with
  | .error e => .error e
  | .ok value => if complete then .ok value else .error r.malformed

/-- Reads a record from an object, or from an array with its fields in order. -/
def read (r : Record F R ε) (s : Text) : Except ε R :=
  match Document.read s with
  | .object members complete => r.finish complete (r.setMembers [] r.start members)
  | .array items complete => r.finish complete (r.setItems r.start r.fields items)
  | .other => .error r.malformed

end Record

end ReceiptPrinter.Json
