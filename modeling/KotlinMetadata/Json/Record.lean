import KotlinMetadata.Json.Basic
import KotlinMetadata.Named

/-! # Records in JSON

    A record is a list of named fields in a fixed order.  It has two written forms: an object,
    whose entries may stand in any order, and an array of the fields in order.

    - `Json.record` writes a record as an object, absent fields left out;
    - `Json.fields` reads either form into one slot per field;
    - `required`, `optional`, `defaulted` say what a slot without a value means;
    - `Named` enumerations are written by name.

    A reader is given the number of levels, that is arrays and objects, that it may still open,
    and whether the value was buffered.  A value is buffered when the whole text had to be read
    before it was known what to read it as; the only difference then is that an empty object
    stands for nothing just as `null` does.
-/

namespace KotlinMetadata

namespace Json

/-- How a value reaches its reader. -/
inductive Source where
  /-- Straight from the text. -/
  | direct
  /-- Out of a tree that was held back until the kind of its root was known. -/
  | buffered
deriving DecidableEq, Repr

/-! ## Fields -/

/-- A record as an object: the fields that have a value, in order. -/
def record (names : List String) (slots : List (Option Json)) : Json :=
  .ofEntries ((names.zip slots).filterMap fun (name, slot) => slot.map fun j => (name, j))

/-- The values given for a name in an object. -/
def valuesOf (name : String) (entries : List (Option String × Json)) : List Json :=
  (entries.filter (·.1 == some name)).map (·.2)

/-- One slot for a name: empty if it is not given, refused if it is given twice. -/
def slotOf (entries : List (Option String × Json)) (name : String) : Option (Option Json) :=
  match valuesOf name entries with
  | [] => some none
  | [j] => some (some j)
  | _ => none

/-- The items of an array as slots for the names; more items than names are refused. -/
def slotsInOrder : List String → List Json → Option (List (Option Json))
  | [], [] => some []
  | [], _ :: _ => none
  | _ :: names, [] => (slotsInOrder names []).map (none :: ·)
  | _ :: names, j :: js => (slotsInOrder names js).map (some j :: ·)

/-- The slots of a record.

    In an object every key must name a text, a key of the record may be given once, and other
    keys are passed over. -/
def fields (levels : Nat) (names : List String) (j : Json) : Option (List (Option Json)) :=
  if levels = 0 then none
  else match j with
    | .object entries =>
      if entries.all (·.1.isSome) then names.mapM (slotOf entries) else none
    | .array items => slotsInOrder names items
    | _ => none

/-- A field that must be given. -/
def required {α : Type} (read : Json → Option α) : Option Json → Option α
  | some j => read j
  | none => none

/-- A field that may be absent or null. -/
def optional {α : Type} (read : Json → Option α) : Option Json → Option (Option α)
  | none | some .null => some none
  | some j => (read j).map some

/-- A field with a value to take when it is not given. -/
def defaulted {α : Type} (value : α) (read : Json → Option α) : Option Json → Option α
  | some j => read j
  | none => some value

/-! ## Plain values -/

/-- A text. -/
def readText : Json → Option String
  | .text s => s
  | _ => none

/-- A truth value. -/
def readBool : Json → Option Bool
  | .bool b => some b
  | _ => none

/-- A natural number below a bound. -/
def readNat (bound : Nat) : Json → Option Nat
  | .number n => n.natural?.filter (· < bound)
  | _ => none

/-- A number of 32 bits. -/
def readUInt32 (j : Json) : Option UInt32 :=
  (readNat UInt32.size j).map UInt32.ofNat

/-- A number of 64 bits. -/
def readUInt64 (j : Json) : Option UInt64 :=
  (readNat UInt64.size j).map UInt64.ofNat

/-- A list, each item read by `read`. -/
def readList {α : Type} (levels : Nat) (read : Json → Option α) : Json → Option (List α)
  | .array items => if levels = 0 then none else items.mapM read
  | _ => none

/-- A list whose items are read one level further in. -/
def readItems {α : Type} (levels : Nat) (read : Nat → Json → Option α) (j : Json) :
    Option (List α) :=
  readList levels (read (levels - 1)) j

/-- The value carries nothing: `null`, and in a buffered value an empty object as well. -/
def isUnit (source : Source) : Json → Bool
  | .null => true
  | .object [] => source == .buffered
  | _ => false

/-- A value of an enumeration: its name, or an object that gives nothing under its name. -/
def readNamed {α : Type} [Named α] (source : Source) (levels : Nat) : Json → Option α
  | .text (some s) => Named.ofName? s
  | .object [(some s, j)] =>
    if levels ≠ 0 && isUnit source j then Named.ofName? s else none
  | _ => none

/-- A value of an enumeration as its name. -/
def ofNamed {α : Type} [Named α] (a : α) : Json :=
  .ofString (Named.name a)

/-! ## Slots for writing -/

/-- A slot for a list: empty for the empty list. -/
def listSlot {α : Type} (write : α → Json) (xs : List α) : Option Json :=
  if xs.isEmpty then none else some (.array (xs.map write))

end Json

end KotlinMetadata
