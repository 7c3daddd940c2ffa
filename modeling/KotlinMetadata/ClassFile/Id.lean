import KotlinMetadata.Json.Record

/-! # Identities of classes and members

    A pool gives every class and every member a number of its own.  Names and descriptors change;
    the number is what a link refers to.

    - `ClassId`, `MemberId`: the numbers;
    - `MemberRef`: a member together with the class that is claimed to own it;
    - their JSON forms: a plain number, and a record of two numbers.
-/

namespace KotlinMetadata

/-- The identity of a class within a pool. -/
structure ClassId where
  /-- The number handed out by the pool. -/
  number : UInt32
deriving DecidableEq, Repr, Inhabited

/-- The identity of a field or method within a pool. -/
structure MemberId where
  /-- The number handed out by the pool. -/
  number : UInt32
deriving DecidableEq, Repr, Inhabited

/-- A link to a member.  Whether the class owns such a member is not part of the link. -/
structure MemberRef where
  /-- The class claimed to own the member. -/
  owner : ClassId
  /-- The identity of the member. -/
  member : MemberId
deriving DecidableEq, Repr, Inhabited

namespace ClassId

/-- The text for a class identity. -/
def text (id : ClassId) : String := "class_" ++ toString id.number.toNat

/-- A class identity in JSON is its number. -/
def toJson (id : ClassId) : Json := .ofNat id.number.toNat

/-- Reads a class identity. -/
def ofJson? (j : Json) : Option ClassId := (j.readUInt32).map ClassId.mk

end ClassId

namespace MemberId

/-- The text for a member identity. -/
def text (id : MemberId) : String := "member_" ++ toString id.number.toNat

/-- A member identity in JSON is its number. -/
def toJson (id : MemberId) : Json := .ofNat id.number.toNat

/-- Reads a member identity. -/
def ofJson? (j : Json) : Option MemberId := (j.readUInt32).map MemberId.mk

end MemberId

namespace MemberRef

/-- The text for a link. -/
def text (ref : MemberRef) : String := ref.owner.text ++ "::" ++ ref.member.text

/-- The fields of a link in JSON. -/
def keys : List String := ["class", "member"]

/-- A link in JSON. -/
def toJson (ref : MemberRef) : Json :=
  .record keys [some ref.owner.toJson, some ref.member.toJson]

/-- Reads a link. -/
def ofJson? (levels : Nat) (j : Json) : Option MemberRef := do
  let [owner, member] ← j.fields levels keys | none
  let owner ← Json.required ClassId.ofJson? owner
  let member ← Json.required MemberId.ofJson? member
  return { owner, member }

end MemberRef

end KotlinMetadata
