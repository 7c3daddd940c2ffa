/-! # Enumerations with names

    A finite type each of whose values has a name of its own, by which texts refer to it.
-/

namespace KotlinMetadata

/-- A finite type whose values have distinct names. -/
class Named (α : Type) where
  /-- Every value, in declaration order. -/
  all : List α
  /-- The name of a value. -/
  name : α → String

/-- The value of a given name. -/
def Named.ofName? {α : Type} [Named α] (s : String) : Option α :=
  (Named.all : List α).find? fun a => Named.name a == s

end KotlinMetadata
