import KotlinMetadata.Json.Record

/-! # Flags of metadata nodes

    Every node of the metadata has one bundle of flags.  The bit that all bundles share says
    whether the node has annotations; it is decoded with the rest and may be out of date.

    - one structure for each kind of node;
    - its JSON form: a record whose first field, `common`, is a record of the shared bit, and
      whose other fields are the remaining bits.

    A missing bit reads as false, except the shared one, which must be given.  Every bit is
    written.
-/

namespace KotlinMetadata

/-! ## The shared bit -/

namespace CommonFlags

/-- The fields of the shared record. -/
def keys : List String := ["has_annotations"]

/-- The shared record. -/
def toJson (hasAnnotations : Bool) : Json :=
  .record keys [some (.bool hasAnnotations)]

/-- Reads the shared record. -/
def ofJson? (levels : Nat) (j : Json) : Option Bool := do
  let [bit] ← j.fields levels keys | none
  Json.required Json.readBool bit

end CommonFlags

/-! ## Bundles -/

/-- Flags of a class. -/
structure ClassFlags where
  /-- The class has annotations. -/
  hasAnnotations : Bool := false
  /-- The class is an annotation class. -/
  isAnnotationClass : Bool := false
  /-- The class is an interface. -/
  isInterface : Bool := false
  /-- The class is an enum class. -/
  isEnumClass : Bool := false
  /-- The class is a companion object. -/
  isCompanionObject : Bool := false
  /-- The class is a data class. -/
  isData : Bool := false
deriving DecidableEq, Repr, Inhabited

namespace ClassFlags

/-- The fields in JSON. -/
def keys : List String :=
  ["common", "is_annotation_class", "is_interface", "is_enum_class", "is_companion_object",
    "is_data"]

/-- The flags in JSON. -/
def toJson (f : ClassFlags) : Json :=
  .record keys [some (CommonFlags.toJson f.hasAnnotations), some (.bool f.isAnnotationClass),
    some (.bool f.isInterface), some (.bool f.isEnumClass), some (.bool f.isCompanionObject),
    some (.bool f.isData)]

/-- Reads the flags. -/
def ofJson? (levels : Nat) (j : Json) : Option ClassFlags := do
  let [common, isAnnotationClass, isInterface, isEnumClass, isCompanionObject, isData]
    ← j.fields levels keys | none
  let hasAnnotations ← Json.required (CommonFlags.ofJson? (levels - 1)) common
  let isAnnotationClass ← Json.defaulted false Json.readBool isAnnotationClass
  let isInterface ← Json.defaulted false Json.readBool isInterface
  let isEnumClass ← Json.defaulted false Json.readBool isEnumClass
  let isCompanionObject ← Json.defaulted false Json.readBool isCompanionObject
  let isData ← Json.defaulted false Json.readBool isData
  return {
    hasAnnotations, isAnnotationClass, isInterface, isEnumClass, isCompanionObject, isData }

end ClassFlags

/-- Flags of a constructor. -/
structure ConstructorFlags where
  /-- The constructor has annotations. -/
  hasAnnotations : Bool := false
  /-- It is the primary constructor. -/
  isPrimary : Bool := false
deriving DecidableEq, Repr, Inhabited

namespace ConstructorFlags

/-- The fields in JSON. -/
def keys : List String := ["common", "is_primary"]

/-- The flags in JSON. -/
def toJson (f : ConstructorFlags) : Json :=
  .record keys [some (CommonFlags.toJson f.hasAnnotations), some (.bool f.isPrimary)]

/-- Reads the flags. -/
def ofJson? (levels : Nat) (j : Json) : Option ConstructorFlags := do
  let [common, isPrimary] ← j.fields levels keys | none
  let hasAnnotations ← Json.required (CommonFlags.ofJson? (levels - 1)) common
  let isPrimary ← Json.defaulted false Json.readBool isPrimary
  return { hasAnnotations, isPrimary }

end ConstructorFlags

/-- Flags of a function. -/
structure FunctionFlags where
  /-- The function has annotations. -/
  hasAnnotations : Bool := false
  /-- The function can be suspended. -/
  isSuspend : Bool := false
  /-- The function is inlined. -/
  isInline : Bool := false
  /-- The function is an operator. -/
  isOperator : Bool := false
deriving DecidableEq, Repr, Inhabited

namespace FunctionFlags

/-- The fields in JSON. -/
def keys : List String := ["common", "is_suspend", "is_inline", "is_operator"]

/-- The flags in JSON. -/
def toJson (f : FunctionFlags) : Json :=
  .record keys [some (CommonFlags.toJson f.hasAnnotations), some (.bool f.isSuspend),
    some (.bool f.isInline), some (.bool f.isOperator)]

/-- Reads the flags. -/
def ofJson? (levels : Nat) (j : Json) : Option FunctionFlags := do
  let [common, isSuspend, isInline, isOperator] ← j.fields levels keys | none
  let hasAnnotations ← Json.required (CommonFlags.ofJson? (levels - 1)) common
  let isSuspend ← Json.defaulted false Json.readBool isSuspend
  let isInline ← Json.defaulted false Json.readBool isInline
  let isOperator ← Json.defaulted false Json.readBool isOperator
  return { hasAnnotations, isSuspend, isInline, isOperator }

end FunctionFlags

/-- Flags of a property. -/
structure PropertyFlags where
  /-- The property has annotations. -/
  hasAnnotations : Bool := false
  /-- The property can be assigned. -/
  isVar : Bool := false
  /-- The property has a getter. -/
  hasGetter : Bool := false
  /-- The property has a setter. -/
  hasSetter : Bool := false
  /-- The property is a compile-time constant. -/
  isConst : Bool := false
  /-- The property is delegated. -/
  isDelegated : Bool := false
deriving DecidableEq, Repr, Inhabited

namespace PropertyFlags

/-- The fields in JSON. -/
def keys : List String :=
  ["common", "is_var", "has_getter", "has_setter", "is_const", "is_delegated"]

/-- The flags in JSON. -/
def toJson (f : PropertyFlags) : Json :=
  .record keys [some (CommonFlags.toJson f.hasAnnotations), some (.bool f.isVar),
    some (.bool f.hasGetter), some (.bool f.hasSetter), some (.bool f.isConst),
    some (.bool f.isDelegated)]

/-- Reads the flags. -/
def ofJson? (levels : Nat) (j : Json) : Option PropertyFlags := do
  let [common, isVar, hasGetter, hasSetter, isConst, isDelegated] ← j.fields levels keys | none
  let hasAnnotations ← Json.required (CommonFlags.ofJson? (levels - 1)) common
  let isVar ← Json.defaulted false Json.readBool isVar
  let hasGetter ← Json.defaulted false Json.readBool hasGetter
  let hasSetter ← Json.defaulted false Json.readBool hasSetter
  let isConst ← Json.defaulted false Json.readBool isConst
  let isDelegated ← Json.defaulted false Json.readBool isDelegated
  return { hasAnnotations, isVar, hasGetter, hasSetter, isConst, isDelegated }

end PropertyFlags

/-- Flags of a property accessor. -/
structure AccessorFlags where
  /-- The property accessor has annotations. -/
  hasAnnotations : Bool := false
  /-- The accessor has the default body. -/
  isDefault : Bool := false
  /-- The accessor is implemented elsewhere. -/
  isExternal : Bool := false
  /-- The accessor is inlined. -/
  isInline : Bool := false
deriving DecidableEq, Repr, Inhabited

namespace AccessorFlags

/-- The fields in JSON. -/
def keys : List String := ["common", "is_default", "is_external", "is_inline"]

/-- The flags in JSON. -/
def toJson (f : AccessorFlags) : Json :=
  .record keys [some (CommonFlags.toJson f.hasAnnotations), some (.bool f.isDefault),
    some (.bool f.isExternal), some (.bool f.isInline)]

/-- Reads the flags. -/
def ofJson? (levels : Nat) (j : Json) : Option AccessorFlags := do
  let [common, isDefault, isExternal, isInline] ← j.fields levels keys | none
  let hasAnnotations ← Json.required (CommonFlags.ofJson? (levels - 1)) common
  let isDefault ← Json.defaulted false Json.readBool isDefault
  let isExternal ← Json.defaulted false Json.readBool isExternal
  let isInline ← Json.defaulted false Json.readBool isInline
  return { hasAnnotations, isDefault, isExternal, isInline }

end AccessorFlags

/-- Flags of a type. -/
structure TypeFlags where
  /-- The type has annotations. -/
  hasAnnotations : Bool := false
  /-- The type admits null. -/
  isNullable : Bool := false
  /-- The type is that of a suspending function. -/
  isSuspend : Bool := false
deriving DecidableEq, Repr, Inhabited

namespace TypeFlags

/-- The fields in JSON. -/
def keys : List String := ["common", "is_nullable", "is_suspend"]

/-- The flags in JSON. -/
def toJson (f : TypeFlags) : Json :=
  .record keys [some (CommonFlags.toJson f.hasAnnotations), some (.bool f.isNullable),
    some (.bool f.isSuspend)]

/-- Reads the flags. -/
def ofJson? (levels : Nat) (j : Json) : Option TypeFlags := do
  let [common, isNullable, isSuspend] ← j.fields levels keys | none
  let hasAnnotations ← Json.required (CommonFlags.ofJson? (levels - 1)) common
  let isNullable ← Json.defaulted false Json.readBool isNullable
  let isSuspend ← Json.defaulted false Json.readBool isSuspend
  return { hasAnnotations, isNullable, isSuspend }

end TypeFlags

/-- Flags of a type parameter. -/
structure TypeParameterFlags where
  /-- The type parameter has annotations. -/
  hasAnnotations : Bool := false
  /-- The parameter is reified. -/
  isReified : Bool := false
deriving DecidableEq, Repr, Inhabited

namespace TypeParameterFlags

/-- The fields in JSON. -/
def keys : List String := ["common", "is_reified"]

/-- The flags in JSON. -/
def toJson (f : TypeParameterFlags) : Json :=
  .record keys [some (CommonFlags.toJson f.hasAnnotations), some (.bool f.isReified)]

/-- Reads the flags. -/
def ofJson? (levels : Nat) (j : Json) : Option TypeParameterFlags := do
  let [common, isReified] ← j.fields levels keys | none
  let hasAnnotations ← Json.required (CommonFlags.ofJson? (levels - 1)) common
  let isReified ← Json.defaulted false Json.readBool isReified
  return { hasAnnotations, isReified }

end TypeParameterFlags

/-- Flags of a type alias. -/
structure TypeAliasFlags where
  /-- The type alias has annotations. -/
  hasAnnotations : Bool := false
deriving DecidableEq, Repr, Inhabited

namespace TypeAliasFlags

/-- The fields in JSON. -/
def keys : List String := ["common"]

/-- The flags in JSON. -/
def toJson (f : TypeAliasFlags) : Json :=
  .record keys [some (CommonFlags.toJson f.hasAnnotations)]

/-- Reads the flags. -/
def ofJson? (levels : Nat) (j : Json) : Option TypeAliasFlags := do
  let [common] ← j.fields levels keys | none
  let hasAnnotations ← Json.required (CommonFlags.ofJson? (levels - 1)) common
  return { hasAnnotations }

end TypeAliasFlags

/-- Flags of a value parameter. -/
structure ValueParameterFlags where
  /-- The value parameter has annotations. -/
  hasAnnotations : Bool := false
  /-- The parameter has a default value. -/
  declaresDefaultValue : Bool := false
  /-- A lambda passed here may not return from its caller. -/
  isCrossinline : Bool := false
  /-- A lambda passed here is not inlined. -/
  isNoinline : Bool := false
deriving DecidableEq, Repr, Inhabited

namespace ValueParameterFlags

/-- The fields in JSON. -/
def keys : List String := ["common", "declares_default_value", "is_crossinline", "is_noinline"]

/-- The flags in JSON. -/
def toJson (f : ValueParameterFlags) : Json :=
  .record keys [some (CommonFlags.toJson f.hasAnnotations), some (.bool f.declaresDefaultValue),
    some (.bool f.isCrossinline), some (.bool f.isNoinline)]

/-- Reads the flags. -/
def ofJson? (levels : Nat) (j : Json) : Option ValueParameterFlags := do
  let [common, declaresDefaultValue, isCrossinline, isNoinline] ← j.fields levels keys | none
  let hasAnnotations ← Json.required (CommonFlags.ofJson? (levels - 1)) common
  let declaresDefaultValue ← Json.defaulted false Json.readBool declaresDefaultValue
  let isCrossinline ← Json.defaulted false Json.readBool isCrossinline
  let isNoinline ← Json.defaulted false Json.readBool isNoinline
  return { hasAnnotations, declaresDefaultValue, isCrossinline, isNoinline }

end ValueParameterFlags

end KotlinMetadata
