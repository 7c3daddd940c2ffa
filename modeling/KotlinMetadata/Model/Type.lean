import KotlinMetadata.Model.Flags
import KotlinMetadata.Model.Leaf

/-! # Types and type parameters

    - `KotlinType`: a use of a class, type parameter or type alias, with nested types as its
      arguments, its bounds and its abbreviation;
    - `TypeParameter`: the declaration of a type parameter, with types as its bounds;
    - their JSON forms.

    A nested type lies two levels deeper than the type around it when it stands in a list and one
    level deeper when it is the abbreviation; reading recurses on the levels that are left.
-/

namespace KotlinMetadata

/-! ## The records -/

/-- A use of a type. -/
structure KotlinType where
  /-- Flags of the type. -/
  flags : TypeFlags := {}
  /-- The class, if the type names one. -/
  className : Option String := none
  /-- The class that name was resolved to. -/
  target : Option ClassId := none
  /-- The number of the type parameter, if the type is one. -/
  parameterId : Option UInt32 := none
  /-- The alias, if the type names one. -/
  aliasName : Option String := none
  /-- How the type varies as an argument. -/
  variance : Variance := .invariant
  /-- The type arguments. -/
  arguments : List KotlinType := []
  /-- The upper bounds of a flexible type. -/
  upperBounds : List KotlinType := []
  /-- The type as it was written with an alias. -/
  abbreviation : Option KotlinType := none
  /-- The annotations on the type. -/
  annotations : List AnnotationUse := []
deriving Repr

/-- The declaration of a type parameter. -/
structure TypeParameter where
  /-- Flags of the parameter. -/
  flags : TypeParameterFlags := {}
  /-- Its name. -/
  name : String
  /-- The number by which types refer to it. -/
  id : UInt32
  /-- How it varies. -/
  variance : Variance := .invariant
  /-- Its upper bounds. -/
  upperBounds : List KotlinType := []
  /-- The annotations on the parameter. -/
  annotations : List AnnotationUse := []
deriving Repr

/-! ## Equality -/

namespace KotlinType

mutual

/-- Whether two types are equal. -/
def decEq : (s t : KotlinType) → Decidable (s = t)
  | ⟨f, c, t, p, n, v, as, us, b, xs⟩, ⟨f', c', t', p', n', v', as', us', b', xs'⟩ =>
    if h : f = f' ∧ c = c' ∧ t = t' ∧ p = p' ∧ n = n' ∧ v = v' ∧ xs = xs' then
      match decEqList as as', decEqList us us', decEqOption b b' with
      | isTrue ha, isTrue hu, isTrue hb => isTrue (by grind)
      | isFalse ha, _, _ => isFalse (by grind)
      | _, isFalse hu, _ => isFalse (by grind)
      | _, _, isFalse hb => isFalse (by grind)
    else isFalse (by grind)

/-- Whether two lists of types are equal. -/
def decEqList : (ss ts : List KotlinType) → Decidable (ss = ts)
  | [], [] => isTrue rfl
  | [], _ :: _ => isFalse nofun
  | _ :: _, [] => isFalse nofun
  | s :: ss, t :: ts =>
    match decEq s t, decEqList ss ts with
    | isTrue h, isTrue hs => isTrue (by grind)
    | isFalse h, _ => isFalse (by grind)
    | _, isFalse hs => isFalse (by grind)

/-- Whether two types that may be absent are equal. -/
def decEqOption : (s t : Option KotlinType) → Decidable (s = t)
  | none, none => isTrue rfl
  | none, some _ => isFalse nofun
  | some _, none => isFalse nofun
  | some s, some t =>
    match decEq s t with
    | isTrue h => isTrue (by grind)
    | isFalse h => isFalse (by grind)

end

instance : DecidableEq KotlinType := decEq

/-- The use of a class. -/
def ofClass (name : String) (target : Option ClassId) : KotlinType :=
  { className := some name, target }

/-- The use of a type parameter. -/
def ofParameter (id : UInt32) : KotlinType :=
  { parameterId := some id }

/-! ## JSON -/

/-- The fields in JSON. -/
def keys : List String :=
  ["flags", "class_name", "referenced_class", "type_parameter_id", "alias_name", "variance",
    "type_arguments", "upper_bounds", "abbreviation", "annotations"]

mutual

/-- A type in JSON. -/
def toJson : KotlinType → Json
  | ⟨flags, className, target, parameterId, aliasName, variance, arguments, upperBounds,
      abbreviation, annotations⟩ =>
    .record keys [some flags.toJson, className.map .ofString, target.map ClassId.toJson,
      parameterId.map fun id => .ofNat id.toNat, aliasName.map .ofString,
      some (.ofNamed variance), slotOfList arguments, slotOfList upperBounds,
      slotOfOption abbreviation, Json.listSlot AnnotationUse.toJson annotations]

/-- The slot for a list of types: empty for the empty list. -/
def slotOfList : List KotlinType → Option Json
  | [] => none
  | t :: ts => some (.array (toJson t :: itemsOfList ts))

/-- The items for a list of types. -/
def itemsOfList : List KotlinType → List Json
  | [] => []
  | t :: ts => toJson t :: itemsOfList ts

/-- The slot for a type that may be absent. -/
def slotOfOption : Option KotlinType → Option Json
  | none => none
  | some t => some (toJson t)

end

/-- Reads a type. -/
def ofJson? (source : Json.Source) (levels : Nat) (j : Json) : Option KotlinType :=
  match levels with
  | 0 => none
  | inner + 1 => do
    let types : Json → Option (List KotlinType) := match inner with
      | 0 => fun _ => none
      | innermost + 1 => Json.readList inner (ofJson? source innermost)
    let [flags, className, target, parameterId, aliasName, variance, arguments, upperBounds,
      abbreviation, annotations] ← j.fields levels keys | none
    let flags ← Json.required (TypeFlags.ofJson? inner) flags
    let className ← Json.optional Json.readText className
    let target ← Json.optional ClassId.ofJson? target
    let parameterId ← Json.optional Json.readUInt32 parameterId
    let aliasName ← Json.optional Json.readText aliasName
    let variance ← Json.defaulted .invariant (Json.readNamed source inner) variance
    let arguments ← Json.defaulted [] types arguments
    let upperBounds ← Json.defaulted [] types upperBounds
    let abbreviation ← Json.optional (ofJson? source inner) abbreviation
    let annotations ← Json.defaulted [] (Json.readItems inner AnnotationUse.ofJson?) annotations
    return {
      flags, className, target, parameterId, aliasName, variance, arguments, upperBounds,
      abbreviation, annotations }

end KotlinType

namespace TypeParameter

deriving instance DecidableEq for TypeParameter

/-- The fields in JSON. -/
def keys : List String := ["flags", "name", "id", "variance", "upper_bounds", "annotations"]

/-- A type parameter in JSON. -/
def toJson (p : TypeParameter) : Json :=
  .record keys [some p.flags.toJson, some (.ofString p.name), some (.ofNat p.id.toNat),
    some (.ofNamed p.variance), Json.listSlot KotlinType.toJson p.upperBounds,
    Json.listSlot AnnotationUse.toJson p.annotations]

/-- Reads a type parameter. -/
def ofJson? (source : Json.Source) (levels : Nat) (j : Json) : Option TypeParameter := do
  let [flags, name, id, variance, upperBounds, annotations] ← j.fields levels keys | none
  let flags ← Json.required (TypeParameterFlags.ofJson? (levels - 1)) flags
  let name ← Json.required Json.readText name
  let id ← Json.required Json.readUInt32 id
  let variance ← Json.defaulted .invariant (Json.readNamed source (levels - 1)) variance
  let upperBounds ← Json.defaulted []
    (Json.readItems (levels - 1) (KotlinType.ofJson? source)) upperBounds
  let annotations ← Json.defaulted []
    (Json.readItems (levels - 1) AnnotationUse.ofJson?) annotations
  return { flags, name, id, variance, upperBounds, annotations }

end TypeParameter

end KotlinMetadata
