/-! # JSON values

    A JSON text read as a tree that keeps everything a typed reader may ask about:

    - `JsonNumber`: a number as written, so that `1`, `1.0` and `-0` stay distinct;
    - `Json`: the tree, with the entries of an object in order and repeated keys kept;
    - `Json.depth`: how many arrays and objects are nested;
    - `Json.representable`: every text names characters and every number fits a double.
-/

namespace KotlinMetadata

/-- A JSON number as it was written. -/
inductive JsonNumber where
  /-- Digits alone, after an optional sign. -/
  | whole (negative : Bool) (digits : Nat)
  /-- With a fraction or an exponent: the magnitude is `mantissa * 10 ^ exponent`. -/
  | scaled (negative : Bool) (mantissa : Nat) (exponent : Int)
deriving DecidableEq, Repr, Inhabited

/-- A JSON value.

    A string literal with an unpaired surrogate escape names no text; it is kept as `none`. -/
inductive Json where
  | null
  | bool (b : Bool)
  | number (n : JsonNumber)
  | text (s : Option String)
  | array (items : List Json)
  | object (entries : List (Option String × Json))
deriving Repr, Inhabited

namespace JsonNumber

/-- The least magnitude that rounds to infinity as a double: half a unit above the largest one. -/
def doubleOverflow : Nat := Nat.pow 2 1024 - Nat.pow 2 970

/-- A natural number with its leading 53 binary digits, the rest rounded to the nearest of them
    and from halfway to the even one. -/
def roundToDouble (n : Nat) : Nat :=
  let unit := Nat.pow 2 (n.log2 - 52)
  let kept := n / unit
  let rest := n % unit
  if unit < 2 * rest || (2 * rest == unit && kept % 2 == 1) then (kept + 1) * unit
  else kept * unit

/-- The leading decimal digits that make a number of 64 bits, and the exponent with those that
    are left out counted in.  Every round leaves one digit out. -/
def leadingDigits : Nat → Nat → Int → Nat × Int
  | 0, mantissa, exponent => (mantissa, exponent)
  | rounds + 1, mantissa, exponent =>
    if mantissa < UInt64.size then (mantissa, exponent)
    else leadingDigits rounds (mantissa / 10) (exponent + 1)

/-- The magnitude `mantissa * 10 ^ exponent` is read as a finite double.

    It is worked out in doubles: the leading digits and the power of ten are each rounded, and so
    is their product.  A power that is no double itself is too great. -/
def fitsDoubleScaled (mantissa : Nat) (exponent : Int) : Bool :=
  match leadingDigits mantissa.log2 mantissa exponent with
  | (0, _) => true
  | (_, .negSucc _) => true
  | (digits, .ofNat power) =>
    power ≤ 308 && roundToDouble digits * roundToDouble (Nat.pow 10 power) < doubleOverflow

/-- The number is read as a finite double. -/
def fitsDouble : JsonNumber → Bool
  | .whole _ n => fitsDoubleScaled n 0
  | .scaled _ m e => fitsDoubleScaled m e

/-- The value of a number written with digits alone and no sign. -/
def natural? : JsonNumber → Option Nat
  | .whole false n => some n
  | _ => none

end JsonNumber

namespace Json

/-- The text of a string literal. -/
def ofString (s : String) : Json := .text (some s)

/-- A natural number. -/
def ofNat (n : Nat) : Json := .number (.whole false n)

/-- An object with the given entries, in order. -/
def ofEntries (entries : List (String × Json)) : Json :=
  .object (entries.map fun (key, value) => (some key, value))

mutual

/-- Number of arrays and objects on the deepest path into a value. -/
def depth : Json → Nat
  | .array items => depthOfItems items + 1
  | .object entries => depthOfEntries entries + 1
  | _ => 0

/-- The greatest depth among the items of an array. -/
def depthOfItems : List Json → Nat
  | [] => 0
  | j :: js => max (depth j) (depthOfItems js)

/-- The greatest depth among the values of an object. -/
def depthOfEntries : List (Option String × Json) → Nat
  | [] => 0
  | (_, j) :: es => max (depth j) (depthOfEntries es)

end

mutual

/-- Every string literal, keys included, names a text and every number fits a double. -/
def representable : Json → Bool
  | .number n => n.fitsDouble
  | .text s => s.isSome
  | .array items => itemsRepresentable items
  | .object entries => entriesRepresentable entries
  | _ => true

/-- Every item of an array is representable. -/
def itemsRepresentable : List Json → Bool
  | [] => true
  | j :: js => representable j && itemsRepresentable js

/-- Every key of an object names a text and every value is representable. -/
def entriesRepresentable : List (Option String × Json) → Bool
  | [] => true
  | (key, j) :: es => key.isSome && representable j && entriesRepresentable es

end

end Json

end KotlinMetadata
