import KotlinMetadata.Pattern.Footprint
import KotlinMetadata.Pattern.Parser

/-! # What a pattern text means

    The flags that hold at a place of a pattern decide what stands there: whether case matters,
    where `^` and `$` hold, what a point stands for, and whether classes reach beyond ASCII.

    - `CharSet.property?` looks a property up by name, and by name and value;
    - `Bracket.toSet`, `Atom.toPattern`, `Tree.toPattern` take the flags into account;
    - `Pattern.ofText?` reads a text and takes it so.

    With Unicode off a stretch could end inside a character; whatever could match such a stretch
    is refused.
-/

namespace KotlinMetadata

/-! ## Properties by name -/

namespace CharSet

/-- The name of a property without what makes no difference: case, blanks, hyphens and low lines,
    and `is` in front. -/
def propertyKey (name : List Char) : String :=
  let (isPrefixed, rest) := match name with
    | 'i' :: 's' :: rest | 'i' :: 'S' :: rest | 'I' :: 's' :: rest | 'I' :: 'S' :: rest =>
      (true, rest)
    | rest => (false, rest)
  let key := (rest.filter fun c =>
    c.toNat < 0x80 && c != ' ' && c != '_' && c != '-').map Char.toLower
  if isPrefixed && key == ['c'] then "isc" else String.ofList key

/-- The characters with a property, of a general category or of a script. -/
def property? (name : List Char) : Option CharSet :=
  let key := propertyKey name
  ((ofTable? Unicode.properties key).or (category? key)).or (script? key)

/-- The characters for which a property has a value. -/
def propertyValue? (name value : List Char) : Option CharSet :=
  let key := propertyKey value
  match propertyKey name with
  | "gc" | "generalcategory" => category? key
  | "sc" | "script" => script? key
  | "scx" | "scriptextensions" => scriptExtension? key
  | "age" => age? key
  | "gcb" | "graphemeclusterbreak" => ofTable? Unicode.graphemeClusterBreaks key
  | "wb" | "wordbreak" => ofTable? Unicode.wordBreaks key
  | "sb" | "sentencebreak" => ofTable? Unicode.sentenceBreaks key
  | _ => none

end CharSet

namespace Pattern

/-! ## Flags in force -/

/-- The flags that hold at a place of a pattern. -/
structure Flags where
  ignoreCase : Bool := false
  multiLine : Bool := false
  dotAll : Bool := false
  swapGreed : Bool := false
  unicode : Bool := true
  crlf : Bool := false
deriving DecidableEq, Repr

namespace Flags

/-- The flags after a change. -/
def change (flags : Flags) (c : FlagChange) : Flags where
  ignoreCase := c.applyTo .ignoreCase flags.ignoreCase
  multiLine := c.applyTo .multiLine flags.multiLine
  dotAll := c.applyTo .dotAll flags.dotAll
  swapGreed := c.applyTo .swapGreed flags.swapGreed
  unicode := c.applyTo .unicode flags.unicode
  crlf := c.applyTo .crlf flags.crlf

/-- A set closed under change of case, if case makes no difference. -/
def fold (flags : Flags) (s : CharSet) : CharSet :=
  if !flags.ignoreCase then s
  else if flags.unicode then .folded s
  else .foldedAscii s

/-- The complement of a set, if it is negated.  With Unicode off it would hold bytes that are no
    characters. -/
def negate (flags : Flags) (negated : Bool) (s : CharSet) : Except PatternError CharSet :=
  if !negated then .ok s
  else if flags.unicode then .ok (.compl s)
  else .error .notText

end Flags

/-! ## Classes -/

namespace CharClass

/-- The characters of a class. -/
def toSet (flags : Flags) : CharClass → Except PatternError CharSet
  | .digit => .ok (if flags.unicode then .digit else .asciiDigit)
  | .space => .ok (if flags.unicode then .space else .asciiSpace)
  | .word => .ok (if flags.unicode then .word else .asciiWord)
  | .property name =>
    if !flags.unicode then .error .unicodeOff
    else match CharSet.property? name with
      | some s => .ok (flags.fold s)
      | none => .error .property
  | .propertyValue name value =>
    if !flags.unicode then .error .unicodeOff
    else match CharSet.propertyValue? name value with
      | some s => .ok (flags.fold s)
      | none => .error .property

/-- The characters of a class that may be negated. -/
def toSetOf (flags : Flags) (negated : Bool) (name : CharClass) :
    Except PatternError CharSet :=
  (name.toSet flags).bind (flags.negate negated)

end CharClass

/-- The characters of a class of ASCII. -/
def AsciiClass.toSet : AsciiClass → CharSet
  | .alnum => .unionAll [.range '0' '9', .range 'A' 'Z', .range 'a' 'z']
  | .alpha => .union (.range 'A' 'Z') (.range 'a' 'z')
  | .ascii => .range '\x00' '\x7f'
  | .blank => .union (.single '\t') (.single ' ')
  | .cntrl => .union (.range '\x00' '\x1f') (.single '\x7f')
  | .digit => .range '0' '9'
  | .graph => .range '!' '~'
  | .lower => .range 'a' 'z'
  | .print => .range ' ' '~'
  | .punct => .unionAll [.range '!' '/', .range ':' '@', .range '[' (Char.ofNat 0x60),
      .range (Char.ofNat 0x7b) '~']
  | .space => CharSet.asciiSpace
  | .upper => .range 'A' 'Z'
  | .word => CharSet.asciiWord
  | .xdigit => .unionAll [.range '0' '9', .range 'A' 'F', .range 'a' 'f']

/-- A character between brackets.  With Unicode off it must be in ASCII. -/
def Literal.inClass (flags : Flags) (l : Literal) : Except PatternError Char :=
  if flags.unicode || l.char.toNat < 0x80 then .ok l.char
  else if l.isByte then .error .notText
  else .error .unicodeOff

/-- The set that an operation makes of two. -/
def SetOp.apply : SetOp → CharSet → CharSet → CharSet
  | .inter => .inter
  | .diff => .diff
  | .symmDiff => .symmDiff

namespace Bracket

mutual

/-- The characters of a class. -/
def toSet (flags : Flags) : Bracket → Except PatternError CharSet
  | literal l => (l.inClass flags).map .single
  | range lo hi => do return .range (← lo.inClass flags) (← hi.inClass flags)
  | ascii kind negated => flags.negate negated (flags.fold kind.toSet)
  | named name negated => name.toSetOf flags negated
  | bracket negated body => do flags.negate negated (flags.fold (← toSet flags body))
  | items list => toSetOfItems flags list
  | binary op left right => do
    let left ← toSet flags left
    let right ← toSet flags right
    return op.apply (flags.fold left) (flags.fold right)

/-- The characters of items side by side. -/
def toSetOfItems (flags : Flags) : List Bracket → Except PatternError CharSet
  | [] => .ok .empty
  | item :: list => do return .union (← toSet flags item) (← toSetOfItems flags list)

end

end Bracket

/-! ## Patterns -/

/-- The condition an anchor stands for. -/
def Anchor.toLook (flags : Flags) : Anchor → Look
  | .caret =>
    if !flags.multiLine then .textStart else if flags.crlf then .lineStartCrlf else .lineStart
  | .dollar =>
    if !flags.multiLine then .textEnd else if flags.crlf then .lineEndCrlf else .lineEnd
  | .textStart => .textStart
  | .textEnd => .textEnd
  | .word kind => .word flags.unicode kind

/-- The pattern an atom stands for. -/
def Atom.toPattern (flags : Flags) : Atom → Except PatternError Pattern
  | .literal l =>
    if !flags.unicode && l.isByte && 0x80 ≤ l.char.toNat then .error .notText
    else .ok (.ofSet (flags.fold (.single l.char)))
  | .anchor a => .ok (.look (a.toLook flags))
  | .named name negated => (name.toSetOf flags negated).map .ofSet

/-- The pattern a point stands for. -/
def Flags.dot (flags : Flags) : Except PatternError Pattern :=
  if !flags.unicode then .error .notText
  else if flags.dotAll then .ok (.set .all)
  else if flags.crlf then .ok (.set (.compl (.union (.single '\n') (.single '\r'))))
  else .ok (.set (.compl (.single '\n')))

/-- What is carried through a tree from left to right. -/
structure Reading where
  /-- The flags in force. -/
  flags : Flags
  /-- How many groups have been captured. -/
  captures : Nat := 0

/-- Other flags. -/
def Reading.withFlags (r : Reading) (flags : Flags) : Reading := { r with flags }

/-- One more group has been captured. -/
def Reading.countCapture (r : Reading) : Reading := { r with captures := r.captures + 1 }

namespace Tree

mutual

/-- The pattern a tree stands for, and what holds after it. -/
def toPattern (r : Reading) : Tree → Except PatternError (Pattern × Reading)
  | atom a => do return (← a.toPattern r.flags, r)
  | dot => do return (← r.flags.dot, r)
  | bracket c => do return (.ofSet (← c.toSet r.flags), r)
  | Tree.flags change => .ok (.empty, r.withFlags (r.flags.change change))
  | iterate p min max lazy => do
    let (p, after) ← toPattern r p
    return (.ofIterate p min max (lazy == r.flags.swapGreed), after)
  | group (.capture _) body => do
    let (p, after) ← toPattern r.countCapture body
    return (.capture r.countCapture.captures p, after.withFlags r.flags)
  | group (.plain change) body => do
    let (p, after) ← toPattern (r.withFlags (r.flags.change change)) body
    return (p, after.withFlags r.flags)
  | concat list => do
    let (ps, after) ← toPatterns r list
    return (.ofConcat ps, after)
  | either list => do
    let (ps, after) ← toPatterns r list
    return (.ofEither ps, after)

/-- The patterns of trees from left to right. -/
def toPatterns (r : Reading) : List Tree → Except PatternError (List Pattern × Reading)
  | [] => .ok ([], r)
  | p :: ps => do
    let (p, after) ← toPattern r p
    let (ps, after) ← toPatterns after ps
    return (p :: ps, after)

end

end Tree

/-! ## Whole texts -/

/-- Reads a text as a pattern. -/
def ofText? (text : List Char) : Except PatternError Pattern := do
  let (p, _) ← (← Tree.ofText? text).toPattern { flags := {} }
  if p.fits then return p else .error .tooLarge

end Pattern

end KotlinMetadata
