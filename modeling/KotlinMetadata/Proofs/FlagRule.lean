import KotlinMetadata.AnnotationFlags.Fixer

/-! # What an annotation flag goes by

    A pass of the fixer reads, for each flag, some links and annotations of the graph.  A rule
    holds what it reads, without the flag itself, so that it is the same before and after the
    flags of the graph change.

    - `FlagRule`: where the annotations of a flag are, or that the flag is left alone;
    - `FlagSite.rule`: the rule of a flag in a graph.
-/

namespace KotlinMetadata

/-- What a pass goes by when it settles a flag. -/
inductive FlagRule where
  /-- The annotations of a class. -/
  | ofClass (link : Option ClassId)
  /-- The annotations of a method. -/
  | ofMember (link : Option MemberRef)
  /-- The annotations on a parameter of a method. -/
  | ofParameter (link : Option MemberRef) (index : Nat)
  /-- The annotations in the graph, which the pool does not change. -/
  | fixed (annotated : Bool)
  /-- Nothing: the flag is left as it is. -/
  | kept
  /-- The annotations on a parameter of a method, and only to take the flag back. -/
  | takenBack (link : Option MemberRef) (index : Nat)
deriving DecidableEq, Repr

/-- The method of the function whose receiver a type is, if it is one. -/
def TypeOwner.receiverMethod? : TypeOwner → Option (Option MemberRef)
  | .functionReceiver f => some f.method
  | _ => none

/-- The rule for a flag.  The receiver of a function is the first parameter of its method; any
    other type has its annotations itself. -/
def FlagSite.rule : FlagSite → FlagRule
  | .classDecl c => .ofClass c.target
  | .property p => if p.holderSignature.isSome then .ofMember p.holder else .fixed false
  | .getter p => if p.flags.hasGetter && p.getter.isSome then .ofMember p.getter else .kept
  | .setter p => if p.flags.hasSetter && p.setter.isSome then .ofMember p.setter else .kept
  | .function f => .ofMember f.method
  | .constructor owner k =>
    if owner.flags.isAnnotationClass then .fixed false else .ofMember k.method
  | .typeAlias a => .fixed (a.annotations ≠ [])
  | .type owner t =>
    match owner.receiverMethod? with
    | some method => .ofParameter method 0
    | none => .fixed (t.annotations ≠ [])
  | .typeParameter p => .fixed (p.annotations ≠ [])
  | .valueParameter owner p =>
    if owner.isAnnotationConstructor then .kept else .takenBack owner.method? p.index.toNat

/-- A reading of flags that sees the rule of a flag and what the flag says. -/
def FlagSite.reading {β : Type} (read : FlagRule → Bool → β) (site : FlagSite) : β :=
  read site.rule site.value

end KotlinMetadata
