import KotlinMetadata.ClassFile.Visitor

/-! # Counting annotations

    The annotations of a class or member are those of its annotation attributes, visible or not,
    and those of its parameters.  The annotation that carries the metadata does not count.

    - `AnnotationCounter`: how many there are, and how many on each parameter;
    - `AnnotationCounter.addAll`: attributes counted one after the other;
    - `AnnotationCounter.classVisitor`, `memberVisitor`, `attributeVisitor`: the counter as a
      visitor, shown an element or its attributes, with a loop over the parameters;
    - `ClassPool.elementOf?`: the element that it is shown for a link.
-/

namespace KotlinMetadata

/-- Number of annotations in a list, without the one that carries the metadata. -/
def countedAnnotations (list : List AnnotationEntry) : Nat :=
  (list.filter (!·.isMetadata)).length

/-- Number of annotations seen so far. -/
structure AnnotationCounter where
  /-- All of them, those on parameters included. -/
  count : Nat := 0
  /-- Those on each parameter, as far as there was an attribute for it. -/
  parameterCounts : List Nat := []
deriving DecidableEq, Repr

namespace AnnotationCounter

/-- Number of annotations on a parameter. -/
def parameterCount (c : AnnotationCounter) (index : Nat) : Nat :=
  c.parameterCounts.getD index 0

/-- The sums of numbers in the same place; a missing number is 0. -/
def addInPlace : List Nat → List Nat → List Nat
  | [], ns => ns
  | ms, [] => ms
  | m :: ms, n :: ns => (m + n) :: addInPlace ms ns

/-- Counts an attribute. -/
def add (c : AnnotationCounter) : Attribute → AnnotationCounter
  | .annotations _ list => { c with count := c.count + countedAnnotations list }
  | .parameterAnnotations _ lists =>
    let counts := lists.map countedAnnotations
    { count := counts.foldl (· + ·) c.count
      parameterCounts := addInPlace c.parameterCounts counts }
  | .other _ => c

/-- Counts attributes. -/
def addAll (c : AnnotationCounter) (attributes : List Attribute) : AnnotationCounter :=
  attributes.foldl add c

/-- Counts the attributes of members. -/
def addMembers (c : AnnotationCounter) (members : List Member) : AnnotationCounter :=
  members.foldl (fun c m => c.addAll m.attributes) c

/-- Forgets everything counted so far. -/
def reset (_ : AnnotationCounter) : AnnotationCounter := {}

/-! ## The counter as a visitor -/

/-- Makes room for counts on so many parameters; a parameter that is new has none. -/
def makeRoom (c : AnnotationCounter) (parameters : Nat) : AnnotationCounter :=
  let missing := parameters - c.parameterCounts.length
  { c with parameterCounts := c.parameterCounts ++ List.replicate missing 0 }

/-- Counts the annotations on one parameter that there is room for. -/
def addAt (c : AnnotationCounter) (index : Nat) (list : List AnnotationEntry) : AnnotationCounter :=
  { count := c.count + countedAnnotations list
    parameterCounts := c.parameterCounts.modify index (· + countedAnnotations list) }

/-- Counts the annotations on the parameter in a place. -/
def countParameter : List AnnotationEntry × Nat → Visit AnnotationCounter Unit
  | (list, index) => modify (·.addAt index list)

/-- Counts an attribute, the parameters one after the other. -/
def countAttribute : Attribute → Visit AnnotationCounter Unit
  | .annotations _ list => modify fun c => { c with count := c.count + countedAnnotations list }
  | .parameterAnnotations _ lists => do
    modify (·.makeRoom lists.length)
    lists.zipIdx.forM countParameter
  | .other _ => pure ()

/-- Counts attributes, with a handler for each kind of them. -/
def attributeVisitor : AttributeVisitor AnnotationCounter where
  handler _ := some fun _ a => countAttribute a

/-- Counts the attributes of a class, whatever its kind. -/
def classVisitor : ClassVisitor AnnotationCounter where
  any c := c.acceptAttributes attributeVisitor

/-- Counts the attributes of a member, whatever its kind. -/
def memberVisitor : MemberVisitor AnnotationCounter where
  any c m := m.acceptAttributes c attributeVisitor

/-- Shows the counter a class or a member. -/
def visit : AttributeOwner → Visit AnnotationCounter Unit
  | .ofClass c => classVisitor.visit c
  | .ofMember c m => memberVisitor.visit c m

end AnnotationCounter

namespace ClassPool

/-- The attributes of a class that a link leads to; without one there are none. -/
def classAttributes (pool : ClassPool) (link : Option ClassId) : List Attribute :=
  ((link.bind pool.class?).map (·.attributes)).getD []

/-- The attributes of a member that a link leads to; without one there are none. -/
def memberAttributes (pool : ClassPool) (link : Option MemberRef) : List Attribute :=
  ((link.bind pool.member?).map (·.attributes)).getD []

/-- What is shown to the counter for a link to a member: the member, with the class that is claimed
    to own it, if both are there. -/
def elementOf? (pool : ClassPool) (ref : MemberRef) : Option AttributeOwner :=
  match pool.class? ref.owner, pool.member? ref with
  | some c, some m => some (.ofMember c m)
  | _, _ => none

end ClassPool

end KotlinMetadata
