import KotlinMetadata.AnnotationFlags.Site
import KotlinMetadata.Walk.Label
import KotlinMetadata.Walk.Order

/-! # Listing annotation flags

    The flags of a graph in the order of a walk, each as a sign, `+` or `-`, and a label.
-/

namespace KotlinMetadata

/-- The label of a flag: that of its node, or the accessor it is of. -/
def FlagSite.label : FlagSite → String
  | .classDecl c => c.label
  | .property p => p.label
  | .getter p => "getter " ++ p.name
  | .setter p => "setter " ++ p.name
  | .function f => f.label
  | .constructor _ k => k.label
  | .typeAlias a => a.label
  | .type _ t => t.label
  | .typeParameter p => p.label
  | .valueParameter _ p => p.label

/-- A flag as a sign and its label. -/
def FlagSite.text (site : FlagSite) : String :=
  (if site.value then "+" else "-") ++ site.label

/-- The flags of a graph, in the order of a walk. -/
def Metadata.flagSites (m : Metadata) : List FlagSite :=
  m.walk.flatMap Dispatch.flagSites

end KotlinMetadata
