import KotlinMetadata.Named
import KotlinMetadata.Log
import KotlinMetadata.Text.WhiteSpace
import KotlinMetadata.Text.Span
import KotlinMetadata.Json.Basic
import KotlinMetadata.Json.Printer
import KotlinMetadata.Json.Parser
import KotlinMetadata.Json.Record
import KotlinMetadata.Unicode.Runs
import KotlinMetadata.Unicode.GeneralCategory
import KotlinMetadata.Unicode.Script
import KotlinMetadata.Unicode.Property
import KotlinMetadata.Unicode.CaseFolding
import KotlinMetadata.Unicode.Age
import KotlinMetadata.Unicode.Newer
import KotlinMetadata.Unicode.Segmentation
import KotlinMetadata.Pattern.CharSet
import KotlinMetadata.Pattern.Expr
import KotlinMetadata.Pattern.Match
import KotlinMetadata.Pattern.Utf8
import KotlinMetadata.Pattern.Trie
import KotlinMetadata.Pattern.Outline
import KotlinMetadata.Pattern.Footprint
import KotlinMetadata.Pattern.Error
import KotlinMetadata.Pattern.Tree
import KotlinMetadata.Pattern.Scan
import KotlinMetadata.Pattern.Escape
import KotlinMetadata.Pattern.Bracket
import KotlinMetadata.Pattern.Parser
import KotlinMetadata.Pattern.Meaning
import KotlinMetadata.Pattern.Matcher
import KotlinMetadata.ClassFile.Id
import KotlinMetadata.ClassFile.Attribute
import KotlinMetadata.ClassFile.Class
import KotlinMetadata.ClassFile.Pool
import KotlinMetadata.ClassFile.Visitor
import KotlinMetadata.Model.Flags
import KotlinMetadata.Model.Leaf
import KotlinMetadata.Model.Type
import KotlinMetadata.Model.Declaration
import KotlinMetadata.Model.Metadata
import KotlinMetadata.Walk.Node
import KotlinMetadata.Walk.Children
import KotlinMetadata.Walk.Order
import KotlinMetadata.Walk.Visitor
import KotlinMetadata.Walk.Label
import KotlinMetadata.Walk.Recorder
import KotlinMetadata.Integrity.Violation
import KotlinMetadata.Integrity.Check
import KotlinMetadata.Integrity.Constraint
import KotlinMetadata.Integrity.Config
import KotlinMetadata.Integrity.Inspection
import KotlinMetadata.AnnotationFlags.Site
import KotlinMetadata.AnnotationFlags.Listing
import KotlinMetadata.AnnotationFlags.Counter
import KotlinMetadata.AnnotationFlags.Traversal
import KotlinMetadata.AnnotationFlags.Fixer
import KotlinMetadata.Proofs.FlagRule
import KotlinMetadata.Proofs.FlagTraversal
import KotlinMetadata.Proofs.FlagTruth
import KotlinMetadata.Proofs.Inspection
import KotlinMetadata.Proofs.JsonText
import KotlinMetadata.Proofs.JsonRecord
import KotlinMetadata.Proofs.MetadataJson
import KotlinMetadata.Proofs.PoolInvariant
import KotlinMetadata.Proofs.PoolRun
import KotlinMetadata.Proofs.NodeCount
import KotlinMetadata.Proofs.Ownership
import KotlinMetadata.Proofs.LinkHistory
import KotlinMetadata.Proofs.EditReport
import KotlinMetadata.Proofs.FlagHistory
import KotlinMetadata.Proofs.NameLookup
import KotlinMetadata.Proofs.SyntheticRoot
import KotlinMetadata.Proofs.IdentityOnly
import KotlinMetadata.Proofs.FlagFrame
import KotlinMetadata.Proofs.NodeFilter
import KotlinMetadata.Proofs.PreOrder
import KotlinMetadata.Proofs.FlagTally
import KotlinMetadata.Proofs.FlagAccount
import KotlinMetadata.Proofs.PoolRefusal
import KotlinMetadata.Proofs.MemberLookup
import KotlinMetadata.Proofs.AnnotationCount
import KotlinMetadata.Proofs.LinkCheck
import KotlinMetadata.Proofs.Batch
import KotlinMetadata.Proofs.ConstraintList
import KotlinMetadata.Proofs.ClassFilters
import KotlinMetadata.Proofs.RecordTable
import KotlinMetadata.Proofs.RecordDecoding
import KotlinMetadata.Proofs.TreePosition
import KotlinMetadata.Proofs.WrittenForms
import KotlinMetadata.Proofs.KnownKeys
import KotlinMetadata.Proofs.ShortCircuit
import KotlinMetadata.Proofs.SpanMatch
import KotlinMetadata.Proofs.PatternScan
import KotlinMetadata.Proofs.PatternBracket
import KotlinMetadata.Proofs.PatternGroup
import KotlinMetadata.Proofs.PatternSign
import KotlinMetadata.Proofs.PatternChoice
import KotlinMetadata.Proofs.PlaceRow
import KotlinMetadata.Proofs.PatternMatch
import KotlinMetadata.Proofs.AnchoredPattern
