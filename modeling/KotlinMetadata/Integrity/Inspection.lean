import KotlinMetadata.Integrity.Config

/-! # Inspecting metadata

    An inspection runs the enabled constraints over the graph of a class, in the order of the
    constraints, and hands every violation to a reporter.

    - `Config.inspect`: one graph; a class that is not in the pool is passed over;
    - `Config.inspectAll`: several, one after the other;
    - `Reporter.events`: what a reporter has to say about a violation.
-/

namespace KotlinMetadata

/-- What an inspection reports beside the violations. -/
inductive InspectionEvent where
  /-- The class is not in the pool. -/
  | classAbsent (id : ClassId)
  /-- An inspection is over. -/
  | finished (count : Nat) (className : String) (kind : MetadataKind)
  /-- A violation, as a line of the log. -/
  | reported (v : Violation)
  /-- A violation that nobody is left to receive. -/
  | dropped (v : Violation)
deriving DecidableEq, Repr

/-- The log line of an event. -/
def InspectionEvent.line : InspectionEvent → LogLine
  | .classAbsent id => ⟨.warn, "Class " ++ id.text ++ " not in pool, metadata not checked"⟩
  | .finished count name kind =>
    ⟨.debug, "Found " ++ toString count ++ " violations in " ++ name ++ " (" ++
      Named.name kind ++ ")"⟩
  | .reported v => ⟨.warn, v.text⟩
  | .dropped v => ⟨.warn, "Violation receiver hung up, dropping: " ++ v.text⟩

/-- What becomes of a violation. -/
inductive Reporter where
  /-- It is kept. -/
  | keep
  /-- It is sent to a receiver that is gone. -/
  | closedChannel
  /-- It is written to the log. -/
  | log
deriving DecidableEq, Repr

/-- What a reporter has to say about a violation. -/
def Reporter.events : Reporter → Violation → List InspectionEvent
  | .keep, _ => []
  | .closedChannel, v => [.dropped v]
  | .log, v => [.reported v]

/-- The outcome of an inspection. -/
structure Inspection where
  /-- The violations, in the order they were found. -/
  violations : List Violation := []
  /-- What was reported beside them. -/
  events : List InspectionEvent := []
deriving DecidableEq, Repr

namespace Inspection

/-- Number of violations. -/
def count (i : Inspection) : Nat := i.violations.length

/-- One outcome after another. -/
def append (i j : Inspection) : Inspection :=
  ⟨i.violations ++ j.violations, i.events ++ j.events⟩

/-- The violations of one kind. -/
def ofKind (i : Inspection) (kind : ViolationKind) : List Violation :=
  i.violations.filter (·.kind == kind)

end Inspection

namespace Config

/-- The violations of the enabled constraints, each constraint once and in its place. -/
def violations (config : Config) (ctx : Context) : List Violation :=
  ((Named.all : List ConstraintKind).filter config.isEnabled).flatMap (·.run ctx)

/-- Inspects the metadata of a class. -/
def inspect (config : Config) (reporter : Reporter) (pool : ClassPool) (id : ClassId)
    (m : Metadata) : Inspection :=
  match pool.class? id with
  | none => ⟨[], [.classAbsent id]⟩
  | some c =>
    let found := config.violations ⟨pool, c, m⟩
    ⟨found, found.flatMap reporter.events ++ [.finished found.length c.name m.kind]⟩

/-- Inspects several graphs, one after the other. -/
def inspectAll (config : Config) (reporter : Reporter) (pool : ClassPool)
    (entries : List (ClassId × Metadata)) : Inspection :=
  entries.foldl (fun i (id, m) => i.append (config.inspect reporter pool id m)) {}

end Config

end KotlinMetadata
