import RowTypings.Schema.Basic

/-!
Reports of a run: one for every source that was tried, in that order, and what became of the
artifacts.
-/

namespace RowTypings

structure SourceReport where
  identity : String
  module : String
  rows : Nat := 0
  stats : Stats := {}
  coercionFailures : Nat := 0
  diagnostics : Nat := 0
  error? : Option String := none

def SourceReport.isSuccess (r : SourceReport) : Bool := r.error?.isNone

structure Report where
  sources : List SourceReport
  artifacts : List String
  failedArtifacts : List (String × String)

namespace Report

def failedSources (r : Report) : List SourceReport := r.sources.filter fun s => !s.isSuccess

def isSuccess (r : Report) : Bool :=
  r.sources.all SourceReport.isSuccess && r.failedArtifacts.isEmpty

/-- The number of sources and artifacts that failed. -/
def failureCount (r : Report) : Nat := r.failedSources.length + r.failedArtifacts.length

def sourceLine (r : SourceReport) : String :=
  match r.error? with
  | some e => s!"  ✗ {r.identity}: {e}"
  | none =>
    s!"  ✓ {r.identity} -> {r.module} ({r.rows} rows, {r.stats.fieldsDiscovered} fields, " ++
      s!"{r.coercionFailures} coercion failures)"

/-- The lines that sum up a run, which took so many milliseconds. -/
def summary (r : Report) (milliseconds : Nat) : List String :=
  ["", s!"Transformed {r.sources.length} source(s) into {r.artifacts.length} artifact(s) " ++
      s!"in {milliseconds}ms"] ++
    r.sources.map sourceLine ++ r.failedArtifacts.map fun (name, e) => s!"  ✗ {name}: {e}"

end Report

end RowTypings
