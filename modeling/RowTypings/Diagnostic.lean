/-!
Diagnostics: everything that goes wrong without stopping a run. Each says what was left out and
why; the wording is in `Diagnostic.message` alone.
-/

namespace RowTypings

/-- Why a nested interface is written as a bare `object`. -/
inductive Gap where
  | tooDeep (limit : Nat)
  | noFields

/-- Why a value is left out of a literal. -/
inductive Omission where
  | mismatch (found expected : String)
  | undeclared

inductive Diagnostic where
  | coercion (origin : String) (row : Nat) (field expected found : String)
  | declarationGap (field : String) (gap : Gap)
  | contentOmitted (field : String) (omission : Omission)
  | sourceFailed (origin message : String)
  | duplicateDeclaration (module name : String)
  | emitFailed (artifact message : String)

def Gap.message : Gap → String
  | tooDeep limit => s!"nested deeper than {limit} levels"
  | noFields => "nested model has no fields"

def Omission.message : Omission → String
  | mismatch found expected => s!"{found} value for {expected} property"
  | undeclared => "not declared by the nested interface"

namespace Diagnostic

def message : Diagnostic → String
  | coercion origin row field expected found =>
    s!"{origin}: row {row}: field '{field}' expected {expected}, found {found}"
  | declarationGap field gap => s!"declaration gap for '{field}': {gap.message}"
  | contentOmitted field omission => s!"content for '{field}' omitted: {omission.message}"
  | sourceFailed origin message => s!"source '{origin}' failed: {message}"
  | duplicateDeclaration module name =>
    s!"duplicate declaration '{name}' in module '{module}' ignored"
  | emitFailed artifact message => s!"artifact '{artifact}' not emitted: {message}"

def isCoercion : Diagnostic → Bool
  | coercion .. => true
  | _ => false

end Diagnostic

end RowTypings
