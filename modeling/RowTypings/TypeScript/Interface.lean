import RowTypings.Diagnostic
import RowTypings.Schema.Basic
import RowTypings.TypeScript.PropertyKey

/-!
Interface members for a schema. A nested schema becomes a block of members, unless it lies too deep
or is empty: then its member is a bare `object`, and a gap is reported.
-/

namespace RowTypings.TypeScript

structure DeclarationSettings where
  readonly : Bool := true
  indent : String := "  "
  maxDepth : Nat := 10
  deriving DecidableEq

/-- What stands around the type of a member. -/
structure MemberHead where
  key : PropertyKey
  isOptional : Bool
  comment : String
  deriving DecidableEq

inductive MemberType where
  | unknown
  | unknownArray
  | number
  | boolean
  | date
  | string
  | object
  | objectArray
  | block (members : List (MemberHead × MemberType))
  | blockArray (members : List (MemberHead × MemberType))

abbrev Member := MemberHead × MemberType

/-- A text on one line: each line break becomes a space. -/
def flattenLines : List Char → List Char
  | '\r' :: '\n' :: cs => ' ' :: flattenLines cs
  | c :: cs => (if Text.isLineBreak c then ' ' else c) :: flattenLines cs
  | [] => []

def MemberHead.ofProperty (key : PropertyKey) (p : Property) : MemberHead where
  key := key
  isOptional := !p.required
  comment := String.ofList (flattenLines p.description.toList)

/-- The heads of the members of a schema. -/
def headsOf (s : Schema) : List MemberHead :=
  (uniqueKeys s.names).zipWith (fun key f => .ofProperty key f.2) s

/-! ### Types -/

mutual

/-- The type of a member at `level`; top-level members are at level 1. -/
def memberType (maxDepth level : Nat) : Kind → MemberType
  | .unknown .scalar => .unknown
  | .unknown .array => .unknownArray
  | .unknown .object => .object
  | .numeric => .number
  | .boolean => .boolean
  | .dateTime => .date
  | .text => .string
  | .object s =>
    if maxDepth ≤ level || s.isEmpty then .object
    else .block ((headsOf s).zip (memberTypes maxDepth (level + 1) s))
  | .objectArray s =>
    if maxDepth ≤ level || s.isEmpty then .objectArray
    else .blockArray ((headsOf s).zip (memberTypes maxDepth (level + 1) s))

def memberTypes (maxDepth level : Nat) : List (String × Described Kind) → List MemberType
  | [] => []
  | (_, ⟨kind, _, _⟩) :: rest => memberType maxDepth level kind :: memberTypes maxDepth level rest

end

/-- The members of a schema at the given level. -/
def membersOf (maxDepth level : Nat) (s : Schema) : List Member :=
  (headsOf s).zip (memberTypes maxDepth level s)

/-! ### Gaps -/

/-- Why a nested schema of a member at `level` gets no block. -/
def gap? (maxDepth level : Nat) (s : Schema) : Option Gap :=
  if maxDepth ≤ level then some (.tooDeep maxDepth)
  else if s.isEmpty then some .noFields
  else none

mutual

/-- The gaps in the type of the member of that name. -/
def kindGaps (maxDepth level : Nat) (name : String) : Kind → List Diagnostic
  | .object s =>
    match gap? maxDepth level s with
    | some gap => [.declarationGap name gap]
    | none => schemaGaps maxDepth (level + 1) s
  | .objectArray s =>
    match gap? maxDepth level s with
    | some gap => [.declarationGap name gap]
    | none => schemaGaps maxDepth (level + 1) s
  | .unknown _ => []
  | .numeric => []
  | .boolean => []
  | .dateTime => []
  | .text => []

/-- The gaps in the members of a schema, in their order. -/
def schemaGaps (maxDepth level : Nat) : List (String × Described Kind) → List Diagnostic
  | [] => []
  | (name, ⟨kind, _, _⟩) :: rest =>
    kindGaps maxDepth level name kind ++ schemaGaps maxDepth level rest

end

/-! ### Text -/

def indentation (settings : DeclarationSettings) (level : Nat) : String :=
  String.join (List.replicate level settings.indent)

/-- A member around the text of its type. -/
def MemberHead.write (settings : DeclarationSettings) (head : MemberHead) (type : String) :
    String :=
  (if settings.readonly then "readonly " else "") ++ head.key.write ++
    (if head.isOptional then "?" else "") ++ ": " ++ type ++ "; // " ++ head.comment

/-- Members between braces, each on a line of its own. -/
def writeBlock (settings : DeclarationSettings) (level : Nat) (members : List String) : String :=
  "\x7b\n" ++
    String.join (members.map fun m => indentation settings (level + 1) ++ m ++ "\n") ++
    indentation settings level ++ "\x7d"

mutual

/-- The type of a member at `level`. -/
def MemberType.write (settings : DeclarationSettings) (level : Nat) : MemberType → String
  | .unknown => "unknown"
  | .unknownArray => "unknown[]"
  | .number => "number"
  | .boolean => "boolean"
  | .date => "Date"
  | .string => "string"
  | .object => "object"
  | .objectArray => "object[]"
  | .block members => writeBlock settings level (writeMembers settings (level + 1) members)
  | .blockArray members =>
    writeBlock settings level (writeMembers settings (level + 1) members) ++ "[]"

/-- Members at `level`, without the indentation of their first lines. -/
def writeMembers (settings : DeclarationSettings) (level : Nat) :
    List (MemberHead × MemberType) → List String
  | [] => []
  | (head, type) :: rest =>
    head.write settings (type.write settings level) :: writeMembers settings level rest

end

/-- The members of a top-level interface. -/
def interfaceMembers (settings : DeclarationSettings) (s : Schema) : List String :=
  writeMembers settings 1 (membersOf settings.maxDepth 1 s)

def interfaceGaps (settings : DeclarationSettings) (s : Schema) : List Diagnostic :=
  schemaGaps settings.maxDepth 1 s

/-- One member on its own, called as if it had no siblings. -/
def singleMember (settings : DeclarationSettings) (name : String) (p : Property) : String :=
  (MemberHead.ofProperty (.ofName name) p).write settings
    ((memberType settings.maxDepth 1 p.kind).write settings 1)

end RowTypings.TypeScript
