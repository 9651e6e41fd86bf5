/-!
Emitted modules: a header that names the origins, then interfaces, then constants. The first
declaration of a name stands.
-/

namespace RowTypings.TypeScript

structure InterfaceDeclaration where
  name : String
  members : List String
  deriving DecidableEq

/-- The right-hand side of a constant: one row, a list of rows, or such values by key. -/
inductive ContentExpr where
  | one (literal : String)
  | rows (literals : List String)
  | keyed (entries : List (String × ContentExpr))
  deriving Inhabited

structure ConstantDeclaration where
  name : String
  typeName : String
  value : ContentExpr

structure Module where
  name : String
  origins : List String := []
  interfaces : List InterfaceDeclaration := []
  constants : List ConstantDeclaration := []

namespace Module

def artifactName (m : Module) : String := m.name ++ ".ts"

def hasInterface (m : Module) (name : String) : Bool := m.interfaces.any fun d => d.name == name

def hasConstant (m : Module) (name : String) : Bool := m.constants.any fun d => d.name == name

def addOrigin (m : Module) (origin : String) : Module :=
  if m.origins.contains origin then m else { m with origins := m.origins ++ [origin] }

def declareInterface (m : Module) (d : InterfaceDeclaration) : Module :=
  if m.hasInterface d.name then m else { m with interfaces := m.interfaces ++ [d] }

def declareConstant (m : Module) (d : ConstantDeclaration) : Module :=
  if m.hasConstant d.name then m else { m with constants := m.constants ++ [d] }

end Module

/-! ### Text -/

def repeatText (n : Nat) (s : String) : String := String.join (List.replicate n s)

/-- Lines between brackets, each with a comma at its end. -/
def bracketed (indent : String) (level : Nat) (opening closing : String) (lines : List String) :
    String :=
  if lines.isEmpty then opening ++ closing
  else
    opening ++ "\n" ++
      String.join (lines.map fun l => repeatText (level + 1) indent ++ l ++ ",\n") ++
      repeatText level indent ++ closing

mutual

def ContentExpr.write (indent : String) (level : Nat) : ContentExpr → String
  | .one literal => literal
  | .rows literals => bracketed indent level "[" "]" literals
  | .keyed entries =>
    bracketed indent level "\x7b" "\x7d" (writeKeyed indent (level + 1) entries)

def writeKeyed (indent : String) (level : Nat) : List (String × ContentExpr) → List String
  | [] => []
  | (key, value) :: rest =>
    (key ++ ": " ++ value.write indent level) :: writeKeyed indent level rest

end

def InterfaceDeclaration.write (indent : String) (d : InterfaceDeclaration) : String :=
  if d.members.isEmpty then "export interface " ++ d.name ++ " \x7b\x7d"
  else
    "export interface " ++ d.name ++ " \x7b\n" ++
      String.join (d.members.map fun m => indent ++ m ++ "\n") ++ "\x7d"

def ConstantDeclaration.write (indent : String) (d : ConstantDeclaration) : String :=
  "export const " ++ d.name ++ ": " ++ d.typeName ++ " = " ++ d.value.write indent 0 ++ ";"

def headerOf (origins : List String) : List String :=
  if origins.isEmpty then []
  else ["// Generated from " ++ ", ".intercalate origins ++ ". Do not edit."]

/-- The blocks of a module have an empty line between them. -/
def Module.write (indent : String) (m : Module) : String :=
  "\n\n".intercalate
    (headerOf m.origins ++ m.interfaces.map (·.write indent) ++ m.constants.map (·.write indent)) ++
    "\n"

end RowTypings.TypeScript
