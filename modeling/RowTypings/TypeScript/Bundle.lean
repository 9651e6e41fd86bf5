import RowTypings.Sink.Basic
import RowTypings.TypeScript.Module

/-!
The modules of one run, in the order they were first declared. A bundle only grows, and it is
emitted once: every module is offered to the sink, whatever happened to the ones before it.
-/

namespace RowTypings.TypeScript

structure Bundle where
  indent : String := "  "
  modules : List Module := []

namespace Bundle

def module? (b : Bundle) (name : String) : Option Module :=
  b.modules.find? fun m => m.name == name

/-- Applies `f` to the module of that name, which is declared first if it is new. -/
def update (b : Bundle) (name : String) (f : Module → Module) : Bundle :=
  let rec go : List Module → List Module
    | [] => [f { name }]
    | m :: rest => if m.name == name then f m :: rest else m :: go rest
  { b with modules := go b.modules }

def declareModule (b : Bundle) (name : String) : Bundle := b.update name id

def addOrigin (b : Bundle) (name origin : String) : Bundle :=
  b.update name fun m => m.addOrigin origin

def declareInterface (b : Bundle) (name : String) (d : InterfaceDeclaration) : Bundle :=
  b.update name fun m => m.declareInterface d

def declareConstant (b : Bundle) (name : String) (d : ConstantDeclaration) : Bundle :=
  b.update name fun m => m.declareConstant d

end Bundle

/-- What became of the artifacts of a bundle. -/
structure Emission where
  persisted : List String := []
  failures : List (String × StorageError) := []

def Emission.isComplete (e : Emission) : Bool := e.failures.isEmpty

/-- Offers one module to the sink. -/
def emitModule {σ : Type} (sink : Sink σ) (mode : EmitMode) (indent : String)
    (state : σ × Emission) (m : Module) : σ × Emission :=
  let name := m.artifactName
  match sink.persist state.1 name (m.write indent) mode with
  | (s, .ok ()) => (s, { state.2 with persisted := state.2.persisted ++ [name] })
  | (s, .error e) => (s, { state.2 with failures := state.2.failures ++ [(name, e)] })

def Bundle.emit {σ : Type} (b : Bundle) (sink : Sink σ) (mode : EmitMode) (state : σ) :
    σ × Emission :=
  b.modules.foldl (emitModule sink mode b.indent) (state, {})

end RowTypings.TypeScript
