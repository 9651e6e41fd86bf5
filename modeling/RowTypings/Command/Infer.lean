import RowTypings.Command.Arguments
import RowTypings.Command.Outcome
import RowTypings.Json.Printer
import RowTypings.Schema.Codec
import RowTypings.Yaml.Printer

/-!
The command that shows the schema inferred for one source.
-/

namespace RowTypings.Command

def InferArguments.inferenceSettings (a : InferArguments) : InferenceSettings :=
  let d : InferenceSettings := {}
  { d with sampleSize := a.sampleSize?.getD d.sampleSize, refineRequired := a.refineRequired }

/-- The schema of the sampled rows, and how many they are. The first row of the sample that cannot
be had is the failure. -/
def inferSource (settings : InferenceSettings) (t : FileTree) (source : Source) :
    Except SourceError (Schema × Nat) := do
  let rows ← source.rows t
  let sampled ← (settings.sample rows).mapM id
  return ({ settings, encoding := source.encoding : Inference }.ofRows sampled, sampled.length)

/-- The schema as the command shows it, with its statistics if they are wanted. -/
def InferArguments.shown (a : InferArguments) (schema : Schema) (stats : Stats) : String :=
  let v : Value :=
    if a.stats then .object [("model", schema.toValue), ("stats", stats.toValue)]
    else schema.toValue
  match a.format with
  | .json => Json.indented 0 v
  | .yaml => Yaml.write v

def InferArguments.notes (a : InferArguments) (stats : Stats) : List Note :=
  [.line s!"Inferred model for {a.source}:", .line s!"  Rows sampled: {stats.rowsSampled}",
    .line s!"  Fields discovered: {stats.fieldsDiscovered}"]

/-- Puts the text into the output file, or else onto the output. -/
def InferArguments.deliver (a : InferArguments) (t : FileTree) (notes : List Note)
    (text : String) : Outcome :=
  match a.output? with
  | none => { tree := t, output := text ++ "\n", notes }
  | some path =>
    match t.writeFile path fun _ => text.toUTF8 with
    | .ok t => { tree := t, notes := notes ++ [.line s!"  Written to: {path}"] }
    | .error e => ({ tree := t, notes } : Outcome).failing (.notWritten e)

def InferArguments.run (a : InferArguments) (t : FileTree) : Outcome :=
  let unchanged : Outcome := { tree := t }
  match ({ path := a.source : SourceEntry }).source with
  | .error e => unchanged.failing (.badSettings e)
  | .ok source =>
    match inferSource a.inferenceSettings t source with
    | .error e => unchanged.failing (.badSource e)
    | .ok (schema, count) =>
      let stats := schema.stats count
      a.deliver t (a.notes stats) (a.shown schema stats)

/-- The paths that matter to the command. -/
def InferArguments.paths (a : InferArguments) : List String := a.source :: a.output?.toList

end RowTypings.Command
