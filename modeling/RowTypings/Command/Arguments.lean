import RowTypings.Settings.Codec

/-!
The arguments of the command line. They are first split into options and words by the switches a
command knows, then taken over one by one; the first that cannot be taken makes the whole line a
misuse, unless a request for help came before it.
-/

namespace RowTypings.Command

inductive OutputFormat where
  | json
  | yaml
  deriving DecidableEq

def OutputFormat.ofCode? : String → Option OutputFormat
  | "json" => some json
  | "yaml" => some yaml
  | _ => none

structure GenerateArguments where
  sources : List String := []
  config? : Option String := none
  layout? : Option ModuleLayout := none
  moduleName? : Option String := none
  directory? : Option String := none
  append : Bool := false
  sampleSize? : Option Nat := none
  refineRequired : Bool := false

structure InferArguments where
  source : String
  format : OutputFormat := .json
  sampleSize? : Option Nat := none
  refineRequired : Bool := false
  stats : Bool := false
  output? : Option String := none

/-- What a command line asks for. -/
inductive Invocation where
  | generate (arguments : GenerateArguments)
  | infer (arguments : InferArguments)
  | version
  | help
  | misuse

/-! ### Options and words -/

/-- An option of a command: its names, and whether a value belongs to it. -/
structure Switch (κ : Type) where
  key : κ
  long : String
  short? : Option Char := none
  takesValue : Bool := false

/-- One piece of a command line. -/
inductive Piece (κ : Type) where
  | option (key : κ) (value : String)
  | word (text : String)
  | wrong

/-- Whether a word would be read as an option, or as the mark behind which there are none. -/
def isOptionLike (word : String) : Bool :=
  match word.toList with
  | '-' :: _ :: _ => true
  | _ => false

/-- A name and the value that follows it behind an equals sign. -/
def splitValue (text : List Char) : String × Option String :=
  let name := String.ofList (text.takeWhile (· != '='))
  match text.dropWhile (· != '=') with
  | _ :: value => (name, some (String.ofList value))
  | [] => (name, none)

/-- The pieces of one option: those that are complete, and the key that still needs the next
word. -/
structure Opening (κ : Type) where
  pieces : List (Piece κ)
  pending? : Option κ := none

/-- An option by its long name. -/
def openLong {κ : Type} (switches : List (Switch κ)) (text : List Char) : Opening κ :=
  let (name, value?) := splitValue text
  match switches.find? fun s => s.long == name, value? with
  | none, _ => ⟨[.wrong], none⟩
  | some s, some v => ⟨[if s.takesValue then .option s.key v else .wrong], none⟩
  | some s, none => if s.takesValue then ⟨[], some s.key⟩ else ⟨[.option s.key ""], none⟩

/-- Options by their letters. What follows the letter of an option with a value is the value, behind
an equals sign or not. -/
def openShort {κ : Type} (switches : List (Switch κ)) : List Char → Opening κ
  | [] => ⟨[], none⟩
  | c :: cs =>
    match switches.find? fun s => s.short? == some c with
    | none => ⟨[.wrong], none⟩
    | some s =>
      if s.takesValue then
        match cs with
        | [] => ⟨[], some s.key⟩
        | '=' :: value => ⟨[.option s.key (String.ofList value)], none⟩
        | value => ⟨[.option s.key (String.ofList value)], none⟩
      else
        let later := openShort switches cs
        ⟨.option s.key "" :: later.pieces, later.pending?⟩

/-- The pieces of a command line. An option that needs a value takes the next word, which must not
look like an option itself. -/
def pieces {κ : Type} (switches : List (Switch κ)) : List String → List (Piece κ)
  | [] => []
  | word :: rest =>
    let continueWith (o : Opening κ) : List (Piece κ) :=
      o.pieces ++
        match o.pending? with
        | none => pieces switches rest
        | some key =>
          match rest with
          | [] => [.wrong]
          | value :: rest =>
            if isOptionLike value then [.wrong] else .option key value :: pieces switches rest
    match word.toList with
    | ['-', '-'] => rest.map .word
    | '-' :: '-' :: text => continueWith (openLong switches text)
    | '-' :: c :: text => continueWith (openShort switches (c :: text))
    | _ => .word word :: pieces switches rest

/-! ### Values -/

/-- A path has to have something in it. -/
def pathOf? (s : String) : Option String := if s == "" then none else some s

/-- A whole number that fits 64 bits, with a plus sign or without. -/
def countOf? (s : String) : Option Nat :=
  let digits :=
    match s.toList with
    | '+' :: cs => cs
    | cs => cs
  let n := digits.foldl (fun v c => v * 10 + (c.toNat - '0'.toNat)) 0
  if !digits.isEmpty && digits.all Char.isDigit && n < Nat.pow 2 64 then some n else none

/-- A setting that may be given once. -/
def once {α : Type} (old : Option α) (new : Option α) : Option (Option α) :=
  match old with
  | none => new.map some
  | some _ => none

/-- A mark that may be given once. -/
def onceMarked (old : Bool) : Option Bool := if old then none else some true

/-- Takes over pieces one by one. -/
def takeOver {κ α : Type} (word : α → String → Option α) (option : α → κ → String → Option α)
    (isHelp : κ → Bool) (finish : α → Invocation) : List (Piece κ) → α → Invocation
  | [], a => finish a
  | .wrong :: _, _ => .misuse
  | .word s :: rest, a =>
    match word a s with
    | some a => takeOver word option isHelp finish rest a
    | none => .misuse
  | .option key v :: rest, a =>
    if isHelp key then .help
    else
      match option a key v with
      | some a => takeOver word option isHelp finish rest a
      | none => .misuse

/-! ### The commands -/

inductive GenerateKey where
  | config
  | layout
  | moduleName
  | directory
  | append
  | sampleSize
  | refineRequired
  | verbose
  | help
  deriving DecidableEq

def generateSwitches : List (Switch GenerateKey) :=
  [⟨.config, "config", some 'c', true⟩, ⟨.layout, "layout", none, true⟩,
    ⟨.moduleName, "module-name", none, true⟩, ⟨.directory, "out-dir", some 'o', true⟩,
    ⟨.append, "append", none, false⟩, ⟨.sampleSize, "sample-size", none, true⟩,
    ⟨.refineRequired, "refine-required", none, false⟩, ⟨.verbose, "verbose", some 'v', false⟩,
    ⟨.help, "help", some 'h', false⟩]

def GenerateArguments.addWord (a : GenerateArguments) (s : String) : Option GenerateArguments := do
  return { a with sources := a.sources ++ [← pathOf? s] }

def GenerateArguments.addOption (a : GenerateArguments) (key : GenerateKey) (v : String) :
    Option GenerateArguments := do
  match key with
  | .config => return { a with config? := ← once a.config? (pathOf? v) }
  | .layout => return { a with layout? := ← once a.layout? (ModuleLayout.ofCode? v) }
  | .moduleName => return { a with moduleName? := ← once a.moduleName? (some v) }
  | .directory => return { a with directory? := ← once a.directory? (pathOf? v) }
  | .append => return { a with append := ← onceMarked a.append }
  | .sampleSize => return { a with sampleSize? := ← once a.sampleSize? (countOf? v) }
  | .refineRequired => return { a with refineRequired := ← onceMarked a.refineRequired }
  | .verbose => return a
  | .help => none

def ofGenerateWords (words : List String) : Invocation :=
  takeOver GenerateArguments.addWord GenerateArguments.addOption (· == .help) .generate
    (pieces generateSwitches words) {}

inductive InferKey where
  | format
  | sampleSize
  | refineRequired
  | stats
  | output
  | verbose
  | help
  deriving DecidableEq

def inferSwitches : List (Switch InferKey) :=
  [⟨.format, "format", some 'f', true⟩, ⟨.sampleSize, "sample-size", none, true⟩,
    ⟨.refineRequired, "refine-required", none, false⟩, ⟨.stats, "stats", none, false⟩,
    ⟨.output, "output", some 'o', true⟩, ⟨.verbose, "verbose", some 'v', false⟩,
    ⟨.help, "help", some 'h', false⟩]

/-- The arguments of `infer` while they are gathered. -/
structure InferDraft where
  source? : Option String := none
  format? : Option OutputFormat := none
  sampleSize? : Option Nat := none
  refineRequired : Bool := false
  stats : Bool := false
  output? : Option String := none

namespace InferDraft

def addWord (a : InferDraft) (s : String) : Option InferDraft := do
  return { a with source? := ← once a.source? (pathOf? s) }

def addOption (a : InferDraft) (key : InferKey) (v : String) : Option InferDraft := do
  match key with
  | .format => return { a with format? := ← once a.format? (OutputFormat.ofCode? v) }
  | .sampleSize => return { a with sampleSize? := ← once a.sampleSize? (countOf? v) }
  | .refineRequired => return { a with refineRequired := ← onceMarked a.refineRequired }
  | .stats => return { a with stats := ← onceMarked a.stats }
  | .output => return { a with output? := ← once a.output? (pathOf? v) }
  | .verbose => return a
  | .help => none

/-- The source is necessary. -/
def finish (a : InferDraft) : Invocation :=
  match a.source? with
  | some source =>
    .infer {
      source
      format := a.format?.getD .json
      sampleSize? := a.sampleSize?
      refineRequired := a.refineRequired
      stats := a.stats
      output? := a.output? }
  | none => .misuse

end InferDraft

def ofInferWords (words : List String) : Invocation :=
  takeOver InferDraft.addWord InferDraft.addOption (· == .help) InferDraft.finish
    (pieces inferSwitches words) {}

/-! ### The whole line -/

def commandNames : List String := ["generate", "infer", "help"]

/-- A command by its name, with the words behind it. -/
def ofCommand (name : String) (rest : List String) : Invocation :=
  match name with
  | "generate" => ofGenerateWords rest
  | "infer" => ofInferWords rest
  | "help" => if rest.length ≤ 1 && rest.all commandNames.contains then .help else .misuse
  | _ => .misuse

inductive OuterKey where
  | verbose
  | help
  | version

def outerSwitches : List (Switch OuterKey) :=
  [⟨.verbose, "verbose", some 'v', false⟩, ⟨.help, "help", some 'h', false⟩,
    ⟨.version, "version", some 'V', false⟩]

/-- What options before the command ask for, if that is an answer by itself. -/
def answerOf? : List (Piece OuterKey) → Option Invocation
  | [] => none
  | .option .verbose _ :: rest => answerOf? rest
  | .option .help _ :: _ => some .help
  | .option .version _ :: _ => some .version
  | _ => some .misuse

/-- Reads a command line: options for the whole program, a command, and the rest for the command. -/
def Invocation.ofWords : List String → Invocation
  | [] => .misuse
  | word :: rest =>
    if word == "--" then .misuse
    else if isOptionLike word then (answerOf? (pieces outerSwitches [word])).getD (ofWords rest)
    else ofCommand word rest

end RowTypings.Command
