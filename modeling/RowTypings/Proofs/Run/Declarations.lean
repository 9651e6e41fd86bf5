import Mathlib
import RowTypings.Proofs.Run.Calls
import RowTypings.Proofs.TypeScript.Bundle
import RowTypings.Proofs.TypeScript.KeyTable

/-!
What a run declares, and who declared it. A source that compiles adds an interface and a constant to
its module, each unless the name is taken; in the combined layout the constant waits for the end.
Nothing that is declared is ever changed, so a constant can be traced back to the one call that
brought it, and to the interface it is typed by.
-/

namespace RowTypings

open TypeScript

/-! ### What a source declares -/

def interfaceOf (source : Source) (compiled : Compiled) : InterfaceDeclaration where
  name := source.interfaceName
  members := compiled.members

def constantOf (source : Source) (compiled : Compiled) : ConstantDeclaration where
  name := source.constantName
  typeName := Session.typeNameOf source compiled
  value := compiled.value

/-- The constant of a source as it waits for the end of the combined layout. -/
def entryOf (source : Source) (compiled : Compiled) : CombinedEntry where
  key := source.constantName
  typeName := Session.typeNameOf source compiled
  value := compiled.value
  origin := source.identity

theorem contentOf_cases (single : Bool) (literals : List String) :
    (∃ rows, contentOf single literals = (.rows rows, true)) ∨
      ∃ literal, contentOf single literals = (.one literal, false) := by
  unfold contentOf
  split
  · cases single
    · exact .inl ⟨_, rfl⟩
    · exact .inr ⟨_, rfl⟩
  · exact .inl ⟨_, rfl⟩

/-- A list of rows is typed as a list, and one row by itself as the interface. -/
theorem typeNameOf_compileSource {settings : Settings} {t : FileTree} {source : Source}
    {reported : List Diagnostic} {compiled : Compiled}
    (h : compileSource settings t source = (reported, .ok compiled)) :
    (∃ literals, compiled.value = .rows literals ∧
      Session.typeNameOf source compiled = source.interfaceName ++ "[]") ∨
    ∃ literal, compiled.value = .one literal ∧
      Session.typeNameOf source compiled = source.interfaceName := by
  have haccepts : (Session.start settings).rejects (.transform t source) = false := by
    rw [Session.rejects, Session.transform_of_ok _ h]
  obtain ⟨rows, hrows⟩ := (Session.rejects_transform_eq_false_iff _ t source).mp haccepts
  rw [compileSource, hrows] at h
  dsimp only at h
  rw [compileRows_map_ok] at h
  obtain rfl := Except.ok.inj (congrArg Prod.snd h)
  unfold Session.typeNameOf
  dsimp only
  rcases contentOf_cases settings.singleRowAsObject (rows.map (rowLiteral source.encoding
      (({ settings := settings.inference, encoding := source.encoding } : Inference).ofRows rows)))
    with ⟨literals, hcontent⟩ | ⟨literal, hcontent⟩
  · rw [hcontent]
    exact .inl ⟨literals, rfl, rfl⟩
  · rw [hcontent]
    exact .inr ⟨literal, rfl, rfl⟩

/-- The module with the interface of a source, if that is new to it. -/
def withInterface (source : Source) (compiled : Compiled) (m : Module) : Module :=
  { m with
    origins := addNew id m.origins source.identity
    interfaces := addNew InterfaceDeclaration.name m.interfaces (interfaceOf source compiled) }

/-- The module with the constant of a source, if that is new to it. -/
def withConstant (source : Source) (compiled : Compiled) (m : Module) : Module :=
  { m with
    constants := addNew ConstantDeclaration.name m.constants (constantOf source compiled) }

namespace Session

/-- The names of the interfaces that a module holds. -/
def interfaceNames (s : Session) (module : String) : List String :=
  (s.bundle.moduleOf module).interfaces.map InterfaceDeclaration.name

/-- The names that the constant of one more source of a module may not have. -/
def constantNames (s : Session) (module : String) : List String :=
  match s.settings.layout with
  | .separate => (s.bundle.moduleOf module).constants.map ConstantDeclaration.name
  | .combined => s.combined.map CombinedEntry.key

/-- What is reported when a source is declared in a module: which of its two names are taken. -/
def duplicates (s : Session) (module : String) (source : Source) : List Diagnostic :=
  (if source.interfaceName ∈ s.interfaceNames module then
      [.duplicateDeclaration module source.interfaceName]
    else []) ++
    if source.constantName ∈ s.constantNames module then
      [.duplicateDeclaration module source.constantName]
    else []

/-! ### One declaration -/

section

variable (s : Session) (module : String) (source : Source) (compiled : Compiled)

theorem declareInterface_eq :
    s.declareInterface module source compiled =
      ({ s with bundle := s.bundle.update module (withInterface source compiled) },
        if source.interfaceName ∈ s.interfaceNames module then
          [.duplicateDeclaration module source.interfaceName]
        else []) := by
  have horigin : ∀ m : Module, (m.addOrigin source.identity).name = m.name :=
    fun m => by rw [m.addOrigin_eq]
  have hnames : ((s.bundle.addOrigin module source.identity).moduleOf module).interfaces =
      (s.bundle.moduleOf module).interfaces := by
    rw [Bundle.addOrigin, Bundle.moduleOf_update _ horigin, if_pos rfl, Module.addOrigin_eq]
  have htaken := (s.bundle.addOrigin module source.identity).any_hasInterface module
    source.interfaceName
  rw [hnames] at htaken
  unfold declareInterface interfaceNames
  dsimp only
  split <;> rename_i h
  · have hmem := htaken.mp h
    -- the interface is there, so that declaring it again would change nothing
    have hsame : s.bundle.addOrigin module source.identity =
        s.bundle.update module (withInterface source compiled) := by
      refine s.bundle.update_congr ?_
      rw [Module.addOrigin_eq, withInterface, addNew_of_mem (d := interfaceOf source compiled) hmem]
    rw [if_pos hmem, hsame]
  · have hplace : (fun m => m.declareInterface (interfaceOf source compiled)) ∘
        (fun m => m.addOrigin source.identity) = withInterface source compiled := by
      funext m
      rw [Function.comp, Module.addOrigin_eq, Module.declareInterface_eq]
      rfl
    rw [if_neg fun hmem => h (htaken.mpr hmem), ← hplace, ← Bundle.update_update _ horigin]
    rfl

theorem declareConstant_of_separate (h : s.settings.layout = .separate) :
    s.declareConstant module source compiled =
      ({ s with bundle := s.bundle.update module (withConstant source compiled) },
        if source.constantName ∈ s.constantNames module then
          [.duplicateDeclaration module source.constantName]
        else []) := by
  have htaken := s.bundle.any_hasConstant module source.constantName
  unfold declareConstant constantNames
  rw [h]
  dsimp only
  split <;> rename_i hname
  · have hmem := htaken.mp hname
    have hdeclared : module ∈ s.bundle.names := by
      by_contra hnot
      rw [s.bundle.moduleOf_of_not_mem hnot] at hmem
      cases hmem
    have hsame : withConstant source compiled (s.bundle.moduleOf module) =
        s.bundle.moduleOf module := by
      rw [withConstant, addNew_of_mem (d := constantOf source compiled) hmem]
    rw [if_pos hmem, s.bundle.update_eq_self hdeclared hsame]
  · have hplace : (fun m => m.declareConstant (constantOf source compiled)) =
        withConstant source compiled := funext fun m => m.declareConstant_eq _
    rw [if_neg fun hmem => hname (htaken.mpr hmem), ← hplace]
    rfl

theorem declareConstant_of_combined (h : s.settings.layout = .combined) :
    s.declareConstant module source compiled =
      ({ s with combined := addNew CombinedEntry.key s.combined (entryOf source compiled) },
        if source.constantName ∈ s.constantNames module then
          [.duplicateDeclaration module source.constantName]
        else []) := by
  have htaken : (s.combined.any fun e => e.key == source.constantName) = true ↔
      source.constantName ∈ s.combined.map CombinedEntry.key := by
    simp
  unfold declareConstant constantNames
  rw [h]
  dsimp only
  split <;> rename_i hname
  · rw [if_pos (htaken.mp hname), addNew_of_mem (htaken.mp hname)]
  · have hnew := fun hmem => hname (htaken.mpr hmem)
    rw [if_neg hnew, addNew_of_not_mem hnew]
    rfl

/-- An interface takes no name from the constants. -/
theorem constantNames_withInterface (n : String) :
    constantNames { s with bundle := s.bundle.update module (withInterface source compiled) } n =
      s.constantNames n := by
  unfold constantNames
  cases s.settings.layout with
  | combined => rfl
  | separate =>
      dsimp only
      rw [Bundle.moduleOf_update _ (f := withInterface source compiled) fun _ => rfl]
      split <;> rfl

theorem declare_of_separate (h : s.settings.layout = .separate) :
    s.declare module source compiled =
      ({ s with
          bundle := s.bundle.update module
            (withConstant source compiled ∘ withInterface source compiled) },
        s.duplicates module source) := by
  let s' := { s with bundle := s.bundle.update module (withInterface source compiled) }
  unfold declare
  rw [declareInterface_eq]
  dsimp only
  rw [s'.declareConstant_of_separate module source compiled h, constantNames_withInterface,
    Bundle.update_update _ (f := withInterface source compiled) fun _ => rfl]
  rfl

theorem declare_of_combined (h : s.settings.layout = .combined) :
    s.declare module source compiled =
      ({ s with
          bundle := s.bundle.update module (withInterface source compiled)
          combined := addNew CombinedEntry.key s.combined (entryOf source compiled) },
        s.duplicates module source) := by
  let s' := { s with bundle := s.bundle.update module (withInterface source compiled) }
  unfold declare
  rw [declareInterface_eq]
  dsimp only
  rw [s'.declareConstant_of_combined module source compiled h, constantNames_withInterface]
  rfl

theorem declare_reported :
    (s.declare module source compiled).2 = s.duplicates module source := by
  cases hlayout : s.settings.layout with
  | separate => rw [s.declare_of_separate module source compiled hlayout]
  | combined => rw [s.declare_of_combined module source compiled hlayout]

theorem moduleOf_declare_of_separate (h : s.settings.layout = .separate) (n : String) :
    (s.declare module source compiled).1.bundle.moduleOf n =
      if n = module then
        withConstant source compiled (withInterface source compiled (s.bundle.moduleOf n))
      else s.bundle.moduleOf n := by
  rw [s.declare_of_separate module source compiled h]
  exact s.bundle.moduleOf_update (f := withConstant source compiled ∘ withInterface source compiled)
    (fun _ => rfl) n

theorem moduleOf_declare_of_combined (h : s.settings.layout = .combined) (n : String) :
    (s.declare module source compiled).1.bundle.moduleOf n =
      if n = module then withInterface source compiled (s.bundle.moduleOf n)
      else s.bundle.moduleOf n := by
  rw [s.declare_of_combined module source compiled h]
  exact s.bundle.moduleOf_update (f := withInterface source compiled) (fun _ => rfl) n

end

/-! ### What is declared stays -/

/-- The second session holds everything of the first, in the same order, and maybe more behind
it. -/
structure Extends (s s' : Session) : Prop where
  bundle : s.bundle.Extends s'.bundle
  combined : s.combined <+: s'.combined

variable (s : Session)

theorem Extends.trans {s s' s'' : Session} (h : s.Extends s') (h' : s'.Extends s'') :
    s.Extends s'' :=
  ⟨h.bundle.trans h'.bundle, h.combined.trans h'.combined⟩

theorem extends_withInterface (source : Source) (compiled : Compiled) (m : Module) :
    m.Extends (withInterface source compiled m) :=
  ⟨prefix_addNew .., prefix_addNew .., List.prefix_rfl⟩

theorem extends_withConstant (source : Source) (compiled : Compiled) (m : Module) :
    m.Extends (withConstant source compiled m) :=
  ⟨List.prefix_rfl, List.prefix_rfl, prefix_addNew ..⟩

theorem declare_extends (module : String) (source : Source) (compiled : Compiled) :
    s.Extends (s.declare module source compiled).1 := by
  cases hlayout : s.settings.layout with
  | separate =>
      rw [s.declare_of_separate module source compiled hlayout]
      refine ⟨Bundle.extends_update _ (fun _ => rfl) fun m => ?_, List.prefix_rfl⟩
      exact (extends_withInterface source compiled m).trans (extends_withConstant ..)
  | combined =>
      rw [s.declare_of_combined module source compiled hlayout]
      refine ⟨Bundle.extends_update _ (fun _ => rfl) fun m => ?_, prefix_addNew ..⟩
      exact extends_withInterface source compiled m

theorem perform_extends (c : Call) : s.Extends (s.perform c) := by
  rcases s.perform_cases c with ⟨-, _, _, h⟩ | ⟨_, source, _, compiled, -, -, -, h⟩
  · rw [h]
    exact ⟨.refl _, List.prefix_rfl⟩
  · rw [h]
    exact ⟨(s.declare_extends _ source compiled).bundle,
      (s.declare_extends _ source compiled).combined⟩

theorem performAll_extends (calls : List Call) : s.Extends (s.performAll calls) := by
  induction calls generalizing s with
  | nil => exact ⟨.refl _, List.prefix_rfl⟩
  | cons c calls ih => exact (s.perform_extends c).trans (ih (s.perform c))

theorem performAll_append (before after : List Call) :
    s.performAll (before ++ after) = (s.performAll before).performAll after :=
  List.foldl_append

theorem performAll_concat (calls : List Call) (c : Call) :
    s.performAll (calls ++ [c]) = (s.performAll calls).perform c :=
  List.foldl_concat ..

/-- What every declaration keeps is kept by a sequence of calls. -/
theorem performAll_induction {P : Session → Prop} (hstart : P s)
    (hreport : ∀ s r, P s → P (s.addReport r))
    (hdeclare : ∀ s source compiled, P s →
      P (s.declare (s.moduleFor source.moduleName) source compiled).1) (calls : List Call) :
    P (s.performAll calls) := by
  induction calls using List.reverseRecOn with
  | nil => exact hstart
  | append_singleton calls c ih =>
      rw [performAll_concat]
      rcases (s.performAll calls).perform_cases c with
        ⟨-, _, _, h⟩ | ⟨_, source, _, compiled, -, -, -, h⟩
      · rw [h]
        exact hreport _ _ ih
      · rw [h]
        exact hreport _ _ (hdeclare _ source compiled ih)

theorem names_declare (module : String) (source : Source) (compiled : Compiled) :
    (s.declare module source compiled).1.bundle.names = addNew id s.bundle.names module := by
  cases hlayout : s.settings.layout with
  | separate =>
      rw [s.declare_of_separate module source compiled hlayout]
      exact Bundle.names_update _ fun _ => rfl
  | combined =>
      rw [s.declare_of_combined module source compiled hlayout]
      exact Bundle.names_update _ fun _ => rfl

theorem origins_declare (module : String) (source : Source) (compiled : Compiled) (n : String) :
    ((s.declare module source compiled).1.bundle.moduleOf n).origins =
      if n = module then addNew id (s.bundle.moduleOf n).origins source.identity
      else (s.bundle.moduleOf n).origins := by
  cases hlayout : s.settings.layout with
  | separate =>
      rw [s.moduleOf_declare_of_separate module source compiled hlayout]
      split <;> rfl
  | combined =>
      rw [s.moduleOf_declare_of_combined module source compiled hlayout]
      split <;> rfl

theorem interfaces_declare (module : String) (source : Source) (compiled : Compiled) (n : String) :
    ((s.declare module source compiled).1.bundle.moduleOf n).interfaces =
      if n = module then
        addNew InterfaceDeclaration.name (s.bundle.moduleOf n).interfaces
          (interfaceOf source compiled)
      else (s.bundle.moduleOf n).interfaces := by
  cases hlayout : s.settings.layout with
  | separate =>
      rw [s.moduleOf_declare_of_separate module source compiled hlayout]
      split <;> rfl
  | combined =>
      rw [s.moduleOf_declare_of_combined module source compiled hlayout]
      split <;> rfl

theorem nodup_names_performAll (settings : Settings) (calls : List Call) :
    ((start settings).performAll calls).bundle.names.Nodup := by
  refine performAll_induction (P := fun s => s.bundle.names.Nodup) (start settings)
    List.nodup_nil (fun _ _ h => h) (fun s source compiled h => ?_) calls
  rw [names_declare]
  exact nodup_addNew_id h _

theorem nodup_interfaceNames_performAll (settings : Settings) (calls : List Call) (n : String) :
    (((start settings).performAll calls).interfaceNames n).Nodup := by
  refine performAll_induction (P := fun s => (s.interfaceNames n).Nodup) (start settings)
    List.nodup_nil (fun _ _ h => h) (fun s source compiled h => ?_) calls
  rw [interfaceNames, interfaces_declare]
  split
  · exact nodup_addNew h _
  · exact h

/-! ### Where declarations come from -/

/-- Of a sequence of calls, the one behind `before` is of a source that compiles and whose constant
is the first of its name: the declared constant comes from this source. -/
structure Declares (settings : Settings) (calls before : List Call) (t : FileTree)
    (source : Source) (compiled : Compiled) : Prop where
  call : ∃ after, calls = before ++ .transform t source :: after
  compiles : (compileSource settings t source).2 = .ok compiled
  new : source.constantName ∉ ((start settings).performAll before).constantNames
    ((start settings).moduleFor source.moduleName)

variable {settings : Settings}

theorem moduleFor_congr {s s' : Session} (h : s.settings = s'.settings) (own : String) :
    s.moduleFor own = s'.moduleFor own := by
  rw [moduleFor, moduleFor, h]

/-- What no session has at its start and only a new constant brings comes from a call that declares
a constant. -/
theorem exists_declares {P : Session → Prop} {Q : Source → Compiled → Prop}
    (hstart : ¬ P (start settings)) (hreport : ∀ s r, P (s.addReport r) → P s)
    (hdeclare : ∀ s source compiled, s.settings = settings →
      P (s.declare (s.moduleFor source.moduleName) source compiled).1 → P s ∨
        Q source compiled ∧
          source.constantName ∉ s.constantNames (s.moduleFor source.moduleName))
    {calls : List Call} (h : P ((start settings).performAll calls)) :
    ∃ before t source compiled, Declares settings calls before t source compiled ∧
      Q source compiled := by
  induction calls using List.reverseRecOn with
  | nil => exact absurd h hstart
  | append_singleton calls c ih =>
      -- one more call changes nothing about the call that a declaration came from
      have hlater : P ((start settings).performAll calls) →
          ∃ before t source compiled, Declares settings (calls ++ [c]) before t source compiled ∧
            Q source compiled := by
        intro hcalls
        obtain ⟨before, t, source, compiled, hdeclares, hq⟩ := ih hcalls
        obtain ⟨after, rfl⟩ := hdeclares.call
        exact ⟨before, t, source, compiled,
          ⟨⟨after ++ [c], by simp⟩, hdeclares.compiles, hdeclares.new⟩, hq⟩
      have hsettings := (start settings).performAll_settings calls
      rw [performAll_concat] at h
      rcases ((start settings).performAll calls).perform_cases c with
        ⟨-, _, _, hstep⟩ | ⟨t, source, reported, compiled, rfl, -, hcompile, hstep⟩
      · rw [hstep] at h
        exact hlater (hreport _ _ h)
      · rw [hstep] at h
        -- the declaration was there before the last call, or is what that call brought
        rcases hdeclare _ source compiled hsettings (hreport _ _ h) with hcalls | ⟨hq, hnew⟩
        · exact hlater hcalls
        · rw [hsettings] at hcompile
          rw [moduleFor_congr hsettings] at hnew
          exact ⟨calls, t, source, compiled,
            ⟨⟨[], rfl⟩, congrArg Prod.snd hcompile, hnew⟩, hq⟩

theorem exists_declares_of_mem_constants {calls : List Call} {n : String}
    {c : ConstantDeclaration}
    (h : c ∈ (((start settings).performAll calls).bundle.moduleOf n).constants) :
    ∃ before t source compiled, Declares settings calls before t source compiled ∧
      (start settings).moduleFor source.moduleName = n ∧ c = constantOf source compiled := by
  refine exists_declares (P := fun s => c ∈ (s.bundle.moduleOf n).constants) (List.not_mem_nil)
    (fun _ _ h => h) (fun s source compiled hsettings hc => ?_) h
  cases hlayout : s.settings.layout with
  | combined =>
      rw [s.moduleOf_declare_of_combined _ source compiled hlayout] at hc
      split at hc <;> exact .inl hc
  | separate =>
      rw [s.moduleOf_declare_of_separate _ source compiled hlayout] at hc
      split at hc
      · rename_i hn
        rcases mem_addNew hc with hold | ⟨rfl, hname⟩
        · exact .inl hold
        · refine .inr ⟨⟨?_, rfl⟩, ?_⟩
          · rw [hn]
            exact moduleFor_congr (s := start settings) hsettings.symm _
          · rw [constantNames, hlayout, ← hn]
            exact hname
      · exact .inl hc

theorem exists_declares_of_mem_combined {calls : List Call} {e : CombinedEntry}
    (h : e ∈ ((start settings).performAll calls).combined) :
    ∃ before t source compiled, Declares settings calls before t source compiled ∧
      e = entryOf source compiled := by
  refine exists_declares (P := fun s => e ∈ s.combined) List.not_mem_nil
    (fun _ _ h => h) (fun s source compiled _ he => ?_) h
  cases hlayout : s.settings.layout with
  | separate =>
      rw [s.declare_of_separate _ source compiled hlayout] at he
      exact .inl he
  | combined =>
      rw [s.declare_of_combined _ source compiled hlayout] at he
      rcases mem_addNew he with hold | ⟨rfl, hname⟩
      · exact .inl hold
      · refine .inr ⟨rfl, ?_⟩
        rw [constantNames, hlayout]
        exact hname

/-! ### What a declaring call leaves -/

section

variable {calls before : List Call} {t : FileTree} {source : Source} {compiled : Compiled}

/-- The call that declares a constant goes through, and what it reports ends with the names that
were taken. -/
theorem Declares.perform_eq (h : Declares settings calls before t source compiled) :
    let s := (start settings).performAll before
    let module := (start settings).moduleFor source.moduleName
    ∃ report reported, s.perform (.transform t source) =
        (s.declare module source compiled).1.addReport report ∧
      (s.transform t source).reported = reported ++ s.duplicates module source := by
  intro s module
  have hsettings : s.settings = settings := (start settings).performAll_settings before
  have hmodule : s.moduleFor source.moduleName = module := moduleFor_congr hsettings _
  have hcompile : compileSource s.settings t source =
      ((compileSource settings t source).1, .ok compiled) := by
    rw [hsettings, ← h.compiles]
  have hstep := s.transform_of_ok hcompile
  rw [hmodule] at hstep
  refine ⟨_, (compileSource settings t source).1, congrArg Step.session hstep, ?_⟩
  rw [hstep, declare_reported]

theorem Declares.extends (h : Declares settings calls before t source compiled) :
    let s := (start settings).performAll before
    let module := (start settings).moduleFor source.moduleName
    (s.declare module source compiled).1.Extends ((start settings).performAll calls) := by
  intro s module
  obtain ⟨after, rfl⟩ := h.call
  obtain ⟨report, -, hperform, -⟩ := h.perform_eq
  rw [performAll_append]
  change Extends _ ((s.perform (.transform t source)).performAll after)
  rw [hperform]
  have hafter := ((s.declare module source compiled).1.addReport report).performAll_extends after
  exact ⟨hafter.bundle, hafter.combined⟩

theorem Declares.module_mem (h : Declares settings calls before t source compiled) :
    (start settings).moduleFor source.moduleName ∈
      ((start settings).performAll calls).bundle.names := by
  refine h.extends.bundle.names.subset ?_
  rw [names_declare]
  simpa using key_mem_addNew id ((start settings).performAll before).bundle.names
    ((start settings).moduleFor source.moduleName)

/-- The constant is there at the end. -/
theorem Declares.constant_mem (h : Declares settings calls before t source compiled) :
    match settings.layout with
    | .separate => constantOf source compiled ∈ (((start settings).performAll calls).bundle.moduleOf
        ((start settings).moduleFor source.moduleName)).constants
    | .combined => entryOf source compiled ∈ ((start settings).performAll calls).combined := by
  have hextends := h.extends
  have hnew := h.new
  have hsettings := (start settings).performAll_settings before
  have hsame : ((start settings).performAll before).settings.layout = settings.layout :=
    congrArg Settings.layout hsettings
  unfold constantNames at hnew
  rw [hsame] at hnew
  cases hlayout : settings.layout with
  | separate =>
      rw [hlayout] at hnew hsame
      refine (hextends.bundle.modules _).constants.subset ?_
      rw [moduleOf_declare_of_separate _ _ source compiled hsame, if_pos rfl]
      change _ ∈ addNew ConstantDeclaration.name _ (constantOf source compiled)
      rw [addNew_of_not_mem hnew]
      simp
  | combined =>
      rw [hlayout] at hnew hsame
      refine hextends.combined.subset ?_
      rw [declare_of_combined _ _ source compiled hsame]
      change _ ∈ addNew CombinedEntry.key _ (entryOf source compiled)
      rw [addNew_of_not_mem hnew]
      simp

/-- The module has an interface of the name that the constant is typed by: the one of the same
source, or else one that was there before, and this was reported. -/
theorem Declares.interface_mem (h : Declares settings calls before t source compiled) :
    let s := (start settings).performAll before
    let module := (start settings).moduleFor source.moduleName
    ∃ d ∈ (((start settings).performAll calls).bundle.moduleOf module).interfaces,
      d.name = source.interfaceName ∧
        (d.members = compiled.members ∨
          .duplicateDeclaration module source.interfaceName ∈
            (s.transform t source).reported) := by
  intro s module
  obtain ⟨-, reported, -, hreported⟩ := h.perform_eq
  have hstays := (h.extends.bundle.modules module).interfaces.subset
  rw [interfaces_declare, if_pos rfl] at hstays
  by_cases hname : source.interfaceName ∈ s.interfaceNames module
  · obtain ⟨d, hd, hdname⟩ := List.mem_map.mp hname
    refine ⟨d, hstays ((prefix_addNew _ _).subset hd), hdname, .inr ?_⟩
    rw [hreported, duplicates, if_pos hname]
    exact List.mem_append_right _ (List.mem_append_left _ (List.mem_singleton_self _))
  · refine ⟨interfaceOf source compiled, hstays ?_, rfl, .inl rfl⟩
    rw [addNew_of_not_mem hname]
    simp

end

/-! ### The end of the combined layout -/

/-- No constant is declared before the end, and there is one module as soon as there is an entry. -/
structure Pending (s : Session) : Prop where
  names : s.bundle.names = if s.combined.isEmpty then [] else [s.settings.moduleName]
  constants : ∀ n, (s.bundle.moduleOf n).constants = []
  keys : (s.combined.map CombinedEntry.key).Nodup

theorem pending_performAll (h : settings.layout = .combined) (calls : List Call) :
    ((start settings).performAll calls).Pending := by
  have hpending : ((start settings).performAll calls).settings.layout = .combined ∧
      ((start settings).performAll calls).Pending := by
    refine performAll_induction (P := fun s => s.settings.layout = .combined ∧ s.Pending)
      (start settings) ⟨h, rfl, fun _ => rfl, List.nodup_nil⟩
      (fun _ _ h => ⟨h.1, h.2.names, h.2.constants, h.2.keys⟩) (fun s source compiled h => ?_) calls
    obtain ⟨hlayout, hs⟩ := h
    have hmodule : s.moduleFor source.moduleName = s.settings.moduleName := by
      rw [moduleFor, hlayout]
    refine ⟨(congrArg Settings.layout (s.declare_settings ..)).trans hlayout, ?_, fun n => ?_, ?_⟩
    · -- the first entry brings the module with it, and every later one finds it there
      have hsome : (addNew CombinedEntry.key s.combined (entryOf source compiled)).isEmpty =
          false := List.isEmpty_eq_false_iff.mpr (addNew_ne_nil _ _)
      rw [names_declare, s.declare_settings, hmodule, hs.names, s.declare_of_combined _ _ _ hlayout]
      dsimp only
      rw [hsome]
      cases s.combined.isEmpty <;> simp [addNew]
    · rw [s.moduleOf_declare_of_combined _ _ _ hlayout]
      split
      · exact hs.constants n
      · exact hs.constants n
    · rw [s.declare_of_combined _ _ _ hlayout]
      exact nodup_addNew hs.keys _
  exact hpending.2

/-- A source that compiles leaves an entry. -/
theorem combined_ne_nil (h : settings.layout = .combined) {calls : List Call}
    (hcalls : ∃ c ∈ calls, (start settings).rejects c = false) :
    ((start settings).performAll calls).combined ≠ [] := by
  obtain ⟨c, hc, haccepts⟩ := hcalls
  obtain ⟨before, after, rfl⟩ := List.append_of_mem hc
  have hsettings := (start settings).performAll_settings before
  have hlayout := (congrArg Settings.layout hsettings).trans h
  rw [performAll_append]
  have hextends := (((start settings).performAll before).perform c).performAll_extends after
  intro hnil
  have hempty := hextends.combined
  change _ <+: (((start settings).performAll before).performAll (c :: after)).combined at hempty
  rw [hnil, List.prefix_nil] at hempty
  rcases ((start settings).performAll before).perform_cases c with
    ⟨hfails, -⟩ | ⟨_, source, _, compiled, -, -, -, hstep⟩
  · rw [rejects_congr hsettings, haccepts] at hfails
    cases hfails
  · rw [hstep, declare_of_combined _ _ _ _ hlayout] at hempty
    exact addNew_ne_nil _ _ hempty

theorem freeInterfaceName_not_mem (m : Module) (base : String) :
    freeInterfaceName m base ∉ m.interfaces.map InterfaceDeclaration.name := by
  unfold freeInterfaceName
  split
  · rename_i hbase
    dsimp only
    split
    · rename_i n hn
      have hfree := List.find?_some hn
      rw [Bool.not_eq_true', Bool.eq_false_iff] at hfree
      exact fun hmem => hfree (m.hasInterface_iff.mpr hmem)
    · rename_i hnone
      obtain ⟨n, hn, hfree⟩ := exists_append_number_not_mem (m.hasInterface_iff.mp hbase)
      rw [List.length_map] at hn
      have htaken := List.find?_eq_none.mp hnone n hn
      rw [Bool.not_eq_true', Bool.not_eq_false] at htaken
      exact absurd (m.hasInterface_iff.mp htaken) hfree
  · rename_i hbase
    exact fun hmem => hbase (m.hasInterface_iff.mpr hmem)

/-- The combined layout ends with one interface and one constant more, behind all others of the
module. -/
theorem finalBundle_of_combined {s : Session} (h : s.settings.layout = .combined)
    (hs : s.Pending) (hsome : s.combined ≠ []) :
    let settings := s.settings
    let m := s.bundle.moduleOf settings.moduleName
    let top := freeInterfaceName m
      (settings.interfaceName?.getD (Naming.interfaceName settings.moduleName))
    s.bundle.modules = [m] ∧ s.finalBundle.modules = [{ m with
      interfaces := m.interfaces ++ [⟨top, s.combined.map (combinedMember settings)⟩]
      constants := [⟨settings.constantName?.getD (Naming.constantName settings.moduleName), top,
        .keyed (s.combined.map fun e => (e.key, e.value))⟩] }] := by
  intro settings m top
  have hnames : s.bundle.names = [settings.moduleName] := by
    rw [hs.names, if_neg (by simpa using hsome)]
  have hmodules : s.bundle.modules = [m] := by
    rw [s.bundle.modules_eq_map (by rw [hnames]; exact List.nodup_singleton _), hnames]
    rfl
  refine ⟨hmodules, ?_⟩
  have hname : m.name = settings.moduleName := s.bundle.name_moduleOf _
  have hadd : (s.finalBundle).modules = [(m.declareInterface
      ⟨top, s.combined.map (combinedMember settings)⟩).declareConstant
      ⟨settings.constantName?.getD (Naming.constantName settings.moduleName), top,
        .keyed (s.combined.map fun e => (e.key, e.value))⟩] := by
    have hcombined : (s.settings.layout == .combined && !s.combined.isEmpty) = true := by
      simp [h, hsome]
    rw [finalBundle, if_pos hcombined, declareCombined]
    simp only [Bundle.update, hmodules, Bundle.update.go]
    rw [if_pos (by simpa using hname)]
  rw [hadd, Module.declareInterface_eq, Module.declareConstant_eq,
    addNew_of_not_mem (freeInterfaceName_not_mem m _), hs.constants]
  rfl

/-- Declarations refer to each other within their module. A constant, declared or waiting, comes
from one call: of a source that compiles and has no earlier constant of that name. It is there to
stay, it is typed by the interface of its source, as a list exactly when it is a list of rows, and
the module has that interface, with the members of that source unless the call reported that the
name was taken. In the combined layout the end adds an interface of a free name over the distinct
keys of the entries, and a constant of that type over the same keys. -/
theorem constants_refer_to_interfaces (settings : Settings) (calls : List Call) :
    let initial := start settings
    let final := initial.performAll calls
    (final.bundle.names.Nodup ∧ ∀ n, (final.interfaceNames n).Nodup) ∧
    (∀ m ∈ final.bundle.modules, ∀ c ∈ m.constants, ∃ before t source compiled,
      Declares settings calls before t source compiled ∧
        initial.moduleFor source.moduleName = m.name ∧ c = constantOf source compiled) ∧
    (∀ e ∈ final.combined, ∃ before t source compiled,
      Declares settings calls before t source compiled ∧ e = entryOf source compiled) ∧
    (∀ before t source compiled, Declares settings calls before t source compiled →
      let module := initial.moduleFor source.moduleName
      ∃ m ∈ final.bundle.modules, m.name = module ∧
        (match settings.layout with
          | .separate => constantOf source compiled ∈ m.constants
          | .combined => entryOf source compiled ∈ final.combined) ∧
        ((∃ literals, compiled.value = .rows literals ∧
            typeNameOf source compiled = source.interfaceName ++ "[]") ∨
          ∃ literal, compiled.value = .one literal ∧
            typeNameOf source compiled = source.interfaceName) ∧
        ∃ d ∈ m.interfaces, d.name = source.interfaceName ∧
          (d.members = compiled.members ∨
            .duplicateDeclaration module source.interfaceName ∈
              ((initial.performAll before).transform t source).reported)) ∧
    (settings.layout = .combined → (∃ c ∈ calls, initial.rejects c = false) →
      ∃ m top, final.bundle.modules = [m] ∧ m.name = settings.moduleName ∧
        top ∉ m.interfaces.map InterfaceDeclaration.name ∧
        (final.combined.map CombinedEntry.key).Nodup ∧
        final.finalBundle.modules = [{ m with
          interfaces := m.interfaces ++ [⟨top, final.combined.map fun e =>
            (if settings.declarations.readonly then "readonly " else "") ++ e.key ++ ": " ++
              e.typeName ++ "; // " ++ e.origin⟩]
          constants := [⟨settings.constantName?.getD (Naming.constantName settings.moduleName), top,
            .keyed (final.combined.map fun e => (e.key, e.value))⟩] }]) := by
  intro initial final
  have hnodup : final.bundle.names.Nodup := nodup_names_performAll settings calls
  have hmodules := final.bundle.modules_eq_map hnodup
  refine ⟨⟨hnodup, nodup_interfaceNames_performAll settings calls⟩, ?_,
    fun e he => exists_declares_of_mem_combined he, ?_, ?_⟩
  · intro m hm c hc
    rw [hmodules] at hm
    obtain ⟨n, -, rfl⟩ := List.mem_map.mp hm
    rw [final.bundle.name_moduleOf]
    exact exists_declares_of_mem_constants hc
  · intro before t source compiled hdeclares module
    refine ⟨final.bundle.moduleOf module, ?_, final.bundle.name_moduleOf module,
      hdeclares.constant_mem, ?_, hdeclares.interface_mem⟩
    · rw [hmodules]
      exact List.mem_map_of_mem hdeclares.module_mem
    · exact typeNameOf_compileSource (Prod.ext rfl hdeclares.compiles)
  · intro hlayout haccepts
    have hsettings : final.settings = settings := initial.performAll_settings calls
    have hpending := pending_performAll hlayout calls
    obtain ⟨hone, hfinal⟩ := finalBundle_of_combined ((congrArg Settings.layout hsettings).trans
      hlayout) hpending (combined_ne_nil hlayout haccepts)
    rw [hsettings] at hone hfinal
    exact ⟨_, _, hone, final.bundle.name_moduleOf _, freeInterfaceName_not_mem _ _,
      hpending.keys, hfinal⟩

/-- Two sources under one interface name: the second constant is typed by the interface of the
first, which is reported, and the whole gets a name of its own. -/
theorem constants_refer_to_interfaces_shared_name :
    let t : FileTree := { entries := [], workingDirectory := [] }
    let named (identity constant field : String) : Source :=
      { input := .rows identity .structured [[(field, .bool true)]]
        interfaceName? := some "Row"
        constantName? := some constant }
    let first := named "a.json" "a" "x"
    let second := named "b.json" "b" "y"
    let settings : Settings := { layout := .combined, interfaceName? := some "Row" }
    let calls := [Call.transform t first, .transform t second]
    let compiled : Compiled :=
      { members := ["readonly y: boolean; // y"]
        value := .one "\x7b y: true \x7d"
        isList := false
        rows := 1
        stats := { rowsSampled := 1, fieldsDiscovered := 1 } }
    Declares settings calls [.transform t first] t second compiled ∧
      (∃ m ∈ ((start settings).performAll calls).bundle.modules, m.name = "content" ∧
        ∃ d ∈ m.interfaces, d.name = "Row" ∧ (d.members = compiled.members ∨
          .duplicateDeclaration "content" "Row" ∈
            (((start settings).performAll [.transform t first]).transform t second).reported)) ∧
      ∃ m top, ((start settings).performAll calls).bundle.modules = [m] ∧
        top ∉ m.interfaces.map InterfaceDeclaration.name := by
  intro t named first second settings calls compiled
  have hdeclares : Declares settings calls [.transform t first] t second compiled :=
    ⟨⟨[], rfl⟩, by cbv, by decide⟩
  obtain ⟨-, -, -, hsource, hend⟩ := constants_refer_to_interfaces settings calls
  obtain ⟨m, hm, hname, -, -, hinterface⟩ := hsource _ t second compiled hdeclares
  obtain ⟨m', top, hone, -, htop, -, -⟩ := hend rfl ⟨_, List.mem_cons_self, rfl⟩
  exact ⟨hdeclares, ⟨m, hm, hname, hinterface⟩, m', top, hone, htop⟩

end Session

end RowTypings
