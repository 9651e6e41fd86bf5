import RowTypings.Proofs.Run.Declarations

/-!
The two layouts side by side. A run declares one interface and one constant for each source that
compiles, whatever the layout; the layout decides where they stand. Both are described by the same
list of compiled sources: split by module names in one layout, gathered under one interface and one
constant in the other.
-/

namespace RowTypings

open TypeScript

/-! ### Sources that compile -/

/-- The sources that compile, in order, each with what it compiles to. -/
def compiledSources (settings : Settings) (t : FileTree) (sources : List Source) :
    List (Source × Compiled) :=
  sources.filterMap fun source =>
    match (compileSource settings t source).2 with
    | .ok compiled => some (source, compiled)
    | .error _ => none

/-- All that is reported about one source, names that are taken apart. -/
def sourceDiagnostics (settings : Settings) (t : FileTree) (source : Source) : List Diagnostic :=
  match compileSource settings t source with
  | (reported, .ok _) => reported
  | (reported, .error e) => reported ++ [.sourceFailed source.identity e.message]

/-- The report of one source that is declared in that module. -/
def sourceReport (settings : Settings) (t : FileTree) (source : Source) (module : String) :
    SourceReport :=
  match compileSource settings t source with
  | (reported, .ok compiled) => Session.successReport source module compiled reported
  | (_, .error e) => Session.failureReport source.identity module e.message

/-- A report is the same for every module, but that it names the module. -/
theorem sourceReport_module (settings : Settings) (t : FileTree) (source : Source)
    (module other : String) :
    { sourceReport settings t source module with module := other } =
      sourceReport settings t source other := by
  unfold sourceReport
  rcases compileSource settings t source with ⟨reported, e | compiled⟩ <;> rfl

section

variable {settings : Settings} {t : FileTree} {source : Source}

theorem compiledSources_cons_of_ok {reported : List Diagnostic} {compiled : Compiled}
    (h : compileSource settings t source = (reported, .ok compiled)) (rest : List Source) :
    compiledSources settings t (source :: rest) =
      (source, compiled) :: compiledSources settings t rest :=
  List.filterMap_cons_some (by rw [h])

theorem compiledSources_cons_of_error {reported : List Diagnostic} {e : SourceError}
    (h : compileSource settings t source = (reported, .error e)) (rest : List Source) :
    compiledSources settings t (source :: rest) = compiledSources settings t rest :=
  List.filterMap_cons_none (by rw [h])

end

namespace Session

/-! ### A list of sources, one by one -/

section

variable (s : Session) {t : FileTree} {source : Source}

theorem attempt_of_ok {reported : List Diagnostic} {compiled : Compiled}
    (h : compileSource s.settings t source = (reported, .ok compiled)) :
    let module := s.moduleFor source.moduleName
    s.attempt t source =
      ((s.declare module source compiled).1.addReport
          (successReport source module compiled reported),
        reported ++ s.duplicates module source) := by
  intro module
  rw [attempt, s.transform_of_ok h, s.declare_reported]

theorem attempt_of_error {reported : List Diagnostic} {e : SourceError}
    (h : compileSource s.settings t source = (reported, .error e)) :
    s.attempt t source =
      (s.addReport (failureReport source.identity (s.moduleFor source.moduleName) e.message),
        reported ++ [.sourceFailed source.identity e.message]) := by
  rw [attempt, s.transform_of_error h]

theorem attempt_session : (s.attempt t source).1 = s.perform (.transform t source) := by
  unfold attempt
  dsimp only
  split <;> rfl

theorem attemptAll_session (sources : List Source) :
    (s.attemptAll t sources).1 = s.performAll (sources.map (.transform t)) := by
  induction sources generalizing s with
  | nil => rfl
  | cons source rest ih =>
      change ((s.attempt t source).1.attemptAll t rest).1 = _
      rw [ih, attempt_session]
      rfl

theorem attemptAll_settings (sources : List Source) :
    (s.attemptAll t sources).1.settings = s.settings := by
  rw [attemptAll_session, performAll_settings]

theorem attemptAll_reports (sources : List Source) :
    (s.attemptAll t sources).1.reports = s.reports ++ sources.map fun source =>
      sourceReport s.settings t source (s.moduleFor source.moduleName) := by
  induction sources generalizing s with
  | nil => exact (List.append_nil _).symm
  | cons source rest ih =>
      have hsettings : (s.attempt t source).1.settings = s.settings := by
        rw [attempt_session, perform_settings]
      have hreport : (s.attempt t source).1.reports = s.reports ++
          [sourceReport s.settings t source (s.moduleFor source.moduleName)] := by
        rcases hcompile : compileSource s.settings t source with ⟨reported, e | compiled⟩
        · rw [s.attempt_of_error hcompile, sourceReport, hcompile]
          rfl
        · rw [s.attempt_of_ok hcompile, sourceReport, hcompile, addReport, declare_reports]
      change ((s.attempt t source).1.attemptAll t rest).1.reports = _
      rw [ih, hsettings, hreport, List.append_assoc, List.map_cons]
      simp only [moduleFor_congr hsettings]
      rfl

/-- In the separate layout every source changes the module of its name. -/
theorem attemptAll_bundle_of_separate (h : s.settings.layout = .separate) (sources : List Source) :
    (s.attemptAll t sources).1.bundle =
      (compiledSources s.settings t sources).foldl (fun b e =>
        b.update e.1.moduleName (withConstant e.1 e.2 ∘ withInterface e.1 e.2)) s.bundle := by
  induction sources generalizing s with
  | nil => rfl
  | cons source rest ih =>
      change ((s.attempt t source).1.attemptAll t rest).1.bundle = _
      rcases hcompile : compileSource s.settings t source with ⟨reported, e | compiled⟩
      · rw [compiledSources_cons_of_error hcompile, s.attempt_of_error hcompile]
        exact ih _ h
      · have hmodule : s.moduleFor source.moduleName = source.moduleName := by
          rw [moduleFor, h]
        rw [compiledSources_cons_of_ok hcompile, s.attempt_of_ok hcompile, hmodule,
          s.declare_of_separate _ source compiled h]
        exact ih _ h

/-- In the combined layout every source changes the one module, and its constant waits. -/
theorem attemptAll_of_combined (h : s.settings.layout = .combined) (sources : List Source) :
    (s.attemptAll t sources).1.bundle =
        (compiledSources s.settings t sources).foldl (fun b e =>
          b.update s.settings.moduleName (withInterface e.1 e.2)) s.bundle ∧
      (s.attemptAll t sources).1.combined =
        ((compiledSources s.settings t sources).map fun e => entryOf e.1 e.2).foldl
          (addNew CombinedEntry.key) s.combined := by
  induction sources generalizing s with
  | nil => exact ⟨rfl, rfl⟩
  | cons source rest ih =>
      change ((s.attempt t source).1.attemptAll t rest).1.bundle = _ ∧
        ((s.attempt t source).1.attemptAll t rest).1.combined = _
      rcases hcompile : compileSource s.settings t source with ⟨reported, e | compiled⟩
      · rw [compiledSources_cons_of_error hcompile, s.attempt_of_error hcompile]
        exact ih _ h
      · have hmodule : s.moduleFor source.moduleName = s.settings.moduleName := by
          rw [moduleFor, h]
        rw [compiledSources_cons_of_ok hcompile, s.attempt_of_ok hcompile, hmodule,
          s.declare_of_combined _ source compiled h]
        exact ih _ h

end

/-! ### Names that are free -/

/-- No name of the sources is taken, and none stands twice among them. -/
structure Free (s : Session) (es : List (Source × Compiled)) : Prop where
  interfaces : (es.map fun e => e.1.interfaceName).Nodup
  constants : (es.map fun e => e.1.constantName).Nodup
  interface_new : ∀ e ∈ es, ∀ n, e.1.interfaceName ∉ s.interfaceNames n
  constant_new : ∀ e ∈ es, ∀ n, e.1.constantName ∉ s.constantNames n

variable (s : Session)

theorem mem_keys_addNew {α : Type} {key : α → String} {ds : List α} {d : α} {name : String}
    (h : name ∈ (addNew key ds d).map key) : name ∈ ds.map key ∨ name = key d := by
  obtain ⟨e, he, rfl⟩ := List.mem_map.mp h
  rcases mem_addNew he with he | ⟨rfl, -⟩
  · exact .inl (List.mem_map_of_mem he)
  · exact .inr rfl

theorem mem_interfaceNames_declare {module n name : String} {source : Source} {compiled : Compiled}
    (h : name ∈ (s.declare module source compiled).1.interfaceNames n) :
    name ∈ s.interfaceNames n ∨ name = source.interfaceName := by
  rw [interfaceNames, interfaces_declare] at h
  split at h
  · exact mem_keys_addNew h
  · exact .inl h

theorem mem_constantNames_declare {module n name : String} {source : Source} {compiled : Compiled}
    (h : name ∈ (s.declare module source compiled).1.constantNames n) :
    name ∈ s.constantNames n ∨ name = source.constantName := by
  unfold constantNames at h ⊢
  rw [declare_settings] at h
  cases hlayout : s.settings.layout with
  | separate =>
      rw [hlayout] at h
      dsimp only at h ⊢
      rw [s.moduleOf_declare_of_separate _ _ _ hlayout] at h
      split at h
      · exact mem_keys_addNew h
      · exact .inl h
  | combined =>
      rw [hlayout] at h
      dsimp only at h ⊢
      rw [s.declare_of_combined _ _ _ hlayout] at h
      exact mem_keys_addNew h

theorem Free.declare {s : Session} {source : Source} {compiled : Compiled}
    {es : List (Source × Compiled)} (h : s.Free ((source, compiled) :: es)) (module : String) :
    (s.declare module source compiled).1.Free es := by
  obtain ⟨hinterface, hinterfaces⟩ := List.nodup_cons.mp h.interfaces
  obtain ⟨hconstant, hconstants⟩ := List.nodup_cons.mp h.constants
  refine ⟨hinterfaces, hconstants, fun e he n hmem => ?_, fun e he n hmem => ?_⟩
  · rcases s.mem_interfaceNames_declare hmem with hold | heq
    · exact h.interface_new e (List.mem_cons_of_mem _ he) n hold
    · exact hinterface (List.mem_map.mpr ⟨e, he, heq⟩)
  · rcases s.mem_constantNames_declare hmem with hold | heq
    · exact h.constant_new e (List.mem_cons_of_mem _ he) n hold
    · exact hconstant (List.mem_map.mpr ⟨e, he, heq⟩)

theorem Free.addReport {s : Session} {es : List (Source × Compiled)} (h : s.Free es)
    (r : SourceReport) : (s.addReport r).Free es :=
  ⟨h.interfaces, h.constants, h.interface_new, h.constant_new⟩

theorem Free.duplicates_eq_nil {s : Session} {source : Source} {compiled : Compiled}
    {es : List (Source × Compiled)} (h : s.Free ((source, compiled) :: es)) (module : String) :
    s.duplicates module source = [] := by
  rw [duplicates, if_neg (h.interface_new _ List.mem_cons_self module),
    if_neg (h.constant_new _ List.mem_cons_self module)]
  rfl

/-- Where no name is taken, all that is reported is about the sources themselves. -/
theorem attemptAll_reported {t : FileTree} {sources : List Source}
    (h : s.Free (compiledSources s.settings t sources)) :
    (s.attemptAll t sources).2 = sources.flatMap (sourceDiagnostics s.settings t) := by
  induction sources generalizing s with
  | nil => rfl
  | cons source rest ih =>
      change (s.attempt t source).2 ++ ((s.attempt t source).1.attemptAll t rest).2 = _
      rw [List.flatMap_cons, sourceDiagnostics]
      rcases hcompile : compileSource s.settings t source with ⟨reported, e | compiled⟩
      · rw [compiledSources_cons_of_error hcompile] at h
        rw [s.attempt_of_error hcompile]
        exact congrArg (_ ++ ·) (ih (s.addReport _) (Free.addReport h _))
      · rw [compiledSources_cons_of_ok hcompile] at h
        let declared := (s.declare (s.moduleFor source.moduleName) source compiled).1
        have hsettings : declared.settings = s.settings := s.declare_settings ..
        have hlater : declared.Free (compiledSources declared.settings t rest) := by
          rw [hsettings]
          exact h.declare _
        rw [s.attempt_of_ok hcompile, h.duplicates_eq_nil, List.append_nil, ← hsettings]
        exact congrArg (reported ++ ·) (ih (declared.addReport _) (hlater.addReport _))

/-! ### Both layouts -/

/-- The module that holds the interfaces and the constants of these sources and nothing else. -/
def moduleOfSources (name : String) (es : List (Source × Compiled)) : Module where
  name := name
  origins := (es.map fun e => e.1.identity).eraseDups
  interfaces := es.map fun e => interfaceOf e.1 e.2
  constants := es.map fun e => constantOf e.1 e.2

theorem foldl_withInterface (m : Module) (es : List (Source × Compiled)) :
    es.foldl (fun m e => withInterface e.1 e.2 m) m =
      { m with
        origins := (es.map fun e => e.1.identity).foldl (addNew id) m.origins
        interfaces := (es.map fun e => interfaceOf e.1 e.2).foldl
          (addNew InterfaceDeclaration.name) m.interfaces } := by
  induction es generalizing m with
  | nil => rfl
  | cons e es ih => exact ih (withInterface e.1 e.2 m)

theorem foldl_withConstant_withInterface (m : Module) (es : List (Source × Compiled)) :
    es.foldl (fun m e => withConstant e.1 e.2 (withInterface e.1 e.2 m)) m =
      { es.foldl (fun m e => withInterface e.1 e.2 m) m with
        constants := (es.map fun e => constantOf e.1 e.2).foldl
          (addNew ConstantDeclaration.name) m.constants } := by
  rw [foldl_withInterface]
  induction es generalizing m with
  | nil => rfl
  | cons e es ih => exact ih (withConstant e.1 e.2 (withInterface e.1 e.2 m))

/-- Of distinct names nothing is dropped. -/
theorem foldl_withInterface_empty (name : String) {es : List (Source × Compiled)}
    (h : (es.map fun e => e.1.interfaceName).Nodup) :
    es.foldl (fun m e => withInterface e.1 e.2 m) { name } =
      { moduleOfSources name es with constants := [] } := by
  have hnodup : (es.map fun e => interfaceOf e.1 e.2).map InterfaceDeclaration.name =
      es.map fun e => e.1.interfaceName := List.map_map
  rw [foldl_withInterface, foldl_addNew_id, foldl_addNew (by rwa [List.nil_append, hnodup])]
  rfl

theorem foldl_withConstant_empty (name : String) {es : List (Source × Compiled)}
    (hinterfaces : (es.map fun e => e.1.interfaceName).Nodup)
    (hconstants : (es.map fun e => e.1.constantName).Nodup) :
    es.foldl (fun m e => withConstant e.1 e.2 (withInterface e.1 e.2 m)) { name } =
      moduleOfSources name es := by
  have hnodup : (es.map fun e => constantOf e.1 e.2).map ConstantDeclaration.name =
      es.map fun e => e.1.constantName := List.map_map
  rw [foldl_withConstant_withInterface, foldl_withInterface_empty name hinterfaces,
    foldl_addNew (by rwa [List.nil_append, hnodup])]
  rfl

section

variable {settings : Settings} {t : FileTree} {sources : List Source}

/-- In the separate layout a run declares its sources one after the other, each in the module of its
name. -/
theorem finalBundle_of_separate (h : settings.layout = .separate) (t : FileTree)
    (sources : List Source) :
    ((start settings).attemptAll t sources).1.finalBundle =
      (compiledSources settings t sources).foldl
        (fun b e => b.update e.1.moduleName (withConstant e.1 e.2 ∘ withInterface e.1 e.2))
        ({ indent := settings.declarations.indent } : Bundle) := by
  have hsettings := (start settings).attemptAll_settings (t := t) sources
  rw [finalBundle, hsettings]
  show (if (settings.layout == .combined && _) = true then _ else _) = _
  rw [h]
  exact (start settings).attemptAll_bundle_of_separate h sources

/-- The separate layout has one module for each module name, with the sources of that name. -/
theorem finalBundle_attemptAll_of_separate (hlayout : settings.layout = .separate)
    (hinterfaces : ((compiledSources settings t sources).map fun e => e.1.interfaceName).Nodup)
    (hconstants : ((compiledSources settings t sources).map fun e => e.1.constantName).Nodup) :
    let es := compiledSources settings t sources
    ((start settings).attemptAll t sources).1.finalBundle.modules =
      (es.map fun e => e.1.moduleName).eraseDups.map fun n =>
        moduleOfSources n (es.filter fun e => e.1.moduleName == n) := by
  intro es
  rw [finalBundle_of_separate hlayout, Bundle.modules_foldl_update]
  · -- the changes that reach one module are those of its own sources, in their order
    refine List.map_congr_left fun n _ => foldl_withConstant_empty n ?_ ?_
    · exact hinterfaces.sublist (List.filter_sublist.map _)
    · exact hconstants.sublist (List.filter_sublist.map _)
  · exact fun _ _ => rfl

/-- The combined layout has one module, with one interface and one constant over all sources. -/
theorem finalBundle_attemptAll_of_combined (hlayout : settings.layout = .combined)
    (hinterfaces : ((compiledSources settings t sources).map fun e => e.1.interfaceName).Nodup)
    (hconstants : ((compiledSources settings t sources).map fun e => e.1.constantName).Nodup)
    (hsome : compiledSources settings t sources ≠ []) :
    let es := compiledSources settings t sources
    ∃ top, top ∉ es.map (fun e => e.1.interfaceName) ∧
      ((start settings).attemptAll t sources).1.finalBundle.modules =
        [{ name := settings.moduleName
           origins := (es.map fun e => e.1.identity).eraseDups
           interfaces := (es.map fun e => interfaceOf e.1 e.2) ++
             [⟨top, es.map fun e => combinedMember settings (entryOf e.1 e.2)⟩]
           constants :=
             [⟨settings.constantName?.getD (Naming.constantName settings.moduleName), top,
               .keyed (es.map fun e => (e.1.constantName, e.2.value))⟩] }] := by
  intro es
  let final := ((start settings).attemptAll t sources).1
  have hsession : final = (start settings).performAll (sources.map (.transform t)) :=
    (start settings).attemptAll_session sources
  have hsettings : final.settings = settings := (start settings).attemptAll_settings sources
  obtain ⟨hbundle, hcombined⟩ :
      final.bundle = es.foldl (fun b e =>
        b.update settings.moduleName (withInterface e.1 e.2)) (start settings).bundle ∧
      final.combined = (es.map fun e => entryOf e.1 e.2).foldl (addNew CombinedEntry.key) [] :=
    (start settings).attemptAll_of_combined hlayout sources
  have hmodule : final.bundle.moduleOf settings.moduleName =
      { moduleOfSources settings.moduleName es with constants := [] } := by
    have hall : (es.filter fun _ => settings.moduleName == settings.moduleName) = es :=
      List.filter_eq_self.mpr fun _ _ => beq_self_eq_true _
    rw [hbundle, Bundle.moduleOf_foldl_update, hall]
    · exact foldl_withInterface_empty _ hinterfaces
    · exact fun _ _ => rfl
  have hentries : final.combined = es.map fun e => entryOf e.1 e.2 := by
    have hkeys : (es.map fun e => entryOf e.1 e.2).map CombinedEntry.key =
        es.map fun e => e.1.constantName := List.map_map
    rw [hcombined, foldl_addNew (by rwa [List.nil_append, hkeys]), List.nil_append]
  have hpending : final.Pending := by
    rw [hsession]
    exact pending_performAll hlayout _
  obtain ⟨-, hfinal⟩ := finalBundle_of_combined (by rw [hsettings, hlayout]) hpending
    (by rw [hentries]; simpa using hsome)
  rw [hsettings, hmodule, hentries, List.map_map, List.map_map] at hfinal
  refine ⟨_, ?_, hfinal⟩
  -- the top interface comes last, so it is the one that gives way
  have hfree := freeInterfaceName_not_mem
    ({ moduleOfSources settings.moduleName es with constants := [] })
    (settings.interfaceName?.getD (Naming.interfaceName settings.moduleName))
  have hnames : (moduleOfSources settings.moduleName es).interfaces.map InterfaceDeclaration.name =
      es.map fun e => e.1.interfaceName := List.map_map
  rwa [hnames] at hfree

end

/-- The two layouts declare alike. If no two sources that compile share an interface name or a
constant name, both runs report the same, about the same sources. One has a module for each module
name, with an interface and a constant for each of its sources; the other has all the interfaces in
one module, and behind them one interface and one constant, with a member for each source, which is
typed and filled as the constant of that source is. -/
theorem layouts_declare_alike (settings : Settings) (t : FileTree) (sources : List Source)
    (hinterfaces : ((compiledSources settings t sources).map fun e => e.1.interfaceName).Nodup)
    (hconstants : ((compiledSources settings t sources).map fun e => e.1.constantName).Nodup) :
    let es := compiledSources settings t sources
    let separate := (start { settings with layout := .separate }).attemptAll t sources
    let combined := (start { settings with layout := .combined }).attemptAll t sources
    separate.2 = combined.2 ∧
    separate.1.reports.map (fun r => { r with module := settings.moduleName }) =
      combined.1.reports ∧
    separate.1.finalBundle.modules = (es.map fun e => e.1.moduleName).eraseDups.map (fun n =>
      let own := es.filter fun e => e.1.moduleName == n
      { name := n
        origins := (own.map fun e => e.1.identity).eraseDups
        interfaces := own.map fun e => ⟨e.1.interfaceName, e.2.members⟩
        constants := own.map fun e => ⟨e.1.constantName, typeNameOf e.1 e.2, e.2.value⟩ }) ∧
    (es = [] → combined.1.finalBundle.modules = []) ∧
    (es ≠ [] → ∃ top, top ∉ es.map (fun e => e.1.interfaceName) ∧
      combined.1.finalBundle.modules =
        [{ name := settings.moduleName
           origins := (es.map fun e => e.1.identity).eraseDups
           interfaces := (es.map fun e => ⟨e.1.interfaceName, e.2.members⟩) ++
             [⟨top, es.map fun e =>
               (if settings.declarations.readonly then "readonly " else "") ++ e.1.constantName ++
                 ": " ++ typeNameOf e.1 e.2 ++ "; // " ++ e.1.identity⟩]
           constants :=
             [⟨settings.constantName?.getD (Naming.constantName settings.moduleName), top,
               .keyed (es.map fun e => (e.1.constantName, e.2.value))⟩] }]) := by
  intro es separate combined
  -- nothing is taken at the start, whatever the layout
  have hfree : ∀ layout, (start { settings with layout }).Free es := by
    intro layout
    refine ⟨hinterfaces, hconstants, fun _ _ _ hmem => ?_, fun _ _ _ hmem => ?_⟩
    · cases hmem
    · cases layout <;> cases hmem
  refine ⟨?_, ?_, ?_, ?_, ?_⟩
  · exact (attemptAll_reported _ (hfree .separate)).trans
      (attemptAll_reported _ (hfree .combined)).symm
  · rw [attemptAll_reports, attemptAll_reports, List.map_append, List.map_map]
    exact congrArg _ (List.map_congr_left fun source _ => sourceReport_module ..)
  · exact @finalBundle_attemptAll_of_separate { settings with layout := .separate } t sources rfl
      hinterfaces hconstants
  · intro hnil
    let initial := start { settings with layout := .combined }
    obtain ⟨hbundle, hcombined⟩ := initial.attemptAll_of_combined (t := t) rfl sources
    change combined.1.bundle = es.foldl _ _ at hbundle
    change combined.1.combined = (es.map _).foldl _ _ at hcombined
    rw [hnil] at hbundle hcombined
    have hnone : combined.1.bundle.modules = [] := congrArg Bundle.modules hbundle
    have hempty : combined.1.combined = [] := hcombined
    rw [finalBundle, hempty]
    simpa using hnone
  · exact @finalBundle_attemptAll_of_combined { settings with layout := .combined } t sources rfl
      hinterfaces hconstants

/-- One row, a text without a header, and two rows: two declarations in either layout. -/
theorem layouts_declare_alike_around_failure :
    let t : FileTree := { entries := [], workingDirectory := [] }
    let first : Source :=
      { input := .rows "a" .structured [[("x", .bool true)]]
        interfaceName? := some "A"
        constantName? := some "a" }
    let failing : Source := { input := .delimited (.inline "b" "") ',' }
    let last : Source :=
      { input := .rows "c" .structured [[("y", .bool true)], [("y", .bool false)]]
        interfaceName? := some "C"
        constantName? := some "c" }
    let sources := [first, failing, last]
    let settings : Settings := { constantName? := some "all" }
    let separate := (start { settings with layout := .separate }).attemptAll t sources
    let combined := (start { settings with layout := .combined }).attemptAll t sources
    ((compiledSources settings t sources).map fun e => e.1.interfaceName) = ["A", "C"] ∧
      separate.2 = combined.2 ∧
      separate.1.finalBundle.modules.map Module.name = ["a", "c"] ∧
      ∃ top, top ∉ ["A", "C"] ∧ combined.1.finalBundle.modules.map Module.constants =
        [[⟨"all", top, .keyed [("a", .one "\x7b x: true \x7d"),
          ("c", .rows ["\x7b y: true \x7d", "\x7b y: false \x7d"])]⟩]] := by
  intro t first failing last sources settings separate combined
  have hcompiled : compiledSources settings t sources =
      [(first,
        { members := ["readonly x: boolean; // x"]
          value := .one "\x7b x: true \x7d"
          isList := false
          rows := 1
          stats := { rowsSampled := 1, fieldsDiscovered := 1 } }),
      (last,
        { members := ["readonly y: boolean; // y"]
          value := .rows ["\x7b y: true \x7d", "\x7b y: false \x7d"]
          isList := true
          rows := 2
          stats := { rowsSampled := 1, fieldsDiscovered := 1 } })] := by cbv
  obtain ⟨hreported, -, hseparate, -, hcombined⟩ := layouts_declare_alike settings t sources
    (by rw [hcompiled]; decide) (by rw [hcompiled]; decide)
  rw [hcompiled] at hseparate hcombined
  obtain ⟨top, hfree, hmodules⟩ := hcombined (List.cons_ne_nil _ _)
  exact ⟨congrArg (List.map fun e => e.1.interfaceName) hcompiled, hreported,
    congrArg (List.map Module.name) hseparate, top, hfree,
    congrArg (List.map Module.constants) hmodules⟩

end Session

end RowTypings
