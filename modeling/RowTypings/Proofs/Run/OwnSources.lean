import RowTypings.Proofs.Run.Layouts
import RowTypings.Proofs.Sink.Accounts

/-!
What a module depends on. In the separate layout the sources of other modules leave no trace in a
module: it is the same when they are left out, and when they come in between in another order.
-/

namespace RowTypings

open TypeScript

theorem compiledSources_filter (settings : Settings) (t : FileTree) (sources : List Source)
    (keep : Source → Bool) :
    compiledSources settings t (sources.filter keep) =
      (compiledSources settings t sources).filter fun e => keep e.1 := by
  induction sources with
  | nil => rfl
  | cons source rest ih =>
      rcases hcompile : compileSource settings t source with ⟨reported, e | compiled⟩
      · rw [compiledSources_cons_of_error hcompile, ← ih, List.filter_cons]
        split
        · exact compiledSources_cons_of_error hcompile _
        · rfl
      · rw [compiledSources_cons_of_ok hcompile, List.filter_cons, List.filter_cons, ← ih]
        split
        · exact compiledSources_cons_of_ok hcompile _
        · rfl

namespace Session

variable {settings : Settings} (h : settings.layout = .separate) (t : FileTree)
  (sources : List Source)

include h

theorem names_finalBundle_of_separate :
    ((start settings).attemptAll t sources).1.finalBundle.names =
      ((compiledSources settings t sources).map fun e => e.1.moduleName).eraseDups := by
  rw [finalBundle_of_separate h, Bundle.names_foldl_update, ← foldl_addNew_id]
  · rfl
  · exact fun _ _ => rfl

theorem nodup_names_of_separate :
    ((start settings).attemptAll t sources).1.finalBundle.names.Nodup := by
  rw [names_finalBundle_of_separate h]
  exact nodup_eraseDups _

/-- With the sources of one module alone, that module is all there is. -/
theorem modules_own_of_separate (name : String) :
    ((start settings).attemptAll t (sources.filter (·.moduleName == name))).1.finalBundle.modules =
      ((start settings).attemptAll t sources).1.finalBundle.modules.filter (·.name == name) := by
  have hname : ∀ (e : Source × Compiled) (m : Module),
      ((withConstant e.1 e.2 ∘ withInterface e.1 e.2) m).name = m.name := fun _ _ => rfl
  rw [finalBundle_of_separate h, finalBundle_of_separate h, compiledSources_filter]
  exact Bundle.modules_foldl_update_filter hname _ _ (· == name)

/-- A shelf that was empty holds the text of every module in the end. -/
theorem finalize_memory_of_separate :
    (((start settings).attemptAll t sources).1.finalize Sink.memory []).state =
      ((start settings).attemptAll t sources).1.finalBundle.modules.map fun m =>
        (m.artifactName, m.write settings.declarations.indent) := by
  have hindent : ((start settings).attemptAll t sources).1.finalBundle.indent =
      settings.declarations.indent := by
    rw [finalBundle_of_separate h]
    exact Bundle.indent_foldl_update _ _
  rw [← hindent]
  exact Sink.emit_memory (nodup_names_of_separate h t sources) _

end Session

/-- A module depends on its own sources. In the separate layout a run over the sources of one module
alone has that module as the run over all sources has it, and no other, and leaves the same text of
it; the modules come in the order in which their names first come among the sources that compile.
So another order of the sources, as long as it is the same within each module, gives the same
modules with the same texts. -/
theorem Session.module_depends_on_own_sources (settings : Settings) (t : FileTree)
    (sources : List Source) :
    let separate : Settings := { settings with layout := .separate }
    let bundle := fun sources => ((start separate).attemptAll t sources).1.finalBundle
    let shelf := fun sources =>
      (((start separate).attemptAll t sources).1.finalize Sink.memory []).state
    (∀ name,
      let own := sources.filter (·.moduleName == name)
      (bundle own).modules = ((bundle sources).module? name).toList ∧
      shelf own = (shelf sources).filter (·.1 == name ++ ".ts")) ∧
    (bundle sources).names =
      ((compiledSources separate t sources).map fun e => e.1.moduleName).eraseDups ∧
    ∀ other : List Source,
      (∀ name, other.filter (·.moduleName == name) = sources.filter (·.moduleName == name)) →
      (∀ name, (bundle other).module? name = (bundle sources).module? name) ∧
      (shelf other).Perm (shelf sources) := by
  intro separate bundle shelf
  have hlayout : separate.layout = .separate := rfl
  have hnodup : ∀ sources, (bundle sources).names.Nodup :=
    fun sources => nodup_names_of_separate hlayout t sources
  have hshelf : ∀ sources, shelf sources = (bundle sources).modules.map fun m =>
      (m.artifactName, m.write separate.declarations.indent) :=
    fun sources => finalize_memory_of_separate hlayout t sources
  have hown : ∀ sources name, (bundle (sources.filter (·.moduleName == name))).modules =
      ((bundle sources).module? name).toList := by
    intro sources name
    rw [← (bundle sources).filter_modules_eq (hnodup sources)]
    exact modules_own_of_separate hlayout t sources name
  refine ⟨fun name => ⟨hown sources name, ?_⟩, names_finalBundle_of_separate hlayout t sources,
    fun other hother => ?_⟩
  · have hartifact : (fun artifact : String × String => artifact.1 == name ++ ".ts") ∘
        (fun m : Module => (m.artifactName, m.write separate.declarations.indent)) =
        fun m => m.name == name := by
      funext m
      simp [Module.artifactName]
    rw [hshelf, hshelf, List.filter_map, hartifact, hown,
      (bundle sources).filter_modules_eq (hnodup sources)]
  · have hsame : ∀ name, (bundle other).module? name = (bundle sources).module? name := by
      intro name
      have hlists : ((bundle other).module? name).toList =
          ((bundle sources).module? name).toList := by
        rw [← hown other, ← hown sources, hother name]
      simpa using congrArg List.head? hlists
    refine ⟨hsame, ?_⟩
    rw [hshelf, hshelf]
    exact (Bundle.modules_perm (hnodup other) (hnodup sources) hsame).map _

/-- Two sources of one module, with one of another module between them or before them. -/
theorem Session.module_depends_on_own_sources_of_two :
    let t : FileTree := { entries := [], workingDirectory := [] }
    let source := fun name module : String =>
      ({ input := .rows name .structured [[("x", .bool true)]]
         moduleName? := some module
         interfaceName? := some name
         constantName? := some (name ++ "Rows") } : Source)
    let separate : Settings := { ({} : Settings) with layout := .separate }
    let bundle := fun sources => ((start separate).attemptAll t sources).1.finalBundle
    let between := [source "A" "m", source "B" "n", source "C" "m"]
    let before := [source "B" "n", source "A" "m", source "C" "m"]
    (bundle between).names = ["m", "n"] ∧
      (bundle [source "A" "m", source "C" "m"]).modules = ((bundle between).module? "m").toList ∧
      (bundle before).module? "m" = (bundle between).module? "m" := by
  intro t source separate bundle between before
  obtain ⟨hown, hnames, hother⟩ := module_depends_on_own_sources {} t between
  have horder : ∀ name, before.filter (·.moduleName == name) =
      between.filter (·.moduleName == name) := by
    intro name
    by_cases hn : "n" = name
    · subst hn
      rfl
    · have hfar : ((source "B" "n").moduleName == name) = false := beq_false_of_ne hn
      simp only [before, between, List.filter_cons, hfar, Bool.false_eq_true, if_false]
  exact ⟨hnames.trans (by cbv), (hown "m").1, (hother before horder).1 "m"⟩

end RowTypings
