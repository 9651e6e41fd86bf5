import RowTypings.Proofs.Sink.Directory
import RowTypings.Proofs.TypeScript.Bundle

/-!
Bundles emitted into a directory. Below a base without symbolic links an artifact is the file along
the names of its name, so that two names meet when they differ in slashes and single points only.
The modules of a bundle are offered one after the other, and the last one to come stays.
-/

namespace RowTypings.Sink

open FileTree (names start mostLinks)
open TypeScript

/-! ### One artifact -/

/-- The base leads to `b`, and no symbolic link stands there or below. -/
structure Home (t : FileTree) (base : String) (b : Location) : Prop where
  leads : t.Leads base b
  unlinked : ∀ l text, b <+: l → t.lookup l ≠ some (.link text)

/-- The names that lead from the base to an artifact. -/
def wayOf (name : String) : List String := Path.steps (withoutLeadingSlashes name)

section

variable {t t' : FileTree} {base : String} {b : Location}

theorem Home.grows (h : Home t base b) (hgrows : t.Grows t') : Home t' base b where
  leads := h.leads.grows hgrows
  unlinked l text hl hentry := h.unlinked l text hl ((hgrows.link l text).mp hentry)

/-- Persisting below a base without links makes directories, and if it succeeds, it writes the file
along the names of the artifact. -/
theorem Home.persist (h : Home t base b) (name text : String) (mode : EmitMode) :
    let after := (directory base).persist t name text mode
    t.Grows after.1 ∧
    (∀ l content, t.lookup l = some (.file content) →
      after.1.lookup l = some (.file content) ∨ after.2 = .ok () ∧ l = b ++ wayOf name) ∧
    (after.2 = .ok () →
      after.1.locate (Path.join base (withoutLeadingSlashes name)) = .ok (b ++ wayOf name) ∧
      ∃ old, after.1.lookup (b ++ wayOf name) = some (.file (editFor mode text old))) := by
  rcases persist_cases t base name text mode with ⟨e, -, hpersist⟩ | ⟨_, hpath, hpersist⟩
  · rw [hpersist]
    dsimp only
    exact ⟨.refl t, fun l content hl => .inl hl, nofun⟩
  obtain ⟨rfl, -, hup, -⟩ := artifactPath_eq_ok hpath
  have hgains := withDirectories_gains t (Path.join base (withoutLeadingSlashes name))
  generalize withDirectories t (Path.join base (withoutLeadingSlashes name)) = made
    at hpersist hgains
  have hgrows := hgains.grows
  have hkept : ∀ l content, t.lookup l = some (.file content) →
      made.lookup l = some (.file content) := by
    intro l content hl
    rcases hgains.lookup l with hsame | ⟨hnone, -⟩
    · rw [hsame, hl]
    · rw [hnone] at hl
      cases hl
  rcases hpersist with ⟨e, -, hpersist⟩ | ⟨t', hwrite, hpersist⟩
  · rw [hpersist]
    dsimp only
    exact ⟨hgrows, fun l content hl => .inl (hkept l content hl), nofun⟩
  obtain ⟨hgrows', n, -, target, old, hreach, hlocate, hfile, hother⟩ :=
    FileTree.writeFile_spec hwrite
  have habs := isAbsolute_withoutLeadingSlashes name
  obtain ⟨k, -, hbase⟩ := FileTree.leads_iff.mp (h.grows hgrows).leads
  rw [Path.start_join base habs, Path.names_join base habs] at hreach
  obtain ⟨j, -, hbelow⟩ := hreach.after hbase
  have htarget : target.location = b ++ wayOf name := by
    refine hbelow.location_eq hup ?_
    rintro ⟨part, link, -, -, hentry⟩
    exact (h.grows hgrows).unlinked _ link (List.prefix_append b part) hentry
  rw [htarget] at hlocate hfile hother
  rw [hpersist]
  dsimp only
  refine ⟨hgrows.trans hgrows', fun l content hl => ?_, fun _ => ⟨hlocate, old, hfile⟩⟩
  by_cases hwritten : l = b ++ wayOf name
  · exact .inr ⟨rfl, hwritten⟩
  · exact .inl ((hother l hwritten).trans (hkept l content hl))

end

/-! ### One module after the other -/

/-- The emission with one more answer. -/
def recorded (e : Emission) (name : String) : Except StorageError Unit → Emission
  | .ok () => { e with persisted := e.persisted ++ [name] }
  | .error cause => { e with failures := e.failures ++ [(name, cause)] }

section

variable {σ : Type} (sink : Sink σ) (mode : EmitMode) (indent : String)

/-- A module is offered once, and whatever the answer, it is recorded. -/
theorem emitModule_eq (state : σ × Emission) (m : Module) :
    emitModule sink mode indent state m =
      let out := sink.persist state.1 m.artifactName (m.write indent) mode
      (out.1, recorded state.2 m.artifactName out.2) := by
  unfold emitModule
  dsimp only
  split <;> rename_i hpersist <;> rw [hpersist] <;> rfl

theorem emitModule_state (state : σ × Emission) (m : Module) :
    (emitModule sink mode indent state m).1 =
      (sink.persist state.1 m.artifactName (m.write indent) mode).1 := by
  rw [emitModule_eq]

theorem mem_persisted_emitModule {state : σ × Emission} {m : Module} {name : String} :
    name ∈ (emitModule sink mode indent state m).2.persisted ↔ name ∈ state.2.persisted ∨
      name = m.artifactName ∧
        (sink.persist state.1 m.artifactName (m.write indent) mode).2 = .ok () := by
  rw [emitModule_eq]
  dsimp only
  cases (sink.persist state.1 m.artifactName (m.write indent) mode).2 with
  | ok u => simp [recorded]
  | error cause => simp [recorded]

theorem mem_persisted_foldl {state : σ × Emission} {name : String} (ms : List Module) :
    name ∈ state.2.persisted →
      name ∈ (ms.foldl (emitModule sink mode indent) state).2.persisted := by
  induction ms generalizing state with
  | nil => exact id
  | cons m ms ih => exact fun h => ih ((mem_persisted_emitModule sink mode indent).mpr (.inl h))

theorem of_mem_persisted_foldl {state : σ × Emission} {name : String} {ms : List Module}
    (h : name ∈ (ms.foldl (emitModule sink mode indent) state).2.persisted) :
    name ∈ state.2.persisted ∨ name ∈ ms.map Module.artifactName := by
  induction ms generalizing state with
  | nil => exact .inl h
  | cons m ms ih =>
      rcases ih h with h | h
      · rcases (mem_persisted_emitModule sink mode indent).mp h with h | ⟨rfl, -⟩
        · exact .inl h
        · exact .inr (by simp)
      · exact .inr (List.mem_cons_of_mem _ h)

theorem artifactName_injective {m m' : Module} (h : m.artifactName = m'.artifactName) :
    m.name = m'.name :=
  (String.append_left_inj ".ts").mp h

theorem emit_of_split {bundle : Bundle} {before later : List Module} {m : Module}
    (hsplit : bundle.modules = before ++ m :: later) (s : σ) :
    bundle.emit sink mode s = later.foldl (emitModule sink mode bundle.indent)
      (emitModule sink mode bundle.indent
        (before.foldl (emitModule sink mode bundle.indent) (s, {})) m) := by
  rw [Bundle.emit, hsplit, List.foldl_append, List.foldl_cons]

/-- A name that is listed as persisted was persisted for its own module. -/
theorem persist_ok_of_mem_persisted {bundle : Bundle} (hnames : bundle.names.Nodup)
    {before later : List Module} {m : Module} (hsplit : bundle.modules = before ++ m :: later)
    {s : σ} (hmem : m.artifactName ∈ (bundle.emit sink mode s).2.persisted) :
    let state := before.foldl (emitModule sink mode bundle.indent) (s, {})
    (sink.persist state.1 m.artifactName (m.write bundle.indent) mode).2 = .ok () := by
  have hother : ∀ ms : List Module, m.name ∉ ms.map Module.name →
      m.artifactName ∉ ms.map Module.artifactName := by
    intro ms hnot hin
    obtain ⟨m', hm', heq⟩ := List.mem_map.mp hin
    exact hnot (List.mem_map.mpr ⟨m', hm', artifactName_injective heq⟩)
  rw [Bundle.names, hsplit, List.map_append, List.map_cons] at hnames
  obtain ⟨-, hlater, hdisjoint⟩ := List.nodup_append.mp hnames
  have hbefore : m.name ∉ before.map Module.name :=
    fun hin => hdisjoint m.name hin m.name List.mem_cons_self rfl
  rw [emit_of_split sink mode hsplit] at hmem
  -- it was listed before the module, for the module, or behind it, where its name is another's
  rcases of_mem_persisted_foldl _ _ _ hmem with hmem | hin
  · rcases (mem_persisted_emitModule _ _ _).mp hmem with hmem | ⟨-, hok⟩
    · rcases of_mem_persisted_foldl _ _ _ hmem with hnone | hin
      · cases hnone
      · exact absurd hin (hother before hbefore)
    · exact hok
  · exact absurd hin (hother later (List.nodup_cons.mp hlater).1)

end

section

variable {t : FileTree} {base : String} {b : Location}

/-- A file stays as it is while modules are emitted, unless one of them is persisted there. -/
theorem Home.foldl_emitModule (state : FileTree × Emission) (h : Home state.1 base b)
    (mode : EmitMode) (indent : String) (ms : List Module) :
    let after := ms.foldl (emitModule (directory base) mode indent) state
    state.1.Grows after.1 ∧ ∀ l content, state.1.lookup l = some (.file content) →
      (∀ m ∈ ms, m.artifactName ∈ after.2.persisted → b ++ wayOf m.artifactName ≠ l) →
      after.1.lookup l = some (.file content) := by
  induction ms generalizing state with
  | nil => exact ⟨.refl state.1, fun l content hl _ => hl⟩
  | cons m ms ih =>
      obtain ⟨hgrows, hkept, -⟩ := h.persist m.artifactName (m.write indent) mode
      have hpersisted : _ → m.artifactName ∈
          (emitModule (directory base) mode indent state m).2.persisted :=
        fun hok => (mem_persisted_emitModule (directory base) mode indent).mpr (.inr ⟨rfl, hok⟩)
      rw [← emitModule_state (directory base) mode indent state m] at hgrows hkept
      rw [List.foldl_cons]
      -- what the module did is known, and how it did it no longer matters
      generalize emitModule (directory base) mode indent state m = next at hgrows hkept hpersisted
      obtain ⟨hgrows', hlater⟩ := ih next (h.grows hgrows)
      refine ⟨hgrows.trans hgrows', fun l content hl hfar => ?_⟩
      refine hlater l content ?_ fun m' hm' => hfar m' (List.mem_cons_of_mem m hm')
      rcases hkept l content hl with hsame | ⟨hok, hwritten⟩
      · exact hsame
      · have hlisted := mem_persisted_foldl (directory base) mode indent ms (hpersisted hok)
        exact absurd hwritten.symm (hfar m List.mem_cons_self hlisted)

/-- The file of a persisted module, and what the modules behind it leave of it. -/
theorem Home.emit (h : Home t base b) {bundle : Bundle} (hnames : bundle.names.Nodup)
    {before later : List Module} {m : Module} (hsplit : bundle.modules = before ++ m :: later) :
    let after := bundle.emit (directory base) .replace t
    m.artifactName ∈ after.2.persisted →
      after.1.locate (Path.join base (withoutLeadingSlashes m.artifactName)) =
          .ok (b ++ wayOf m.artifactName) ∧
        ((∀ m' ∈ later, m'.artifactName ∈ after.2.persisted →
            wayOf m'.artifactName ≠ wayOf m.artifactName) →
          after.1.lookup (b ++ wayOf m.artifactName) =
            some (.file (m.write bundle.indent).toUTF8)) := by
  intro after hmem
  have hok := persist_ok_of_mem_persisted (directory base) .replace hnames hsplit hmem
  have hafter : after = _ := emit_of_split (directory base) .replace hsplit t
  dsimp only at hok
  have hbefore := h.grows (Home.foldl_emitModule (t, {}) h .replace bundle.indent before).1
  generalize before.foldl (emitModule (directory base) .replace bundle.indent) (t, {}) =
    state at hok hafter hbefore
  obtain ⟨hgrows, -, hwritten⟩ := hbefore.persist m.artifactName (m.write bundle.indent) .replace
  obtain ⟨hlocate, old, hfile⟩ := hwritten hok
  rw [← emitModule_state (directory base) .replace bundle.indent state m] at hgrows hlocate hfile
  dsimp only [editFor] at hfile
  generalize emitModule (directory base) .replace bundle.indent state m = next
    at hafter hgrows hlocate hfile
  obtain ⟨hgrows', hlater⟩ :=
    Home.foldl_emitModule next (hbefore.grows hgrows) .replace bundle.indent later
  rw [hafter]
  refine ⟨FileTree.locate_file_grows hlocate hfile hgrows', fun hlast => ?_⟩
  refine hlater _ _ hfile fun m' hm' hmem' heq => ?_
  exact hlast m' hm' hmem' (List.append_cancel_left heq)

/-- Every artifact that is listed as persisted is a file along the names of its name, and holds the
text of its module, unless a later artifact was persisted along the same names. -/
theorem persisted_artifacts_hold_last_text {bundle : Bundle} {t : FileTree} {base : String}
    {b : Location} (hnames : bundle.names.Nodup) (hbase : t.locate base = .ok b)
    (hlinks : ∀ l text, b <+: l → t.lookup l ≠ some (.link text)) :
    let path := fun m : Module => Path.join base (withoutLeadingSlashes m.artifactName)
    let way := fun m : Module => Path.steps (withoutLeadingSlashes m.artifactName)
    let after := bundle.emit (directory base) .replace t
    (∀ m ∈ bundle.modules, m.artifactName ∈ after.2.persisted →
      after.1.locate (path m) = .ok (b ++ way m)) ∧
    (∀ m ∈ bundle.modules, ∀ m' ∈ bundle.modules, m.artifactName ∈ after.2.persisted →
      m'.artifactName ∈ after.2.persisted →
      (after.1.locate (path m) = after.1.locate (path m') ↔ way m = way m')) ∧
    (∀ before m later, bundle.modules = before ++ m :: later →
      m.artifactName ∈ after.2.persisted →
      (∀ m' ∈ later, m'.artifactName ∈ after.2.persisted → way m' ≠ way m) →
      after.1.readText (path m) = .ok (m.write bundle.indent)) := by
  intro path way after
  have hhome : Home t base b := ⟨(FileTree.locate_eq_ok hbase).2.1, hlinks⟩
  have hlocated : ∀ m ∈ bundle.modules, m.artifactName ∈ after.2.persisted →
      after.1.locate (path m) = .ok (b ++ way m) := by
    intro m hm hmem
    obtain ⟨before, later, hsplit⟩ := List.append_of_mem hm
    exact (hhome.emit hnames hsplit hmem).1
  refine ⟨hlocated, fun m hm m' hm' hmem hmem' => ?_, ?_⟩
  · rw [hlocated m hm hmem, hlocated m' hm' hmem']
    exact ⟨fun heq => List.append_cancel_left (Except.ok.inj heq), fun heq => by rw [heq]⟩
  · intro before m later hsplit hmem hlast
    obtain ⟨hlocate, hfile⟩ := hhome.emit hnames hsplit hmem
    exact FileTree.readText_of_file hlocate (hfile hlast)

end

/-- Of three artifacts along two ways, the one in the middle keeps its file. -/
theorem persisted_artifacts_hold_last_text_of_three :
    let t : FileTree := { entries := [(["out"], .directory)], workingDirectory := [] }
    let first : Module := { name := "a", origins := ["one.csv"] }
    let second : Module := { name := "b", origins := ["two.csv"] }
    let third : Module := { name := "./a", origins := ["three.csv"] }
    let bundle : Bundle := { modules := [first, second, third] }
    let after := bundle.emit (directory "out") .replace t
    after.2.persisted = ["a.ts", "b.ts", "./a.ts"] ∧
      after.1.locate "out/./a.ts" = after.1.locate "out/a.ts" ∧
      after.1.readText "out/b.ts" = .ok (second.write "  ") := by
  intro t first second third bundle after
  have hunlinked : ∀ l text, ["out"] <+: l → t.lookup l ≠ some (.link text) := by
    intro l text _ hentry
    unfold FileTree.lookup at hentry
    split at hentry
    · cases hentry
    · rw [List.lookup_cons] at hentry
      split at hentry <;> cases hentry
  have hpersisted : after.2.persisted = ["a.ts", "b.ts", "./a.ts"] := by decide +kernel
  have hafter : bundle.emit (directory "out") .replace t = after := rfl
  have hall := persisted_artifacts_hold_last_text (by decide : bundle.names.Nodup)
    (by decide +kernel : t.locate "out" = .ok ["out"]) hunlinked
  dsimp only at hall
  rw [hafter] at hall
  -- the tree has been looked at enough, and is not to be unfolded again
  clear_value after
  obtain ⟨-, hsame, hlast⟩ := hall
  have hfirst : Path.join "out" (withoutLeadingSlashes first.artifactName) = "out/a.ts" := by
    decide +kernel
  have hsecond : Path.join "out" (withoutLeadingSlashes second.artifactName) = "out/b.ts" := by
    decide +kernel
  have hthird : Path.join "out" (withoutLeadingSlashes third.artifactName) = "out/./a.ts" := by
    decide +kernel
  have hlisted : ∀ m ∈ bundle.modules, m.artifactName ∈ after.2.persisted := by
    rw [hpersisted]
    decide
  have hmeet := (hsame third (by simp [bundle]) first (by simp [bundle])
    (hlisted third (by simp [bundle])) (hlisted first (by simp [bundle]))).mpr (by decide +kernel)
  have htext := hlast [first] second [third] rfl (hlisted second (by simp [bundle]))
    fun m hm _ => by
      obtain rfl := List.mem_singleton.mp hm
      decide +kernel
  rw [hthird, hfirst] at hmeet
  rw [hsecond] at htext
  exact ⟨hpersisted, hmeet, htext⟩

/-- Two modules of distinct names are both persisted, and the first is gone. -/
theorem persisted_artifact_lost_to_other_name :
    let t : FileTree := { entries := [(["out"], .directory)], workingDirectory := [] }
    let first : Module := { name := "a", origins := ["one.csv"] }
    let second : Module := { name := "/a", origins := ["two.csv"] }
    let bundle : Bundle := { modules := [first, second] }
    let after := bundle.emit (directory "out") .replace t
    bundle.names.Nodup ∧ t.locate "out" = .ok ["out"] ∧
      after.2.persisted = [first.artifactName, second.artifactName] ∧
      (artifactPath after.1 "out" first.artifactName).toOption = some "out/a.ts" ∧
      (artifactPath after.1 "out" second.artifactName).toOption = some "out/a.ts" ∧
      after.1.readText "out/a.ts" ≠ .ok (first.write bundle.indent) := by
  intro t first second bundle after
  exact ⟨by decide, by decide +kernel, by decide +kernel, by decide +kernel, by decide +kernel,
    by decide +kernel⟩

end RowTypings.Sink
