import RowTypings.Proofs.Files.Growth
import RowTypings.Sink.Directory

/-!
What the sink over a base directory touches. An artifact name without steps up stays below the base
as long as no symbolic link stands on its way; the sink looks at the directory of the artifact
before it writes, if that is there.
-/

namespace RowTypings.Sink

open FileTree (names start mostLinks)

/-! ### Names of artifacts -/

theorem isAbsolute_withoutLeadingSlashes (name : String) :
    Path.isAbsolute (withoutLeadingSlashes name) = false := by
  unfold Path.isAbsolute withoutLeadingSlashes
  rw [String.toList_ofList]
  split <;> rename_i hchars
  · have hfirst := List.head?_dropWhile_not (· == '/') name.toList
    rw [hchars] at hfirst
    simpa using hfirst
  · rfl

theorem up_not_mem_names {p : String} (hplain : (Path.components p).all isPlain = true) :
    ".." ∉ names p := by
  intro hmem
  have hsegment : ".." ∈ Path.segments p := (List.mem_filter.mp hmem).1
  have hmapped : ∀ segs : List String, ".." ∈ segs →
      .up ∈ (segs.filter fun s => !Path.isVoid s).map Path.componentOf :=
    fun segs h => List.mem_map.mpr ⟨"..", List.mem_filter.mpr ⟨h, rfl⟩, rfl⟩
  have hcomponent : .up ∈ Path.components p := by
    unfold Path.components
    split
    · exact List.mem_cons_of_mem _ (hmapped _ hsegment)
    · split
      · rename_i rest hsegments
        rw [hsegments] at hsegment
        rcases List.mem_cons.mp hsegment with heq | hrest
        · exact absurd heq (by decide)
        · exact List.mem_cons_of_mem _ (hmapped rest hrest)
      · exact hmapped _ hsegment
  cases List.all_eq_true.mp hplain _ hcomponent

/-- An accepted name stands for a path below the base that does not step up, and the directory of
that path is not outside. -/
theorem artifactPath_eq_ok {t : FileTree} {base name path : String}
    (h : artifactPath t base name = .ok path) :
    path = Path.join base (withoutLeadingSlashes name) ∧
      names (withoutLeadingSlashes name) ≠ [] ∧ ".." ∉ names (withoutLeadingSlashes name) ∧
      ∀ p, Path.parent? path = some p → leadsOut t base p = false := by
  unfold artifactPath at h
  dsimp only at h
  split at h
  · cases h
  rename_i hempty
  split at h
  · cases h
  rename_i hplain
  split at h
  · cases h
  rename_i hinside
  obtain rfl := Except.ok.inj h
  refine ⟨rfl, Path.names_ne_nil (isAbsolute_withoutLeadingSlashes name) fun heq => ?_,
    up_not_mem_names ?_, fun p hp => ?_⟩
  · exact hempty (beq_iff_eq.mpr heq)
  · simpa using hplain
  · rw [hp] at hinside
    simpa using hinside

theorem isPermission_of_artifactPath {t : FileTree} {base name : String} {e : StorageError}
    (h : artifactPath t base name = .error e) : e.isPermission = true := by
  unfold artifactPath at h
  dsimp only at h
  split at h
  · exact Except.error.inj h ▸ rfl
  split at h
  · exact Except.error.inj h ▸ rfl
  split at h
  · exact Except.error.inj h ▸ rfl
  · cases h

/-- The tree in which the directories of a path are made. -/
def withDirectories (t : FileTree) (path : String) : FileTree :=
  (Path.parent? path).elim t fun p => (t.makeDirectories p).1

theorem withDirectories_gains (t : FileTree) (path : String) :
    t.GainsDirectories (withDirectories t path) := by
  unfold withDirectories
  cases Path.parent? path with
  | none => exact ⟨rfl, fun _ => .inl rfl⟩
  | some p => exact FileTree.makeDirectories_gains p

/-- Writing makes directories, and then fails or writes the file as well. -/
theorem writeArtifact_cases (t : FileTree) (name path text : String) (mode : EmitMode) :
    (∃ e, e.isPermission = false ∧
      writeArtifact t name path text mode = (withDirectories t path, .error e)) ∨
    ∃ t', (withDirectories t path).writeFile path (editFor mode text) = .ok t' ∧
      writeArtifact t name path text mode = (t', .ok ()) := by
  unfold writeArtifact withDirectories
  cases hparent : Path.parent? path with
  | none =>
      dsimp only [Option.elim]
      cases hwrite : t.writeFile path (editFor mode text) with
      | ok t' => exact .inr ⟨t', rfl, rfl⟩
      | error cause => exact .inl ⟨_, rfl, rfl⟩
  | some parent =>
      dsimp only [Option.elim]
      rcases hmake : t.makeDirectories parent with ⟨made, _ | cause⟩
      · cases hwrite : made.writeFile path (editFor mode text) with
        | ok t' => exact .inr ⟨t', rfl, by simp [hwrite]⟩
        | error cause => exact .inl ⟨.notOpened name cause, rfl, by simp [hwrite]⟩
      · exact .inl ⟨_, rfl, rfl⟩

theorem persist_of_artifactPath {t : FileTree} {base name path : String}
    (h : artifactPath t base name = .ok path) (text : String) (mode : EmitMode) :
    (directory base).persist t name text mode = writeArtifact t name path text mode := by
  simp only [directory, h]

/-- All that persisting can do: refuse the name and leave the tree, or make directories, and then
fail or write the file as well. -/
theorem persist_cases (t : FileTree) (base name text : String) (mode : EmitMode) :
    (∃ e, e.isPermission = true ∧ (directory base).persist t name text mode = (t, .error e)) ∨
    ∃ path, artifactPath t base name = .ok path ∧
      ((∃ e, e.isPermission = false ∧
          (directory base).persist t name text mode = (withDirectories t path, .error e)) ∨
        ∃ t', (withDirectories t path).writeFile path (editFor mode text) = .ok t' ∧
          (directory base).persist t name text mode = (t', .ok ())) := by
  cases hpath : artifactPath t base name with
  | error e => exact .inl ⟨e, isPermission_of_artifactPath hpath, by simp only [directory, hpath]⟩
  | ok path =>
      rw [persist_of_artifactPath hpath]
      exact .inr ⟨path, rfl, writeArtifact_cases t name path text mode⟩

/-! ### Where artifacts go -/

section

variable {t t' t'' : FileTree} {base rel : String}

/-- First names of a path below the base lead to where the base does, or below that place, if there
is no link on the way. -/
theorem below_or_linked {n : Nat} {l : Location} {ns : List String} {target : FileTree.Target}
    (h : t.Reaches n l ns target) (hfront : ns <+: names base ++ names rel)
    (hup : ".." ∉ names rel) :
    ns <+: names base ∨ ∃ b, (∃ k ≤ n, t.Reaches k l (names base) (.present b)) ∧
      (b <+: target.location ∨ t.LinkOn b (Path.steps rel)) := by
  rcases List.prefix_or_prefix_of_prefix hfront (List.prefix_append _ _) with hbase | ⟨below, rfl⟩
  · exact .inl hbase
  rcases below with _ | ⟨name, below⟩
  · exact .inl (by simp)
  have hbelow := (List.prefix_append_right_inj _).mp hfront
  obtain ⟨b, hb, k, -, hreach⟩ := h.split (List.cons_ne_nil name below)
  refine .inr ⟨b, hb, ?_⟩
  by_cases hlink : t.LinkOn b (Path.steps rel)
  · exact .inr hlink
  · rw [hreach.location_eq (fun hmem => hup (hbelow.subset hmem))
      fun hlinkBelow => hlink (hlinkBelow.of_prefix (hbelow.filter _))]
    exact .inl (List.prefix_append _ _)

/-- Why a location may have changed: a directory was missing on the way to the base, or the location
is below where the base leads now, or a link stood on the way of the artifact. -/
def Accounted (t t' : FileTree) (base rel : String) (l : Location) : Prop :=
  ((∀ b, ¬t.Leads base b) ∧ t.lookup l = none ∧ t'.lookup l = some .directory ∧
    ∃ ns, ns <+: names base ∧
      t'.follow true mostLinks (start t.workingDirectory base) ns = .ok (.present l)) ∨
  ∃ b, t'.Leads base b ∧ (b <+: l ∨ t.LinkOn b (Path.steps rel))

theorem Accounted.grows {l : Location} (h : Accounted t t' base rel l) (hgrows : t'.Grows t'') :
    Accounted t t'' base rel l := by
  rcases h with ⟨hbase, hnone, hdirectory, ns, hns, hfollow⟩ | ⟨b, hbase, hbelow⟩
  · obtain ⟨n, hn, hreach⟩ := FileTree.Reaches.of_follow hfollow (.inl rfl)
    exact .inl ⟨hbase, hnone, hgrows.directory l hdirectory, ns, hns,
      (hreach.present_grows hgrows).follow hn⟩
  · exact .inr ⟨b, hbase.grows hgrows, hbelow⟩

/-- Where the base leads, it is accounted for by the base. -/
theorem Accounted.of_leads {b l : Location} (h : Accounted t t' base rel l) (hb : t.Leads base b)
    (hgrows : t.Grows t') : b <+: l ∨ t.LinkOn b (Path.steps rel) := by
  rcases h with ⟨hbase, -⟩ | ⟨b', hbase, hbelow⟩
  · exact absurd hb (hbase b)
  · obtain rfl := FileTree.Target.present.inj (Except.ok.inj (hbase.symm.trans (hb.grows hgrows)))
    exact hbelow

theorem makeDirectories_accounted {parent : String} (hup : ".." ∉ names rel)
    (habs : Path.isAbsolute parent = Path.isAbsolute base)
    (hnames : names parent <+: names base ++ names rel) {l : Location}
    (hl : (t.makeDirectories parent).1.lookup l ≠ t.lookup l) :
    Accounted t (t.makeDirectories parent).1 base rel l := by
  refine (FileTree.makeDirectories_induction
    (P := fun t' => t.Grows t' ∧ ∀ l, t'.lookup l ≠ t.lookup l → Accounted t t' base rel l)
    ⟨.refl t, fun l hl => absurd rfl hl⟩ fun t' n ns d name hinv hn hns hreach => ?_).2 l hl
  obtain ⟨hgrows, hinv⟩ := hinv
  have hput := FileTree.Grows.put_directory hreach.lookup_free
  have hroot : d ++ [name] ≠ [] := by simp
  refine ⟨hgrows.trans hput, fun l hl => ?_⟩
  by_cases hmade : l = d ++ [name]
  · subst hmade
    have hstart : start t'.workingDirectory parent = start t.workingDirectory base := by
      rw [start, habs, hgrows.workingDirectory, start]
    rw [hstart] at hreach
    rcases below_or_linked hreach (hns.trans hnames) hup with hbase | ⟨b, ⟨k, hk, hb⟩, hbelow⟩
    · -- if the base had led somewhere, no name on the way to it would be free
      have hmissing : ∀ b, ¬t.Leads base b := by
        intro b hb
        obtain ⟨k, -, hb⟩ := FileTree.leads_iff.mp (hb.grows hgrows)
        rw [hgrows.workingDirectory] at hb
        exact hb.not_free_of_prefix hbase hreach
      refine .inl ⟨hmissing, hgrows.lookup_eq_none hreach.lookup_free, ?_, ns, hbase,
        (hreach.grows hput ?_).follow hn⟩
      · rw [FileTree.lookup_put hroot, if_pos rfl]
      · rintro _ _ ⟨⟩
        rw [FileTree.lookup_put hroot, if_pos rfl]
        exact Option.some_ne_none _
    · refine .inr ⟨b, FileTree.leads_iff.mpr ⟨k, Nat.le_trans hk hn, ?_⟩,
        hbelow.imp_right (·.of_grows hgrows)⟩
      rw [FileTree.put_workingDirectory, hgrows.workingDirectory]
      exact hb.present_grows hput
  · rw [FileTree.lookup_put hroot, if_neg hmade] at hl
    exact (hinv l hl).grows hput

end

theorem persist_accounted (t : FileTree) (base name text : String) (mode : EmitMode) :
    let rel := withoutLeadingSlashes name
    let after := (directory base).persist t name text mode
    t.Grows after.1 ∧ ∀ l, after.1.lookup l ≠ t.lookup l → Accounted t after.1 base rel l := by
  intro rel
  rcases persist_cases t base name text mode with ⟨e, -, h⟩ | ⟨path, hpath, hpersist⟩
  · rw [h]
    exact ⟨.refl t, fun l hl => absurd rfl hl⟩
  obtain ⟨rfl, hsome, hup, -⟩ := artifactPath_eq_ok hpath
  have habs := isAbsolute_withoutLeadingSlashes name
  have hnames := Path.names_join base habs
  generalize hwith : withDirectories t (Path.join base rel) = made at hpersist
  have hmade : ∀ l, made.lookup l ≠ t.lookup l → Accounted t made base rel l := by
    intro l hl
    cases hparent : Path.parent? (Path.join base rel) with
    | none => simp [← hwith, withDirectories, hparent] at hl
    | some p =>
        have hp : made = (t.makeDirectories p).1 := by simp [← hwith, withDirectories, hparent]
        obtain ⟨hstart, cut, hcut, -⟩ := Path.names_of_parent? hparent
        rw [hp] at hl ⊢
        refine makeDirectories_accounted hup (hstart.trans (Path.isAbsolute_join base habs)) ?_ hl
        rw [← hnames, hcut]
        exact List.prefix_append _ _
  have hgrows : t.Grows made := hwith ▸ (withDirectories_gains t _).grows
  rcases hpersist with ⟨e, -, h⟩ | ⟨t', hwrite, h⟩
  · rw [h]
    exact ⟨hgrows, hmade⟩
  obtain ⟨hgrows', n, hn, target, old, hreach, -, -, hother⟩ := FileTree.writeFile_spec hwrite
  rw [h]
  refine ⟨hgrows.trans hgrows', fun l hl => ?_⟩
  by_cases hwritten : l = target.location
  · rw [Path.start_join base habs, hnames] at hreach
    rcases below_or_linked hreach List.prefix_rfl hup with hbase | ⟨b, ⟨k, hk, hb⟩, hbelow⟩
    · -- the names of the artifact come after those of the base
      have hlength := hbase.length_le
      rw [List.length_append] at hlength
      exact absurd (List.eq_nil_of_length_eq_zero (by omega)) hsome
    · have hlead : made.Leads base b := FileTree.leads_iff.mpr ⟨k, Nat.le_trans hk hn, hb⟩
      refine .inr ⟨b, hlead.grows hgrows', ?_⟩
      rw [hwritten]
      exact hbelow.imp_right (·.of_grows hgrows)
  · have hchanged : made.lookup l ≠ t.lookup l := by
      rw [← hother l hwritten]
      exact hl
    exact (hmade l hchanged).grows hgrows'

/-- Where the directory of an artifact is there, it is inside the base, and what is written is in
it, unless the last name is that of a link. -/
theorem persist_inside_existing_directory {t : FileTree} {base name text parent last : String}
    {mode : EmitMode} {b d : Location} (hbase : t.locate base = .ok b)
    (hparent : Path.parent? (Path.join base (withoutLeadingSlashes name)) = some parent)
    (hd : t.locate parent = .ok d)
    (hlast : (Path.steps (withoutLeadingSlashes name)).getLast? = some last)
    (hlink : ∀ target, t.lookup (d ++ [last]) ≠ some (.link target)) {l : Location}
    (hl : ((directory base).persist t name text mode).1.lookup l ≠ t.lookup l) : b <+: l := by
  rcases persist_cases t base name text mode with ⟨e, -, h⟩ | ⟨path, hpath, hpersist⟩
  · rw [h] at hl
    exact absurd rfl hl
  obtain ⟨rfl, hsome, hup, hleads⟩ := artifactPath_eq_ok hpath
  have habs := isAbsolute_withoutLeadingSlashes name
  have hlead := (FileTree.locate_eq_ok hd).2.1
  have hwith : withDirectories t (Path.join base (withoutLeadingSlashes name)) = t := by
    rw [withDirectories, hparent]
    exact FileTree.makeDirectories_of_leads hlead
  rw [hwith] at hpersist
  -- this is what was checked before anything was written
  have hinside : b <+: d := by
    have hout := hleads parent hparent
    unfold leadsOut at hout
    rw [hd, hbase] at hout
    simpa using hout
  rcases hpersist with ⟨e, -, h⟩ | ⟨t', hwrite, h⟩
  · rw [h] at hl
    exact absurd rfl hl
  obtain ⟨-, n, -, target, old, hreach, -, -, hother⟩ := FileTree.writeFile_spec hwrite
  rw [h] at hl
  have hl : l = target.location := by
    by_contra hne
    exact hl (hother l hne)
  obtain ⟨hstart, cut, hcut, -, hcount⟩ := Path.names_of_parent? hparent
  obtain ⟨k, -, hdirectory⟩ := FileTree.leads_iff.mp hlead
  rw [hcut, start, ← hstart, ← start] at hreach
  obtain ⟨j, -, hend⟩ := hreach.after hdirectory
  -- what is left behind the names of the directory is the last name of the artifact, or nothing
  have hrest : cut.filter (· != ".") = [] ∨ cut.filter (· != ".") = [last] := by
    rcases hnames : cut.filter (· != ".") with _ | ⟨x, _ | ⟨_, _⟩⟩
    · exact .inl rfl
    · have hsteps := Path.steps_join base habs
      rw [Path.steps, hcut, List.filter_append, hnames] at hsteps
      have hlasts := congrArg List.getLast? hsteps
      rw [List.getLast?_append, List.getLast?_append, hlast] at hlasts
      exact .inr (congrArg (fun x => [x]) (Option.some.inj hlasts))
    · rw [hnames] at hcount
      simp at hcount
  have hcutUp : ".." ∉ cut := by
    intro hmem
    have hlastUp : last = ".." := by
      have hstep : ".." ∈ cut.filter (· != ".") := List.mem_filter.mpr ⟨hmem, rfl⟩
      rcases hrest with hrest | hrest
      · rw [hrest] at hstep
        cases hstep
      · rw [hrest] at hstep
        exact (List.mem_singleton.mp hstep).symm
    refine hup (List.mem_of_mem_filter (p := (· != ".")) ?_)
    rw [← hlastUp]
    exact List.mem_of_getLast? hlast
  have hunlinked : ¬t.LinkOn d (cut.filter (· != ".")) := by
    rintro ⟨part, text, hpart, hfront, hentry⟩
    rcases hrest with hrest | hrest
    · rw [hrest, List.prefix_nil] at hfront
      exact hpart hfront
    · rw [hrest] at hfront
      rcases part with _ | ⟨first, rest⟩
      · exact hpart rfl
      · obtain ⟨rfl, hnil⟩ := List.cons_prefix_cons.mp hfront
        rw [List.prefix_nil.mp hnil] at hentry
        exact hlink text hentry
  rw [hl, hend.location_eq hcutUp hunlinked]
  exact hinside.trans (List.prefix_append _ _)

/-- The sink stays below its base directory, but for symbolic links on the way of an artifact. A
name that is refused changes nothing. Whatever else changes is below the place that the base leads
to, or was missing on the way to the base, or a link stands on the way that the names of the
artifact lead along from there; and no link but one under the last name matters if the directory of
the artifact is there. -/
theorem persist_stays_below_base (t : FileTree) (base name text : String) (mode : EmitMode) :
    let rel := withoutLeadingSlashes name
    let after := (directory base).persist t name text mode
    (∀ e, after.2 = .error e → e.isPermission = true → after.1 = t) ∧
    (∀ l, after.1.lookup l ≠ t.lookup l → Accounted t after.1 base rel l) ∧
    (∀ b, t.locate base = .ok b → ∀ l, after.1.lookup l ≠ t.lookup l →
      b <+: l ∨ t.LinkOn b (Path.steps rel)) ∧
    (∀ b parent d last, t.locate base = .ok b →
      Path.parent? (Path.join base rel) = some parent → t.locate parent = .ok d →
      (Path.steps rel).getLast? = some last →
      (∀ target, t.lookup (d ++ [last]) ≠ some (.link target)) →
      ∀ l, after.1.lookup l ≠ t.lookup l → b <+: l) := by
  intro rel after
  obtain ⟨hgrows, haccounted⟩ := persist_accounted t base name text mode
  refine ⟨fun e he hpermission => ?_, haccounted, fun b hb l hl => ?_,
    fun b parent d last hb hparent hd hlast hlink l hl => ?_⟩
  · dsimp only [after] at he ⊢
    rcases persist_cases t base name text mode with ⟨_, -, h⟩ | ⟨_, -, ⟨e', he', h⟩ | ⟨_, -, h⟩⟩
    · rw [h]
    · rw [h] at he
      obtain rfl := Except.error.inj he
      rw [hpermission] at he'
      cases he'
    · rw [h] at he
      cases he
  · exact (haccounted l hl).of_leads (FileTree.locate_eq_ok hb).2.1 hgrows
  · exact persist_inside_existing_directory hb hparent hd hlast hlink hl

/-- A directory that is not there yet is made behind a link, outside the base, and written to. -/
theorem persist_stays_below_base_but_through_link :
    let t : FileTree :=
      { entries := [(["out"], .directory), (["else"], .directory),
          (["out", "link"], .link "../else")]
        workingDirectory := [] }
    let after := (directory "out").persist t "link/sub/a.ts" "x" .replace
    t.locate "out" = .ok ["out"] ∧ after.2.isOk = true ∧
      (t.lookup ["else", "sub", "a.ts"]).isSome = false ∧
      (after.1.lookup ["else", "sub", "a.ts"]).isSome = true ∧
      t.LinkOn ["out"] ["link", "sub", "a.ts"] := by
  intro t after
  have hbase : t.locate "out" = .ok ["out"] := by decide +kernel
  have hbefore : (t.lookup ["else", "sub", "a.ts"]).isSome = false := by decide +kernel
  have hafter : (after.1.lookup ["else", "sub", "a.ts"]).isSome = true := by decide +kernel
  have hway : Path.steps (withoutLeadingSlashes "link/sub/a.ts") = ["link", "sub", "a.ts"] := by
    decide +kernel
  have hchanged : after.1.lookup ["else", "sub", "a.ts"] ≠ t.lookup ["else", "sub", "a.ts"] := by
    intro heq
    rw [heq, hbefore] at hafter
    cases hafter
  obtain ⟨-, -, hbelow, -⟩ := persist_stays_below_base t "out" "link/sub/a.ts" "x" .replace
  rcases hbelow ["out"] hbase _ hchanged with hinside | hlink
  · exact absurd hinside (by decide)
  · rw [hway] at hlink
    exact ⟨hbase, by decide +kernel, hbefore, hafter, hlink⟩

end RowTypings.Sink
