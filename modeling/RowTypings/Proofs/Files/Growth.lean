import RowTypings.Proofs.Basic
import RowTypings.Proofs.Fields
import RowTypings.Proofs.Files.Resolution

/-!
File trees that grow. Operations put entries where nothing stood and change the content of files,
so whatever was there is still reached by the same names.
-/

namespace RowTypings.FileTree

variable {t t' t'' : FileTree}

/-! ### One entry -/

@[simp] theorem put_workingDirectory (l : Location) (e : FileEntry) :
    (t.put l e).workingDirectory = t.workingDirectory := rfl

theorem lookup_put {l : Location} (hroot : l ≠ []) (e : FileEntry) (m : Location) :
    (t.put l e).lookup m = if m = l then some e else t.lookup m := by
  have hgo : ∀ entries : List (Location × FileEntry),
      (put.go l e entries).lookup m = if m = l then some e else entries.lookup m := by
    intro entries
    induction entries with
    | nil => exact Fields.lookup_cons_eq (l, e) [] m
    | cons entry entries ih =>
        obtain ⟨n, f⟩ := entry
        unfold put.go
        split <;> rename_i hn
        · rw [Fields.lookup_cons_eq, Fields.lookup_cons_eq, eq_of_beq hn]
          split <;> rfl
        · rw [Fields.lookup_cons_eq, Fields.lookup_cons_eq, ih]
          split <;> rename_i hm
          · rw [if_neg fun heq => hn (beq_iff_eq.mpr (hm.symm.trans heq))]
          · rfl
  unfold lookup
  by_cases hempty : m = []
  · simp [hempty, Ne.symm hroot]
  · simp only [List.isEmpty_iff, hempty, if_false]
    exact hgo t.entries

/-- Nothing goes away, only the content of files changes, and there are no more links. -/
structure Grows (t t' : FileTree) : Prop where
  workingDirectory : t'.workingDirectory = t.workingDirectory
  directory : ∀ l, t.lookup l = some .directory → t'.lookup l = some .directory
  file : ∀ l content, t.lookup l = some (.file content) →
    ∃ content', t'.lookup l = some (.file content')
  link : ∀ l text, t'.lookup l = some (.link text) ↔ t.lookup l = some (.link text)

theorem Grows.refl (t : FileTree) : t.Grows t :=
  ⟨rfl, fun _ h => h, fun _ content h => ⟨content, h⟩, fun _ _ => Iff.rfl⟩

theorem Grows.trans (h : t.Grows t') (h' : t'.Grows t'') : t.Grows t'' where
  workingDirectory := h'.workingDirectory.trans h.workingDirectory
  directory l hl := h'.directory l (h.directory l hl)
  file l content hl :=
    have ⟨content', hl'⟩ := h.file l content hl
    h'.file l content' hl'
  link l text := (h'.link l text).trans (h.link l text)

theorem Grows.lookup_eq_none (h : t.Grows t') {l : Location} (hl : t'.lookup l = none) :
    t.lookup l = none := by
  cases hentry : t.lookup l with
  | none => rfl
  | some entry =>
      cases entry with
      | directory => rw [h.directory l hentry] at hl; cases hl
      | file content =>
          obtain ⟨_, hfile⟩ := h.file l content hentry
          rw [hfile] at hl
          cases hl
      | link text => rw [(h.link l text).mpr hentry] at hl; cases hl

theorem Grows.put_directory {l : Location} (h : t.lookup l = none) :
    t.Grows (t.put l .directory) := by
  have hroot : l ≠ [] := fun heq => by simp [heq, lookup] at h
  constructor
  · rfl
  · intro m hm
    rw [lookup_put hroot]
    split <;> first | rfl | exact hm
  · intro m content hm
    rw [lookup_put hroot, if_neg fun heq => by rw [heq, h] at hm; cases hm]
    exact ⟨content, hm⟩
  · intro m text
    rw [lookup_put hroot]
    split
    · rename_i heq
      simp [heq, h]
    · rfl

theorem Grows.put_file {l : Location} (content : ByteArray)
    (h : t.lookup l = none ∨ ∃ old, t.lookup l = some (.file old)) :
    t.Grows (t.put l (.file content)) := by
  have hroot : l ≠ [] := by
    rintro rfl
    rcases h with h | ⟨old, h⟩ <;> simp [lookup] at h
  -- nothing but a file is replaced, so directories and links stand elsewhere
  have hother : ∀ m e, t.lookup m = some e → (∀ old, e ≠ .file old) → m ≠ l := by
    rintro m e hm he rfl
    rcases h with h | ⟨old, h⟩
    · rw [h] at hm
      cases hm
    · rw [h] at hm
      exact he old (Option.some.inj hm).symm
  constructor
  · rfl
  · intro m hm
    rw [lookup_put hroot, if_neg (hother m _ hm fun _ => nofun), hm]
  · intro m old hm
    rw [lookup_put hroot]
    split
    · exact ⟨content, rfl⟩
    · exact ⟨old, hm⟩
  · intro m text
    rw [lookup_put hroot]
    constructor
    · intro hm
      split at hm
      · cases hm
      · exact hm
    · intro hm
      rw [if_neg (hother m _ hm fun _ => nofun), hm]

/-- What was reached is reached still; and a free name leads to what now stands there. -/
theorem Reaches.grows {n : Nat} {l : Location} {ns : List String} {target : Target}
    (h : t.Reaches n l ns target) (hgrows : t.Grows t')
    (htaken : ∀ d name, target = .free d name → t'.lookup (d ++ [name]) ≠ none) :
    t'.Reaches n l ns (.present target.location) := by
  induction h with
  | stay => exact .stay
  | here _ ih => exact (ih htaken).here
  | up _ ih => exact (ih htaken).up
  | enter hname hentry _ ih => exact (ih htaken).enter hname (hgrows.directory _ hentry)
  | file hname hentry =>
      obtain ⟨_, hentry'⟩ := hgrows.file _ _ hentry
      exact .file hname hentry'
  | @free l name hname hentry =>
      obtain ⟨e, he⟩ := Option.ne_none_iff_exists'.mp (htaken l name rfl)
      cases e with
      | directory => exact .enter hname he .stay
      | file content => exact .file hname he
      | link text =>
          -- a link that stands there now would have stood there before
          rw [hgrows.link, hentry] at he
          cases he
  | link hname hentry _ ih => exact (ih htaken).link hname ((hgrows.link _ _).mpr hentry)

theorem Reaches.present_grows {n : Nat} {l m : Location} {ns : List String}
    (h : t.Reaches n l ns (.present m)) (hgrows : t.Grows t') : t'.Reaches n l ns (.present m) :=
  h.grows hgrows fun _ _ heq => nomatch heq

theorem Reaches.lookup_free {n : Nat} {l d : Location} {ns : List String} {name : String}
    (h : t.Reaches n l ns (.free d name)) : t.lookup (d ++ [name]) = none := by
  generalize htarget : Target.free d name = target at h
  induction h with
  | stay | file => cases htarget
  | here _ ih | up _ ih | enter _ _ _ ih | link _ _ _ ih => exact ih htarget
  | free _ hentry =>
      cases htarget
      exact hentry

theorem LinkOn.of_grows {l : Location} {way : List String} (h : t'.LinkOn l way)
    (hgrows : t.Grows t') : t.LinkOn l way := by
  obtain ⟨part, text, hpart, hfront, hentry⟩ := h
  exact ⟨part, text, hpart, hfront, (hgrows.link _ _).mp hentry⟩

/-! ### Paths -/

/-- Texts that can be paths at all. -/
structure IsPathText (p : String) : Prop where
  no_nul : '\x00' ∉ p.toList
  ne_empty : p ≠ ""
  short : p.utf8ByteSize ≤ longestPath

theorem resolve_eq_ok_iff {last : Bool} {p : String} {target : Target} :
    t.resolve last p = .ok target ↔ IsPathText p ∧
      t.follow last mostLinks (start t.workingDirectory p) (names p) = .ok target := by
  unfold resolve
  constructor
  · intro h
    split at h
    · cases h
    rename_i hnul
    split at h
    · cases h
    rename_i hempty
    split at h
    · cases h
    rename_i hlong
    exact ⟨⟨fun hmem => hnul (List.contains_iff_mem.mpr hmem),
      fun heq => hempty (beq_iff_eq.mpr heq), Nat.not_lt.mp hlong⟩, h⟩
  · rintro ⟨hp, h⟩
    rw [if_neg fun hmem => hp.no_nul (List.contains_iff_mem.mp hmem),
      if_neg fun heq => hp.ne_empty (eq_of_beq heq), if_neg (Nat.not_lt.mpr hp.short), h]

/-- Where a path leads from the working directory, all links followed. -/
def Leads (t : FileTree) (p : String) (l : Location) : Prop :=
  t.follow true mostLinks (start t.workingDirectory p) (names p) = .ok (.present l)

theorem leads_iff {p : String} {l : Location} :
    t.Leads p l ↔
      ∃ n ≤ mostLinks, t.Reaches n (start t.workingDirectory p) (names p) (.present l) :=
  ⟨fun h => Reaches.of_follow h (.inl rfl), fun ⟨_, hn, h⟩ => h.follow hn⟩

theorem Leads.grows {p : String} {l : Location} (h : t.Leads p l) (hgrows : t.Grows t') :
    t'.Leads p l := by
  obtain ⟨n, hn, hreach⟩ := leads_iff.mp h
  rw [leads_iff, hgrows.workingDirectory]
  exact ⟨n, hn, hreach.present_grows hgrows⟩

theorem locate_eq_ok {p : String} {l : Location} (h : t.locate p = .ok l) :
    IsPathText p ∧ t.Leads p l ∧
      ∀ content, t.lookup l = some (.file content) → Path.endsInSlash p = false := by
  obtain ⟨target, hresolve, h⟩ := exists_of_bind_eq_ok h
  obtain ⟨hp, hfollow⟩ := resolve_eq_ok_iff.mp hresolve
  cases target with
  | free d name => cases h
  | present m =>
      dsimp only at h
      split at h <;> rename_i hentry
      · split at h <;> rename_i hslash
        · cases h
        · obtain rfl := Except.ok.inj h
          exact ⟨hp, hfollow, fun _ _ => Bool.not_eq_true _ ▸ hslash⟩
      · obtain rfl := Except.ok.inj h
        exact ⟨hp, hfollow, fun content hfile => absurd hfile (hentry content)⟩

theorem locate_of_file {p : String} {l : Location} {content : ByteArray} (hp : IsPathText p)
    (hslash : Path.endsInSlash p = false) (h : t.Leads p l)
    (hfile : t.lookup l = some (.file content)) : t.locate p = .ok l := by
  unfold locate
  rw [resolve_eq_ok_iff.mpr ⟨hp, h⟩]
  simp only [bind, Except.bind, hfile, hslash, Bool.false_eq_true, if_false]

/-- A path to a file still leads to it when the tree has grown. -/
theorem locate_file_grows {p : String} {l : Location} {content : ByteArray}
    (h : t.locate p = .ok l) (hfile : t.lookup l = some (.file content)) (hgrows : t.Grows t') :
    t'.locate p = .ok l := by
  obtain ⟨hp, hlead, hslash⟩ := locate_eq_ok h
  obtain ⟨_, hfile'⟩ := hgrows.file l content hfile
  exact locate_of_file hp (hslash content hfile) (hlead.grows hgrows) hfile'

theorem readText_of_file {p text : String} {l : Location} (h : t.locate p = .ok l)
    (hfile : t.lookup l = some (.file text.toUTF8)) : t.readText p = .ok text := by
  have hdecode : String.fromUTF8? text.toUTF8 = some text := dif_pos text.isValidUTF8
  have hbytes : t.readBytes p = .ok text.toUTF8 := by
    unfold readBytes
    rw [h]
    simp only [bind, Except.bind, hfile]
  unfold readText
  rw [hbytes]
  simp only [bind, Except.bind, hdecode]

/-! ### Making directories -/

/-- Some directories are there now where nothing was; all else is the same. -/
structure GainsDirectories (t t' : FileTree) : Prop where
  workingDirectory : t'.workingDirectory = t.workingDirectory
  lookup : ∀ l, t'.lookup l = t.lookup l ∨ t.lookup l = none ∧ t'.lookup l = some .directory

theorem GainsDirectories.grows (h : t.GainsDirectories t') : t.Grows t' := by
  have hsame : ∀ l e, t.lookup l = some e → t'.lookup l = some e := by
    intro l e hl
    rcases h.lookup l with heq | ⟨hnone, -⟩
    · rw [heq, hl]
    · rw [hnone] at hl
      cases hl
  refine ⟨h.workingDirectory, fun l hl => hsame l _ hl, fun l content hl => ⟨content, hsame l _ hl⟩,
    fun l text => ⟨fun hl => ?_, hsame l _⟩⟩
  rcases h.lookup l with heq | ⟨-, hdirectory⟩
  · rw [← heq, hl]
  · rw [hdirectory] at hl
    cases hl

theorem makeDirectory_eq_ok {p : String} (h : t.makeDirectory p = .ok t') :
    ∃ d name, t.resolve false p = .ok (.free d name) ∧ t' = t.put (d ++ [name]) .directory := by
  obtain ⟨target, hresolve, h⟩ := exists_of_bind_eq_ok h
  cases target with
  | present l => cases h
  | free d name => exact ⟨d, name, hresolve, (Except.ok.inj h).symm⟩

/-- What every new directory keeps is kept by making the directories of a list of paths. -/
theorem makeEach_induction {P : FileTree → Prop} {ps : List String} (hstart : P t)
    (hmake : ∀ t p d name, P t → p ∈ ps → t.resolve false p = .ok (.free d name) →
      P (t.put (d ++ [name]) .directory)) : P (t.makeEach ps).1 := by
  induction ps generalizing t with
  | nil => exact hstart
  | cons p ps ih =>
      have hlater := fun t q d name h (hq : q ∈ ps) =>
        hmake t q d name h (List.mem_cons_of_mem p hq)
      unfold makeEach
      split <;> rename_i hp
      · obtain ⟨d, name, hresolve, rfl⟩ := makeDirectory_eq_ok hp
        exact ih (hmake t p d name hstart List.mem_cons_self hresolve) hlater
      · split
        · exact ih hstart hlater
        · exact hstart

theorem missing_append (ps : List String) : (t.missing ps).1 ++ (t.missing ps).2 = ps := by
  induction ps with
  | nil => rfl
  | cons p ps ih =>
      unfold missing
      split
      · exact congrArg (List.cons p) ih
      · rfl

/-- What every new directory keeps is kept by making the directories on the way to a path, each of
which has first names of the path. -/
theorem makeDirectories_induction {P : FileTree → Prop} {p : String} (hstart : P t)
    (hmake : ∀ t n ns d name, P t → n ≤ mostLinks → ns <+: names p →
      t.Reaches n (start t.workingDirectory p) ns (.free d name) →
      P (t.put (d ++ [name]) .directory)) : P (t.makeDirectories p).1 := by
  unfold makeDirectories
  refine makeEach_induction hstart fun t' q d name h hq hresolve => ?_
  -- the first path that can be made and the missing ones below it are both from the one list
  have hmem : q ∈ ancestors (p.length + 1) p := by
    rw [← t.missing_append (ancestors (p.length + 1) p)]
    rcases List.mem_append.mp hq with hq | hq
    · exact List.mem_append_right _ (List.mem_of_mem_take hq)
    · exact List.mem_append_left _ (List.mem_reverse.mp hq)
  obtain ⟨habs, hnames⟩ := Path.names_of_mem_ancestors hmem
  obtain ⟨n, hn, hreach⟩ := Reaches.of_follow (resolve_eq_ok_iff.mp hresolve).2
    (.inr ⟨d, name, rfl⟩)
  rw [start, habs, ← start] at hreach
  exact hmake t' n _ d name h hn hnames hreach

/-- On the way to something that is there no directory is made. -/
theorem makeDirectories_of_leads {p : String} {l : Location} (h : t.Leads p l) :
    (t.makeDirectories p).1 = t := by
  obtain ⟨n, -, hreach⟩ := leads_iff.mp h
  -- as long as nothing was made, nothing is missing
  refine makeDirectories_induction (P := (· = t)) rfl fun t' k ns d name hsame _ hfront hfree => ?_
  rw [hsame] at hfree
  exact absurd hfree (hreach.not_free_of_prefix hfront)

theorem makeDirectories_gains (p : String) : t.GainsDirectories (t.makeDirectories p).1 := by
  refine makeDirectories_induction ⟨rfl, fun _ => .inl rfl⟩ fun t' n ns d name h _ _ hreach => ?_
  have hfree := hreach.lookup_free
  refine ⟨h.workingDirectory, fun l => ?_⟩
  rw [lookup_put (by simp)]
  split
  · rename_i heq
    rw [heq]
    rcases h.lookup (d ++ [name]) with hsame | ⟨hnone, -⟩
    · exact .inr ⟨hsame ▸ hfree, rfl⟩
    · exact .inr ⟨hnone, rfl⟩
  · exact h.lookup l

/-! ### Writing -/

/-- Writing puts a file where the path leads, in place of a file or of nothing. -/
theorem writeFile_eq_ok {p : String} {edit : ByteArray → ByteArray}
    (h : t.writeFile p edit = .ok t') :
    IsPathText p ∧ Path.endsInSlash p = false ∧ ∃ n ≤ mostLinks, ∃ target old,
      t.Reaches n (start t.workingDirectory p) (names p) target ∧
      (t.lookup target.location = none ∧ old = .empty ∨
        t.lookup target.location = some (.file old)) ∧
      t' = t.put target.location (.file (edit old)) := by
  obtain ⟨target, hresolve, h⟩ := exists_of_bind_eq_ok h
  obtain ⟨hp, hfollow⟩ := resolve_eq_ok_iff.mp hresolve
  obtain ⟨n, hn, hreach⟩ := Reaches.of_follow hfollow (.inl rfl)
  cases target with
  | free d name =>
      dsimp only at h
      split at h <;> rename_i hslash
      · cases h
      · exact ⟨hp, Bool.not_eq_true _ ▸ hslash, n, hn, _, .empty, hreach,
          .inl ⟨hreach.lookup_free, rfl⟩, (Except.ok.inj h).symm⟩
  | present l =>
      dsimp only at h
      split at h
      · rename_i old hfile
        split at h <;> rename_i hslash
        · cases h
        · exact ⟨hp, Bool.not_eq_true _ ▸ hslash, n, hn, _, old, hreach, .inr hfile,
            (Except.ok.inj h).symm⟩
      · cases h

/-- The tree after writing: a file stands where the path leads, and all else is as before. -/
theorem writeFile_spec {p : String} {edit : ByteArray → ByteArray}
    (h : t.writeFile p edit = .ok t') :
    t.Grows t' ∧ ∃ n ≤ mostLinks, ∃ target old,
      t.Reaches n (start t.workingDirectory p) (names p) target ∧
      t'.locate p = .ok target.location ∧
      t'.lookup target.location = some (.file (edit old)) ∧
      ∀ l, l ≠ target.location → t'.lookup l = t.lookup l := by
  obtain ⟨hp, hslash, n, hn, target, old, hreach, hold, rfl⟩ := writeFile_eq_ok h
  have hroot : target.location ≠ [] := by
    intro heq
    rw [heq] at hold
    rcases hold with ⟨hnone, -⟩ | hfile
    · cases hnone
    · cases hfile
  have hgrows := Grows.put_file (edit old) (hold.imp And.left fun h => ⟨old, h⟩)
  have hfile : (t.put target.location (.file (edit old))).lookup target.location =
      some (.file (edit old)) := by
    rw [lookup_put hroot, if_pos rfl]
  refine ⟨hgrows, n, hn, target, old, hreach, ?_, hfile, fun l hl => ?_⟩
  · refine locate_of_file hp hslash (leads_iff.mpr ⟨n, hn, hreach.grows hgrows ?_⟩) hfile
    rintro d name rfl hnone
    cases hfile.symm.trans hnone
  · rw [lookup_put hroot, if_neg hl]

end RowTypings.FileTree
