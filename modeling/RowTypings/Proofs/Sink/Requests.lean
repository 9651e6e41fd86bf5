import Mathlib.Data.List.Induction
import Mathlib.Data.List.TakeWhile
import RowTypings.Proofs.Fields
import RowTypings.Proofs.Sink.Emission
import RowTypings.Sink.Memory

/-!
Sinks over many requests. What a name holds in the end is what was persisted under it from the last
request on that replaces. The shelf keeps it in a list and the directory in files, and as long as
names are single components and the file system does its part, each step of the one mirrors a step
of the other.
-/

namespace RowTypings.Sink

open FileTree (start)
open TypeScript (addNew addNew_of_mem addNew_id_cons foldl_addNew_id nodup_eraseDups)

/-- What a sink is asked for at a time. -/
structure Request where
  name : String
  text : String
  mode : EmitMode

/-- Persists one request after the other: the state in the end, and the answer to each. -/
def persistAll {σ : Type} (sink : Sink σ) (s : σ) :
    List Request → σ × List (Except StorageError Unit)
  | [] => (s, [])
  | r :: rest =>
    let first := sink.persist s r.name r.text r.mode
    let later := sink.persistAll first.1 rest
    (later.1, first.2 :: later.2)

theorem persistAll_concat {σ : Type} (sink : Sink σ) (s : σ) (rs : List Request) (r : Request) :
    sink.persistAll s (rs ++ [r]) =
      ((sink.persist (sink.persistAll s rs).1 r.name r.text r.mode).1,
        (sink.persistAll s rs).2 ++
          [(sink.persist (sink.persistAll s rs).1 r.name r.text r.mode).2]) := by
  induction rs generalizing s with
  | nil => rfl
  | cons first rest ih => simp only [List.cons_append, persistAll, ih]

/-! ### Since the last replacement -/

/-- The requests from the last one on that replaces, or all of them if none does. -/
def sinceReplaced : List Request → List Request
  | [] => []
  | r :: rest => if rest.any (·.mode == .replace) then sinceReplaced rest else r :: rest

/-- What a name holds after requests to a sink that was empty. -/
def textUnder (rs : List Request) (name : String) : String :=
  String.join ((sinceReplaced (rs.filter (·.name == name))).map Request.text)

/-- What a request keeps of the text that was there before it. -/
def keptBy (mode : EmitMode) (old : String) : String :=
  match mode with
  | .append => old
  | .replace => ""

theorem sinceReplaced_concat (rs : List Request) (r : Request) :
    sinceReplaced (rs ++ [r]) = if r.mode = .replace then [r] else sinceReplaced rs ++ [r] := by
  induction rs with
  | nil =>
      split <;> rfl
  | cons first rest ih =>
      simp only [List.cons_append, sinceReplaced, ih, List.any_append, List.any_cons, List.any_nil]
      cases hmode : r.mode with
      | replace => simp
      | append =>
          cases rest.any (·.mode == .replace) <;> simp

theorem textUnder_concat (rs : List Request) (r : Request) (name : String) :
    textUnder (rs ++ [r]) name =
      if name = r.name then keptBy r.mode (textUnder rs name) ++ r.text else textUnder rs name := by
  unfold textUnder
  split <;> rename_i hname
  · rw [List.filter_append, List.filter_cons_of_pos (by simp [hname]), List.filter_nil,
      sinceReplaced_concat]
    cases hmode : r.mode with
    | replace => simp [keptBy]
    | append => simp [keptBy, String.join_append]
  · rw [List.filter_append, List.filter_cons_of_neg (by simpa using Ne.symm hname), List.filter_nil,
      List.append_nil]

theorem textUnder_of_not_mem {rs : List Request} {name : String}
    (h : name ∉ rs.map Request.name) : textUnder rs name = "" := by
  have hnone : rs.filter (·.name == name) = [] := by
    refine List.filter_eq_nil_iff.mpr fun r hr heq => h ?_
    rw [← eq_of_beq heq]
    exact List.mem_map_of_mem hr
  rw [textUnder, hnone]
  rfl

/-! ### The shelf -/

theorem Shelf.persist_eq (shelf : Shelf) (name text : String) (mode : EmitMode) :
    shelf.persist name text mode =
      Fields.put shelf name (keptBy mode ((shelf.text? name).getD "") ++ text) := by
  cases mode <;> rfl

theorem Shelf.text?_persist (shelf : Shelf) (name text : String) (mode : EmitMode) (n : String) :
    (shelf.persist name text mode).text? n =
      if n = name then some (keptBy mode ((shelf.text? name).getD "") ++ text)
      else shelf.text? n := by
  rw [persist_eq]
  exact Fields.lookup_put shelf name _ n

/-- Putting a value under one of some names, each of which has one. -/
theorem put_map_names {α : Type} {keys : List String} (h : keys.Nodup) (g : String → α)
    (name : String) (a : α) :
    Fields.put (keys.map fun n => (n, g n)) name a =
      (addNew id keys name).map fun n => (n, if n = name then a else g n) := by
  induction keys with
  | nil => simp [Fields.put, addNew]
  | cons n rest ih =>
      obtain ⟨hnot, hrest⟩ := List.nodup_cons.mp h
      rw [List.map_cons, Fields.put]
      by_cases hname : n = name
      · subst hname
        have hsame : rest.map (fun m => (m, if m = n then a else g m)) =
            rest.map fun m => (m, g m) := by
          refine List.map_congr_left fun m hm => ?_
          have hne : m ≠ n := fun heq => hnot (heq ▸ hm)
          rw [if_neg hne]
        rw [addNew_of_mem (by simp), List.map_cons, hsame]
        simp
      · rw [if_neg (by simpa using hname), ih hrest, addNew_id_cons (Ne.symm hname),
          List.map_cons, if_neg hname]

/-- A shelf lists its names in the order they first came, each with what it holds. -/
theorem persistAll_memory (rs : List Request) :
    (memory.persistAll [] rs).1 =
      (rs.map Request.name).eraseDups.map fun n => (n, textUnder rs n) := by
  induction rs using List.reverseRecOn with
  | nil => rfl
  | append_singleton rs r ih =>
      have hnodup := nodup_eraseDups (rs.map Request.name)
      have hold : (Shelf.text? ((rs.map Request.name).eraseDups.map fun n => (n, textUnder rs n))
          r.name).getD "" = textUnder rs r.name := by
        rw [Shelf.text?, Fields.lookup_map_names]
        split <;> rename_i hmem
        · rfl
        · rw [List.mem_eraseDups] at hmem
          exact (textUnder_of_not_mem hmem).symm
      rw [persistAll_concat, ih]
      show Shelf.persist _ r.name r.text r.mode = _
      rw [Shelf.persist_eq, hold, put_map_names hnodup, List.map_append, List.map_singleton,
        ← foldl_addNew_id, ← foldl_addNew_id, List.foldl_concat]
      refine List.map_congr_left fun n _ => ?_
      rw [textUnder_concat]
      split <;> rename_i hname
      · rw [hname]
      · rfl

/-! ### The directory -/

section

variable {t : FileTree} {base name : String} {b : Location}

/-- The directory of a single name is the base itself. -/
theorem leads_of_parent? (h : t.Leads base b) (hname : Path.IsSingle name) {parent : String}
    (hparent : Path.parent? (Path.join base name) = some parent) : t.Leads parent b := by
  obtain ⟨habs, cut, hcut, hsome, hcount⟩ := Path.names_of_parent? hparent
  rw [Path.isAbsolute_join base hname.isAbsolute_eq] at habs
  -- the name is the last of what is cut off, and single points are all there is before it
  obtain ⟨points, last, rfl⟩ : ∃ points last, cut = points ++ [last] :=
    ⟨_, _, (List.dropLast_concat_getLast hsome).symm⟩
  rw [Path.names_join base hname.isAbsolute_eq, hname.names_eq, ← List.append_assoc] at hcut
  obtain ⟨hnames, hlast⟩ := List.append_inj' hcut rfl
  obtain rfl := List.singleton_inj.mp hlast
  have hpoints : points.filter (· != ".") = [] := by
    rw [List.filter_append, List.filter_cons_of_pos (by simpa using hname.ne_here),
      List.length_append] at hcount
    refine List.eq_nil_of_length_eq_zero ?_
    simp only [List.filter_nil, List.length_cons, List.length_nil] at hcount
    omega
  obtain ⟨n, hn, hreach⟩ := FileTree.leads_iff.mp h
  rw [hnames, start, ← habs, ← start] at hreach
  by_cases hnil : points = []
  · rw [hnil, List.append_nil] at hreach
    exact FileTree.leads_iff.mpr ⟨n, hn, hreach⟩
  · obtain ⟨m, ⟨k, hk, hfirst⟩, j, -, hrest⟩ := hreach.split hnil
    have hup : ".." ∉ points := by
      intro hmem
      have hstep := List.filter_eq_nil_iff.mp hpoints ".." hmem
      exact hstep (by decide)
    have hstay : b = m := by
      refine (hrest.location_eq hup ?_).trans (by rw [hpoints, List.append_nil])
      rintro ⟨part, text, hpart, hfront, -⟩
      rw [hpoints, List.prefix_nil] at hfront
      exact hpart hfront
    rw [hstay]
    exact FileTree.leads_iff.mpr ⟨k, Nat.le_trans hk hn, hfirst⟩

theorem withoutLeadingSlashes_of_single (hname : Path.IsSingle name) :
    withoutLeadingSlashes name = name := by
  unfold withoutLeadingSlashes
  rw [List.dropWhile_eq_self_iff.mpr, String.ofList_toList]
  intro hlength hslash
  refine hname.no_slash ?_
  rw [← eq_of_beq hslash]
  exact List.getElem_mem hlength

theorem artifactPath_of_single (h : t.Leads base b) (hname : Path.IsSingle name) :
    artifactPath t base name = .ok (Path.join base name) := by
  have hinside : (Path.parent? (Path.join base name)).any (leadsOut t base) = false := by
    cases hparent : Path.parent? (Path.join base name) with
    | none => rfl
    | some parent =>
        show leadsOut t base parent = false
        unfold leadsOut
        split
        · rename_i l b' hl hb'
          have hsame : ∀ {p l}, t.locate p = .ok l → t.Leads p b → l = b := fun hl hb =>
            FileTree.Target.present.inj
              (Except.ok.inj ((FileTree.locate_eq_ok hl).2.1.symm.trans hb))
          rw [hsame hl (leads_of_parent? h hname hparent), hsame hb' h]
          simp
        · rfl
  unfold artifactPath
  simp [withoutLeadingSlashes_of_single hname, hname.ne_empty, hname.components_eq, isPlain,
    hinside]

theorem withDirectories_of_single (h : t.Leads base b) (hname : Path.IsSingle name) :
    withDirectories t (Path.join base name) = t := by
  unfold withDirectories
  cases hparent : Path.parent? (Path.join base name) with
  | none => rfl
  | some parent => exact FileTree.makeDirectories_of_leads (leads_of_parent? h hname hparent)

/-- Under a single name nothing is refused: either the file system fails and nothing has changed, or
the file of that name is written, and nothing else. -/
theorem Home.persist_single (h : Home t base b) (hname : Path.IsSingle name) (text : String)
    (mode : EmitMode) :
    (∃ e, e.isPermission = false ∧ (directory base).persist t name text mode = (t, .error e)) ∨
    ∃ old, (t.lookup (b ++ [name]) = none ∧ old = .empty ∨
        t.lookup (b ++ [name]) = some (.file old)) ∧
      (directory base).persist t name text mode =
        (t.put (b ++ [name]) (.file (editFor mode text old)), .ok ()) := by
  have hpersist :=
    persist_of_artifactPath (artifactPath_of_single h.leads hname) text mode
  rcases writeArtifact_cases t name (Path.join base name) text mode with
    ⟨e, he, hwrite⟩ | ⟨t', hwrite, hdone⟩
  · rw [withDirectories_of_single h.leads hname] at hwrite
    exact .inl ⟨e, he, hpersist.trans hwrite⟩
  rw [withDirectories_of_single h.leads hname] at hwrite
  obtain ⟨-, -, n, -, target, old, hreach, hold, rfl⟩ := FileTree.writeFile_eq_ok hwrite
  obtain ⟨k, -, hbase⟩ := FileTree.leads_iff.mp h.leads
  rw [Path.start_join base hname.isAbsolute_eq, Path.names_join base hname.isAbsolute_eq,
    hname.names_eq] at hreach
  obtain ⟨j, -, hbelow⟩ := hreach.after hbase
  have hpoint : [name].filter (· != ".") = [name] :=
    List.filter_cons_of_pos (by simpa using hname.ne_here)
  have htarget : target.location = b ++ [name] := by
    rw [← hpoint]
    refine hbelow.location_eq (by simpa using Ne.symm hname.ne_up) ?_
    rintro ⟨part, link, -, -, hentry⟩
    exact h.unlinked _ link (List.prefix_append b part) hentry
  rw [htarget] at hold hdone
  exact .inr ⟨old, hold, hpersist.trans hdone⟩

theorem Home.lookup_persist_single (h : Home t base b) (hname : Path.IsSingle name) (text : String)
    (mode : EmitMode) {l : Location} (hl : l ≠ b ++ [name]) :
    ((directory base).persist t name text mode).1.lookup l = t.lookup l := by
  rcases h.persist_single hname text mode with ⟨e, -, hpersist⟩ | ⟨old, -, hpersist⟩
  · rw [hpersist]
  · rw [hpersist, FileTree.lookup_put (by simp), if_neg hl]

end

/-! ### Shelf and directory -/

/-- The base leads to a directory with nothing in it. -/
structure EmptyDirectory (t : FileTree) (base : String) (b : Location) : Prop where
  leads : t.Leads base b
  directory : t.lookup b = some .directory
  empty : ∀ l, b <+: l → l ≠ b → t.lookup l = none

theorem EmptyDirectory.home {t : FileTree} {base : String} {b : Location}
    (h : EmptyDirectory t base b) : Home t base b where
  leads := h.leads
  unlinked l text hl hentry := by
    by_cases hb : l = b
    · rw [hb, h.directory] at hentry
      cases hentry
    · rw [h.empty l hl hb] at hentry
      cases hentry

/-- What is in the directory are the artifacts of the shelf, each as a file. -/
def Mirrors (t : FileTree) (b : Location) (shelf : Shelf) : Prop :=
  ∀ n, t.lookup (b ++ [n]) = (shelf.text? n).map fun text => .file text.toUTF8

theorem EmptyDirectory.mirrors {t : FileTree} {base : String} {b : Location}
    (h : EmptyDirectory t base b) : Mirrors t b [] :=
  fun n => h.empty (b ++ [n]) (List.prefix_append b [n]) (by simp)

theorem editFor_toUTF8 (mode : EmitMode) (text old : String) :
    editFor mode text old.toUTF8 = (keptBy mode old ++ text).toUTF8 := by
  cases mode with
  | append => exact ByteArray.ext rfl
  | replace => rw [keptBy, String.empty_append, editFor]

section

variable {t : FileTree} {base : String} {b : Location} {shelf : Shelf}

theorem Mirrors.put (h : Mirrors t b shelf) {name : String} {old : ByteArray}
    (hold : t.lookup (b ++ [name]) = none ∧ old = .empty ∨
      t.lookup (b ++ [name]) = some (.file old)) (text : String) (mode : EmitMode) :
    Mirrors (t.put (b ++ [name]) (.file (editFor mode text old))) b
      (shelf.persist name text mode) := by
  have hsame : old = ((shelf.text? name).getD "").toUTF8 := by
    rw [h name] at hold
    cases hshelf : shelf.text? name with
    | none =>
        rw [hshelf] at hold
        rcases hold with ⟨-, hempty⟩ | hfile
        · exact hempty
        · cases hfile
    | some text =>
        rw [hshelf] at hold
        rcases hold with ⟨hnone, -⟩ | hfile
        · cases hnone
        · exact (FileEntry.file.inj (Option.some.inj hfile)).symm
  intro n
  rw [FileTree.lookup_put (by simp), Shelf.text?_persist, hsame, editFor_toUTF8]
  by_cases hn : n = name
  · rw [if_pos hn, if_pos (by rw [hn]), Option.map_some]
  · rw [if_neg hn, if_neg (by simpa using hn), h n]

/-- Persisting under single names does to the directory what it does to the shelf, unless the file
system fails. -/
theorem Home.persistAll (h : Home t base b) (hmirrors : Mirrors t b shelf) {rs : List Request}
    (hsingle : ∀ r ∈ rs, Path.IsSingle r.name)
    (hanswers : ∀ e, .error e ∈ ((directory base).persistAll t rs).2 → e.isPermission = true) :
    let after := (directory base).persistAll t rs
    t.Grows after.1 ∧ (∀ answer ∈ after.2, answer = .ok ()) ∧
      Mirrors after.1 b (memory.persistAll shelf rs).1 ∧
      (∀ l, (∀ r ∈ rs, l ≠ b ++ [r.name]) → after.1.lookup l = t.lookup l) ∧
      ∀ r ∈ rs, after.1.locate (Path.join base r.name) = .ok (b ++ [r.name]) := by
  induction rs generalizing t shelf with
  | nil => exact ⟨.refl t, nofun, hmirrors, fun _ _ => rfl, nofun⟩
  | cons r rs ih =>
      have hname := hsingle r List.mem_cons_self
      have hfirst := h.persist r.name r.text r.mode
      have hother := fun l => h.lookup_persist_single hname r.text r.mode (l := l)
      simp only [Sink.persistAll] at hanswers ⊢
      rcases h.persist_single hname r.text r.mode with ⟨e, he, hpersist⟩ | ⟨old, hold, hpersist⟩
      · rw [hpersist] at hanswers
        rw [hanswers e List.mem_cons_self] at he
        cases he
      · rw [hpersist] at hanswers hfirst hother ⊢
        have hnext := hmirrors.put hold r.text r.mode
        generalize t.put (b ++ [r.name]) (.file (editFor r.mode r.text old)) = next
          at hanswers hfirst hother hnext ⊢
        obtain ⟨hgrows, -, hwritten⟩ := hfirst
        obtain ⟨hlocate, old, hfile⟩ := hwritten rfl
        rw [withoutLeadingSlashes_of_single hname, wayOf, withoutLeadingSlashes_of_single hname,
          hname.steps_eq] at hlocate
        rw [wayOf, withoutLeadingSlashes_of_single hname, hname.steps_eq] at hfile
        obtain ⟨hgrows', hoks, hlast, hfar, hlocated⟩ :=
          ih (h.grows hgrows) hnext (fun r hr => hsingle r (List.mem_cons_of_mem _ hr))
            fun e he => hanswers e (List.mem_cons_of_mem _ he)
        refine ⟨hgrows.trans hgrows', ?_, hlast, fun l hl => ?_, ?_⟩
        · exact List.forall_mem_cons.mpr ⟨rfl, hoks⟩
        · obtain ⟨hl, hlater⟩ := List.forall_mem_cons.mp hl
          exact (hfar l hlater).trans (hother l hl)
        · exact List.forall_mem_cons.mpr
            ⟨FileTree.locate_file_grows hlocate hfile hgrows', hlocated⟩

end

/-- Both sinks keep, under each name, what was persisted from the last request on that replaces. A
shelf that was empty lists the names in the order they first came. In a directory that was empty
single names are never refused, and unless the file system fails, what is there in the end is a file
for each name, with the same text as on the shelf, and all else is as before. A request of one name
leaves the others as they are. -/
theorem sinks_keep_text_since_replaced (rs : List Request) :
    let shelf := (memory.persistAll [] rs).1
    shelf = (rs.map Request.name).eraseDups.map (fun n => (n, textUnder rs n)) ∧
    (∀ t base b, EmptyDirectory t base b → (∀ r ∈ rs, Path.IsSingle r.name) →
      let after := (directory base).persistAll t rs
      (∀ e, .error e ∈ after.2 → e.isPermission = true) →
      (∀ answer ∈ after.2, answer = .ok ()) ∧
      (∀ n, after.1.lookup (b ++ [n]) = (shelf.text? n).map fun text => .file text.toUTF8) ∧
      (∀ n text, shelf.text? n = some text → after.1.readText (Path.join base n) = .ok text) ∧
      ∀ l, (∀ r ∈ rs, l ≠ b ++ [r.name]) → after.1.lookup l = t.lookup l) ∧
    (∀ shelf name text mode n, n ≠ name →
      (memory.persist shelf name text mode).1.text? n = shelf.text? n) ∧
    ∀ t base b name text mode, Home t base b → Path.IsSingle name →
      ∀ l, l ≠ b ++ [name] →
        ((directory base).persist t name text mode).1.lookup l = t.lookup l := by
  intro shelf
  have hshelf : shelf = (rs.map Request.name).eraseDups.map fun n => (n, textUnder rs n) :=
    persistAll_memory rs
  refine ⟨hshelf, ?_, fun shelf name text mode n hn => ?_,
    fun t base b name text mode h hname l hl => h.lookup_persist_single hname text mode hl⟩
  · intro t base b hempty hsingle after hanswers
    obtain ⟨-, hoks, hmirrors, hfar, hlocated⟩ :=
      hempty.home.persistAll hempty.mirrors hsingle hanswers
    refine ⟨hoks, hmirrors, fun n text htext => ?_, hfar⟩
    have hmem : n ∈ rs.map Request.name := by
      rw [hshelf, Shelf.text?, Fields.lookup_map_names] at htext
      split at htext <;> rename_i hmem
      · exact List.mem_eraseDups.mp hmem
      · cases htext
    obtain ⟨r, hr, rfl⟩ := List.mem_map.mp hmem
    refine FileTree.readText_of_file (hlocated r hr) ?_
    rw [hmirrors r.name, htext, Option.map_some]
  · exact (Shelf.text?_persist shelf name text mode n).trans (if_neg hn)

/-- Two names, one of them replaced in between. -/
theorem sinks_keep_text_since_replaced_of_two :
    let t : FileTree := { entries := [(["out"], .directory)], workingDirectory := [] }
    let rs : List Request := [⟨"a.ts", "one", .append⟩, ⟨"b.ts", "two", .replace⟩,
      ⟨"a.ts", "three", .replace⟩, ⟨"a.ts", "four", .append⟩, ⟨"b.ts", "five", .append⟩]
    let after := (directory "out").persistAll t rs
    (memory.persistAll [] rs).1 = [("a.ts", "threefour"), ("b.ts", "twofive")] ∧
      after.1.readText "out/a.ts" = .ok "threefour" ∧
      after.1.readText "out/b.ts" = .ok "twofive" := by
  intro t rs after
  have hempty : EmptyDirectory t "out" ["out"] := by
    refine ⟨(FileTree.locate_eq_ok (by decide +kernel)).2.1, rfl, fun l hl hne => ?_⟩
    obtain ⟨rest, rfl⟩ := hl
    show ([(["out"], FileEntry.directory)] : List _).lookup (["out"] ++ rest) = none
    rw [List.lookup_cons, beq_false_of_ne hne]
    rfl
  have ha : Path.IsSingle "a.ts" := ⟨by decide, by decide, by decide, by decide⟩
  have hb : Path.IsSingle "b.ts" := ⟨by decide, by decide, by decide, by decide⟩
  have hsingle : ∀ r ∈ rs, Path.IsSingle r.name := by simp [rs, ha, hb]
  have hanswers : ∀ e, .error e ∈ after.2 → e.isPermission = true := by
    have hoks : after.2.all Except.isOk = true := by decide +kernel
    intro e he
    cases List.all_eq_true.mp hoks _ he
  obtain ⟨hshelf, hboth, -⟩ := sinks_keep_text_since_replaced rs
  have hkept : (memory.persistAll [] rs).1 = [("a.ts", "threefour"), ("b.ts", "twofive")] :=
    hshelf.trans (by decide +kernel)
  obtain ⟨-, -, hread, -⟩ := hboth t "out" ["out"] hempty hsingle hanswers
  rw [hkept] at hread
  exact ⟨hkept, hread "a.ts" "threefour" rfl, hread "b.ts" "twofive" rfl⟩

end RowTypings.Sink
