import RowTypings.Proofs.TypeScript.Conformance
import RowTypings.Proofs.TypeScript.LiteralText
import RowTypings.Proofs.TypeScript.MemberText

/-!
Fields declared and written on their own. A field without siblings is called by the key of its name;
among siblings that is its key too exactly if no two of them have names of one key. Then a schema is
declared and a record written field by field, with the same reports in the same order; where two
names share a key, the members of the interface are not those of the fields alone.
-/

namespace RowTypings.TypeScript

open PropertyKey

/-! ### Keys -/

namespace PropertyKey

theorem write_inj {k l : PropertyKey} (hk : k.Valid) (hl : l.Valid) (h : k.write = l.write) :
    k = l := by
  have htext : k.write.toList ++ [] = l.write.toList ++ [] := by rw [h]
  exact (write_append_inj hk hl (Text.ends_nil _) (Text.ends_nil _) htext).1

theorem map_write_inj {ks ls : List PropertyKey} (hks : ∀ k ∈ ks, k.Valid)
    (hls : ∀ l ∈ ls, l.Valid) (h : ks.map write = ls.map write) : ks = ls := by
  induction ks generalizing ls with
  | nil => rw [List.map_eq_nil_iff.mp h.symm]
  | cons k ks ih =>
      obtain ⟨l, ls, rfl, hfirst, hrest⟩ := List.map_eq_cons_iff.mp h.symm
      obtain ⟨hk, hks⟩ := List.forall_mem_cons.mp hks
      obtain ⟨hl, hls⟩ := List.forall_mem_cons.mp hls
      exact congrArg₂ List.cons (write_inj hk hl hfirst.symm) (ih hks hls hrest.symm)

theorem fresh_eq_self {used : List String} {k : PropertyKey} (h : k.text ∉ used) :
    fresh used k = k := by
  have hfree : used.contains k.text = false := by simpa using h
  rw [fresh, hfree, if_neg Bool.false_ne_true]

/-- A key that is new stays as it is, so no sibling behind it finds more keys taken than those of
the names before. -/
theorem assign_eq_map {used names : List String} (hfree : ∀ name ∈ names, (ofName name).text ∉ used)
    (hnodup : (names.map fun name => (ofName name).text).Nodup) :
    assign used names = names.map ofName := by
  induction names generalizing used with
  | nil => rfl
  | cons name names ih =>
      obtain ⟨hname, hlater⟩ := List.forall_mem_cons.mp hfree
      obtain ⟨hnew, hnodup⟩ := List.nodup_cons.mp hnodup
      have hstill : ∀ other ∈ names, (ofName other).text ∉ (ofName name).text :: used := by
        intro other hother
        rw [List.mem_cons, not_or]
        exact ⟨fun heq => hnew (List.mem_map.mpr ⟨other, hother, heq⟩), hlater other hother⟩
      simp only [assign, fresh_eq_self hname, ih hstill hnodup, List.map_cons]

end PropertyKey

theorem uniqueKeys_eq_map_iff {names : List String} :
    uniqueKeys names = names.map ofName ↔
      (names.map fun name => (ofName name).text).Nodup := by
  constructor
  · intro h
    have hnodup := nodup_texts_uniqueKeys names
    rwa [h, List.map_map] at hnodup
  · exact assign_eq_map fun _ _ => List.not_mem_nil

theorem map_write_uniqueKeys_iff {names : List String} :
    (uniqueKeys names).map write = names.map (fun name => (ofName name).write) ↔
      (names.map fun name => (ofName name).text).Nodup := by
  rw [← uniqueKeys_eq_map_iff]
  have hmap : names.map (fun name => (ofName name).write) = (names.map ofName).map write := by
    rw [List.map_map]
    rfl
  rw [hmap]
  refine ⟨map_write_inj (fun _ hk => valid_of_mem_uniqueKeys hk) ?_, congrArg (List.map write)⟩
  exact List.forall_mem_map.mpr fun name _ => valid_ofName name

/-! ### Schemas -/

/-- No two fields have names of one key. -/
def KeysApart (s : Schema) : Prop := (s.names.map fun name => (ofName name).text).Nodup

instance (s : Schema) : Decidable (KeysApart s) :=
  inferInstanceAs (Decidable (s.names.map fun name => (ofName name).text).Nodup)

theorem keyed_eq_map_iff {s : Schema} :
    keyed s = s.map (fun f => (f, ofName f.1)) ↔ KeysApart s := by
  rw [KeysApart, ← uniqueKeys_eq_map_iff]
  have hnames : s.names.map ofName = s.map fun f => ofName f.1 := by
    rw [Schema.names, List.map_map]
    rfl
  constructor
  · intro h
    rw [← map_snd_keyed, h, hnames, List.map_map]
    rfl
  · intro h
    have hzip : (s.map id).zip (s.map fun f => ofName f.1) = s.map fun f => (f, ofName f.1) :=
      List.zip_map'
    rw [List.map_id] at hzip
    rw [keyed, h, hnames, hzip]

/-! ### Members -/

/-- The member of one field on its own among members at `level`. -/
def memberAlone (settings : DeclarationSettings) (level : Nat) (f : String × Property) : String :=
  (MemberHead.ofProperty (.ofName f.1) f.2).write settings
    ((memberType settings.maxDepth level f.2.kind).write settings level)

/-- The gaps in it. -/
def gapsAlone (settings : DeclarationSettings) (level : Nat) (f : String × Property) :
    List Diagnostic :=
  kindGaps settings.maxDepth level f.1 f.2.kind

variable {settings : DeclarationSettings} {level : Nat} {s : Schema}

theorem key_eq_of_memberText_eq {m n : Member} (hm : m.1.key.Valid) (hn : n.1.key.Valid)
    (h : memberText settings level m = memberText settings level n) : m.1.key = n.1.key := by
  rw [memberText_eq, memberText_eq] at h
  exact (write_append_inj hm hn (ends_marker _ _) (ends_marker _ _) (List.append_cancel_left h)).1

theorem membersAt_eq_map (settings : DeclarationSettings) (level : Nat) (s : Schema) :
    writeMembers settings level (membersOf settings.maxDepth level s) =
      (keyed s).map fun e => (MemberHead.ofProperty e.2 e.1.2).write settings
        ((memberType settings.maxDepth level e.1.2.kind).write settings level) := by
  rw [writeMembers_eq_map, membersOf_eq, List.map_map]
  rfl

/-- The members of a schema are those of its fields alone exactly if its keys are apart, for the
text of a member tells its key. -/
theorem membersAt_eq_memberAlone_iff : writeMembers settings level
      (membersOf settings.maxDepth level s) = s.map (memberAlone settings level) ↔
    KeysApart s := by
  rw [membersAt_eq_map]
  constructor
  · intro h
    have halone : s.map (memberAlone settings level) =
        (keyed s).map fun e => memberAlone settings level e.1 := by
      conv_lhs => rw [← map_fst_keyed s, List.map_map]
      rfl
    rw [halone, List.map_inj_left] at h
    have hkeys : ∀ e ∈ keyed s, (e.1, ofName e.1.1) = e := by
      intro e he
      have hvalid : e.2.Valid := valid_of_mem_uniqueKeys (List.of_mem_zip he).2
      have htext := congrArg String.toList (h e he)
      have hkey : e.2 = ofName e.1.1 := key_eq_of_memberText_eq
        (m := (_, memberType settings.maxDepth level e.1.2.kind))
        (n := (_, memberType settings.maxDepth level e.1.2.kind)) hvalid (valid_ofName _) htext
      rw [← hkey]
    rw [← keyed_eq_map_iff]
    calc keyed s = (keyed s).map fun e => (e.1, ofName e.1.1) :=
          ((List.map_congr_left hkeys).trans (List.map_id _)).symm
      _ = ((keyed s).map Prod.fst).map fun f => (f, ofName f.1) := by
          rw [List.map_map]
          rfl
      _ = s.map fun f => (f, ofName f.1) := by rw [map_fst_keyed]
  · intro h
    rw [keyed_eq_map_iff.mpr h, List.map_map]
    rfl

/-! ### Entries -/

/-- What is left out of the entry of one field on its own. -/
def omissionsAlone (record : Record) (f : String × Property) : List Diagnostic :=
  (record.lookup f.1).elim [] (cellOmissions f.1 f.2.kind)

theorem recordOmissions_eq (s : Schema) (record : Record) :
    recordOmissions s record = s.flatMap (omissionsAlone record) := by
  refine List.flatMap_congr fun f _ => ?_
  obtain ⟨name, p⟩ := f
  simp only [omissionsAlone]
  cases record.lookup name <;> rfl

/-- Where keys are apart, the literal of a record has the entries of its fields alone. -/
theorem write_ofRecord_eq (h : KeysApart s) (record : Record) :
    (Literal.ofRecord s record).write =
      braced (s.filterMap fun f => singleEntryText record f.1 f.2) := by
  rw [ofRecord_eq, Literal.write, Literal.writeEntries_eq_map, recordEntries,
    keyed_eq_map_iff.mpr h, List.filterMap_map, List.map_filterMap]
  rfl

/-- The fields of a schema are called by the keys of their names alone exactly if no two of these
keys are one. Exactly then the members of the schema, at any level, are those of its fields alone in
their order, and then a record is written as the entries of its fields alone, as far as it has them;
both ways the same gaps and omissions are reported in the same order. -/
theorem fields_alone_iff_keysApart (s : Schema) :
    ((uniqueKeys s.names).map write = s.names.map (fun name => (ofName name).write) ↔
      KeysApart s) ∧
    (∀ settings level, writeMembers settings level (membersOf settings.maxDepth level s) =
      s.map (memberAlone settings level) ↔ KeysApart s) ∧
    (KeysApart s →
      (∀ settings, interfaceMembers settings s = s.map fun f => singleMember settings f.1 f.2) ∧
      (∀ settings level, schemaGaps settings.maxDepth level s =
        s.flatMap (gapsAlone settings level)) ∧
      ∀ record, (Literal.ofRecord s record).write =
          braced (s.filterMap fun f => singleEntryText record f.1 f.2) ∧
        recordOmissions s record = s.flatMap (omissionsAlone record)) := by
  refine ⟨map_write_uniqueKeys_iff, fun settings level => membersAt_eq_memberAlone_iff,
    fun hapart => ⟨fun settings => ?_, fun settings level => ?_, fun record => ?_⟩⟩
  · exact membersAt_eq_memberAlone_iff.mpr hapart
  · exact schemaGaps_eq_flatMap settings.maxDepth level s
  · exact ⟨write_ofRecord_eq hapart record, recordOmissions_eq s record⟩

/-- Keys that clash in a nested schema leave the fields around it alone; at the top they do not. -/
theorem fields_alone_iff_keysApart_nested_clash :
    let clash : Schema := [("e_mail", ⟨.text, "e_mail", true⟩), ("eMail", ⟨.text, "eMail", true⟩)]
    let s : Schema :=
      [("zip code", ⟨.numeric, "zip code", true⟩), ("home", ⟨.object clash, "home", true⟩)]
    let record : Record := [("home", .structured
      (.object [("eMail", .text "x"), ("phone", .null), ("fax", .bool true)]))]
    KeysApart s ∧
      interfaceMembers {} s = s.map (fun f => singleMember {} f.1 f.2) ∧
      (Literal.ofRecord s record).write = "\x7b home: \x7b eMail2: \"x\" \x7d \x7d" ∧
      s.flatMap (omissionsAlone record) = [.contentOmitted "home.fax" .undeclared] ∧
      ¬ KeysApart clash ∧ interfaceMembers {} clash ≠ clash.map (memberAlone {} 1) := by
  intro clash s record
  have hapart : KeysApart s := by decide +kernel
  have hclash : ¬ KeysApart clash := by decide +kernel
  obtain ⟨-, -, halone⟩ := fields_alone_iff_keysApart s
  obtain ⟨hmembers, -, hentries⟩ := halone hapart
  obtain ⟨hliteral, homissions⟩ := hentries record
  obtain ⟨-, hexactly, -⟩ := fields_alone_iff_keysApart clash
  refine ⟨hapart, hmembers {}, ?_, ?_, hclash, fun h => hclash ((hexactly {} 1).mp h)⟩
  · rw [hliteral]
    decide +kernel
  · rw [← homissions]
    rfl

end RowTypings.TypeScript
