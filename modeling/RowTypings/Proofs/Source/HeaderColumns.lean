import RowTypings.Proofs.Record.OwnRow
import RowTypings.Proofs.Run.Batch
import RowTypings.Proofs.Schema.Required
import RowTypings.Proofs.TypeScript.InterfaceText
import RowTypings.Proofs.TypeScript.StableKeys

/-!
Columns of delimited text. A row holds its cells by name, so the columns of a header are told apart
by their trimmed names and by nothing else: each name becomes one field and one member of the
interface, and its cell in a row is that of the last column of the name. A header of distinct names
keeps all its columns.
-/

namespace RowTypings

open TypeScript (interfaceMembers)

theorem TypeScript.length_interfaceMembers (declarations : DeclarationSettings) (s : Schema) :
    (interfaceMembers declarations s).length = s.length := by
  rw [interfaceMembers, writeMembers_eq_map, List.length_map, membersOf, List.length_zip,
    length_headsOf, length_memberTypes, Nat.min_self]

/-! ### Texts of the first row -/

theorem Kind.RefinesTo.eq_of_plain {k l : Kind} (h : k.RefinesTo l) (hknown : k.isUnknown = false)
    (hplain : k.nested? = none) : l = k := by
  cases h with
  | same => rfl
  | typed known => cases hknown
  | object hs => cases hplain
  | objectArray hs => cases hplain

namespace Inference

variable {i : Inference}

theorem nested?_kindOfText (s : String) : (i.kindOfText s).nested? = none := by
  unfold kindOfText
  split_ifs <;> rfl

/-- The sample starts with the first row. -/
theorem exists_sample_cons {α : Type} (settings : InferenceSettings) (first : α) (later : List α) :
    ∃ sampled ⊆ later, settings.sample (first :: later) = first :: sampled := by
  unfold InferenceSettings.sample
  split_ifs with hrefine hsize
  · exact ⟨[], List.nil_subset _, rfl⟩
  · exact ⟨later, List.Subset.refl _, rfl⟩
  · obtain ⟨n, hn⟩ := Nat.exists_eq_succ_of_ne_zero (by simpa using hsize)
    exact ⟨later.take n, List.take_subset _ _, by rw [hn, List.take_succ_cons]⟩

/-- A text that gives its field a kind in the first row has settled the kind of that field. -/
theorem exists_field_of_text {first : Row} {later : List Row}
    (hrows : ∀ row ∈ first :: later, (Value.object row).Keyed) {name cell : String}
    (hcell : first.lookup name = some (.text cell))
    (hknown : (i.kindOfText cell).isUnknown = false) :
    ∃ p, (name, p) ∈ i.ofRows (first :: later) ∧ p.kind = i.kindOfText cell := by
  obtain ⟨hfirst, hlater⟩ := List.forall_mem_cons.mp hrows
  obtain ⟨sampled, hsub, hsample⟩ := exists_sample_cons i.settings first later
  have hgrown : Schema.RefinesTo (i.ofRow first) (sampled.foldl (i.refineAt 0) (i.ofRow first)) :=
    refinesTo_foldl_refineAt (ofRow_wellFormed hfirst) fun row hrow => hlater row (hsub hrow)
  have hget : (i.ofRow first).get? name = some (.ofKind (i.kindOfText cell) name) := by
    rw [Schema.get?, Fields.lookup_eq_some_iff (ofRow_wellFormed hfirst).nodup, mem_ofRow_iff]
    exact ⟨.text cell, Fields.mem_of_lookup hcell, rfl⟩
  obtain ⟨q, hq, hkind⟩ := hgrown.exists_get hget
  refine ⟨q, ?_, hkind.eq_of_plain hknown (nested?_kindOfText cell)⟩
  rw [ofRows_of_sample_eq_cons hsample]
  exact Fields.mem_of_lookup hq

end Inference

/-! ### Records as rows -/

section Records

variable {header cells : List String}

theorem keyed_recordRow (header cells : List String) :
    (Value.object (recordRow header cells)).Keyed := by
  rw [Value.Keyed]
  refine ⟨Fields.nodup_names_ofList _, fun f hf => ?_⟩
  obtain ⟨⟨name, cell⟩, -, rfl⟩ := List.mem_map.mp (Fields.mem_of_mem_ofList hf)
  simp [Value.Keyed]

theorem names_recordRow (h : cells.length = header.length) :
    Fields.names (recordRow header cells) = header.eraseDups := by
  have hnames : (header.zip cells).map Prod.fst = header := List.map_fst_zip (Nat.le_of_eq h.symm)
  rw [recordRow, Fields.names_ofList, Fields.names, List.map_map]
  exact congrArg List.eraseDups hnames

/-- Of the columns of one name, the last gives the value. -/
theorem lookup_recordRow {k : Nat} {name cell : String} (hname : header[k]? = some name)
    (hcell : cells[k]? = some cell) (hlast : name ∉ header.drop (k + 1)) :
    (recordRow header cells).lookup name = some (.text cell) := by
  have hzip : (header.zip cells)[k]? = some (name, cell) := by
    rw [List.getElem?_zip_eq_some]
    exact ⟨hname, hcell⟩
  obtain ⟨hk, hentry⟩ := List.getElem?_eq_some_iff.mp hzip
  have hcut : header.zip cells =
      (header.zip cells).take k ++ (name, cell) :: (header.zip cells).drop (k + 1) := by
    rw [← hentry, ← List.drop_eq_getElem_cons, List.take_append_drop]
  rw [recordRow, hcut, List.map_append, List.map_cons]
  refine Fields.lookup_ofList_of_last _ fun hmem => hlast ?_
  rw [Fields.names, List.map_map, List.zip_eq_zipWith, List.drop_zipWith] at hmem
  obtain ⟨e, he, rfl⟩ := List.mem_map.mp hmem
  exact (List.of_mem_zip he).1

/-- Records as even as their header are rows, all of them. -/
theorem delimitedRows_of_even (identity : String) {delimiter : Char} {text : String}
    {header : Csv.Record} {records : List Csv.Record}
    (hrecords : Csv.records delimiter text = header :: records)
    (heven : ∀ r ∈ records, r.fields.length = header.fields.length) :
    delimitedRows identity delimiter text =
      .ok ((records.map fun r => recordRow (header.fields.map Text.trim) r.fields).map .ok) := by
  rw [delimitedRows, hrecords, List.map_map]
  refine congrArg Except.ok (List.map_congr_left fun r hr => ?_)
  rw [recordItem, if_pos (by simp [heven r hr])]
  rfl

end Records

/-! ### Columns -/

/-- Rows that are all there are compiled, with the members of the schema inferred from them. -/
theorem exists_compiled_of_rows (settings : Settings) {t : FileTree} {source : Source}
    {rows : List Row} (hopen : source.rows t = .ok (rows.map .ok)) :
    ∃ reported compiled, compileSource settings t source = (reported, .ok compiled) ∧
      compiled.members = interfaceMembers settings.declarations
        (({ settings := settings.inference, encoding := source.encoding } : Inference).ofRows
          rows) := by
  rw [compileSource, hopen]
  exact ⟨_, _, compileRows_map_ok settings ⟨source.identity, source.encoding⟩ rows, rfl⟩

/-- Names that all rows share are the names of the schema. -/
theorem Inference.names_ofRows_of_same {i : Inference} {first : Row} {later : List Row}
    (hrows : ∀ row ∈ first :: later, (Value.object row).Keyed) {names : List String}
    (hnames : ∀ row ∈ first :: later, Fields.names row = names) :
    (i.ofRows (first :: later)).names = names := by
  obtain ⟨sampled, hsub, hsample⟩ := exists_sample_cons i.settings first later
  obtain ⟨hfirst, hlater⟩ := List.forall_mem_cons.mp hnames
  have hnodup : names.Nodup := hfirst ▸ (hrows first List.mem_cons_self).names_nodup
  have hnew : (sampled.flatMap Fields.names).removeAll names = [] := by
    refine List.filter_eq_nil_iff.mpr fun name hname => ?_
    obtain ⟨row, hrow, hmem⟩ := List.mem_flatMap.mp hname
    rw [hlater row (hsub hrow)] at hmem
    simpa using hmem
  rw [names_ofRows hrows, hsample, List.flatMap_cons, hfirst, List.eraseDups_append, hnew,
    eraseDups_eq_self hnodup, List.eraseDups_nil, List.append_nil]

/-- Delimited text with records as even as its header opens, and is compiled by a schema with one
field, and one member of the interface, for each name of a column. Every cell of the first record
that is not blank is carried, as what it was read to be, unless a later column has its name. -/
theorem header_columns_kept_by_name (settings : Settings) (t : FileTree) {source : Source}
    {origin : Origin} {delimiter : Char} (hinput : source.input = .delimited origin delimiter)
    {text : String} (htext : origin.readText t = .ok text) {header first : Csv.Record}
    {later : List Csv.Record} (hrecords : Csv.records delimiter text = header :: first :: later)
    (heven : ∀ r ∈ first :: later, r.fields.length = header.fields.length) :
    let names := header.fields.map Text.trim
    let rows := (first :: later).map fun r => recordRow names r.fields
    let i : Inference := { settings := settings.inference, encoding := .textual }
    let schema := i.ofRows rows
    source.rows t = .ok (rows.map .ok) ∧
    schema.names = names.eraseDups ∧
    (names.Nodup → schema.names = names) ∧
    (∃ reported compiled, compileSource settings t source = (reported, .ok compiled) ∧
      compiled.members = interfaceMembers settings.declarations schema ∧
      compiled.members.length = names.eraseDups.length ∧
      (names.Nodup → compiled.members.length = header.fields.length)) ∧
    ∀ (k : Nat) (name cell : String), names[k]? = some name → first.fields[k]? = some cell →
      name ∉ names.drop (k + 1) → Text.isBlankText cell = false →
      ∃ c, Cell.fit? (i.kindOfText cell) (.text cell) = some c ∧
        (name, c) ∈ Record.ofRow .textual schema (recordRow names first.fields) := by
  intro names rows i schema
  have hopen : source.rows t = .ok (rows.map .ok) := by
    rw [Source.rows, hinput, RowInput.read, htext]
    exact delimitedRows_of_even _ hrecords heven
  have hkeyed : ∀ row ∈ rows, (Value.object row).Keyed := by
    intro row hrow
    obtain ⟨r, -, rfl⟩ := List.mem_map.mp hrow
    exact keyed_recordRow names r.fields
  have hsame : ∀ row ∈ rows, Fields.names row = names.eraseDups := by
    intro row hrow
    obtain ⟨r, hr, rfl⟩ := List.mem_map.mp hrow
    exact names_recordRow (by rw [heven r hr, List.length_map])
  have hnames : schema.names = names.eraseDups := Inference.names_ofRows_of_same hkeyed hsame
  have hdistinct (h : names.Nodup) : names.eraseDups = names := Inference.eraseDups_eq_self h
  have hlength : (interfaceMembers settings.declarations schema).length =
      names.eraseDups.length := by
    rw [TypeScript.length_interfaceMembers, ← hnames, Schema.names, List.length_map]
  refine ⟨hopen, hnames, fun h => hnames.trans (hdistinct h), ?_, ?_⟩
  · have hencoding : source.encoding = .textual := by rw [Source.encoding, hinput]; rfl
    obtain ⟨reported, compiled, hcompile, hmembers⟩ := exists_compiled_of_rows settings hopen
    rw [hencoding] at hmembers
    have hcount : compiled.members.length = names.eraseDups.length := hmembers ▸ hlength
    refine ⟨reported, compiled, hcompile, hmembers, hcount, fun h => ?_⟩
    rw [hcount, hdistinct h, List.length_map]
  · intro k name cell hname hcell hlast hblank
    have hlookup := lookup_recordRow hname hcell hlast
    have hknown : (i.kindOfText cell).isUnknown = false := by
      rcases i.kindOfText_cases cell with
        ⟨hblank', -⟩ | ⟨-, ⟨_, -, hkind⟩ | ⟨_, -, hkind⟩ | ⟨_, -, hkind⟩ | hkind⟩
      · rw [hblank] at hblank'
        cases hblank'
      all_goals
        rw [hkind]
        rfl
    obtain ⟨p, hp, hkind⟩ := Inference.exists_field_of_text (i := i) hkeyed hlookup hknown
    obtain ⟨c, hc⟩ := Cell.exists_fit_kindOfText i hknown
    refine ⟨c, hc, Record.mem_ofRow.mpr ⟨p, .text cell, hp, hlookup, ?_⟩⟩
    rw [hkind]
    exact Cell.coerce_of_fit (Cell.isSilent_eq_false hknown hblank) hc

/-- The third column has the name of the first: its cell is the one that is carried. -/
theorem header_columns_kept_by_name_twice :
    let source : Source :=
      { input := .delimited (.inline "crew.csv" "id,name, id \n1,Ada,2\n") ',' }
    let names := ["id", "name", "id"]
    let row := recordRow names ["1", "Ada", "2"]
    let schema := ({ encoding := .textual } : Inference).ofRows [row]
    (∃ reported compiled, compileSource {} { entries := [], workingDirectory := [] } source =
      (reported, .ok compiled) ∧ compiled.members.length = 2) ∧
    ∃ c, Cell.fit? .numeric (.text "2") = some c ∧ ("id", c) ∈ Record.ofRow .textual schema row := by
  intro source names row schema
  let header : Csv.Record := ⟨0, ⟨1, 0⟩, ["id", "name", " id "]⟩
  let first : Csv.Record := ⟨1, ⟨2, 13⟩, ["1", "Ada", "2"]⟩
  have hrecords : Csv.records ',' "id,name, id \n1,Ada,2\n" = [header, first] := by rfl
  have hinput : source.input =
      .delimited (.inline "crew.csv" "id,name, id \n1,Ada,2\n") ',' := rfl
  obtain ⟨-, -, -, ⟨reported, compiled, hcompile, -, hcount, -⟩, hcells⟩ :=
    header_columns_kept_by_name {} { entries := [], workingDirectory := [] } hinput rfl hrecords
      (by decide)
  refine ⟨⟨reported, compiled, hcompile, hcount.trans (by decide)⟩, ?_⟩
  exact hcells 2 "id" "2" rfl rfl (by decide) (by decide)

/-- Of two columns of one name only one is left: the first cell is neither carried nor reported. -/
theorem first_of_two_columns_lost :
    let text := "a, a\n1,2\n"
    let source : Source := { input := .delimited (.inline "d.csv" text) ',' }
    let row : Row := [("a", .text "2")]
    let schema := ({ encoding := .textual } : Inference).ofRows [row]
    (∃ header record, Csv.records ',' text = [header, record] ∧
      header.fields.length = 2 ∧ record.fields = ["1", "2"]) ∧
    source.rows { entries := [], workingDirectory := [] } = .ok [.ok row] ∧
    schema.length = 1 ∧ (interfaceMembers {} schema).length = 1 ∧
    Record.ofRow .textual schema row = [("a", .number (.integer 2))] ∧
    Record.misfits ⟨"d.csv", .textual⟩ schema row 0 = [] := by
  exact ⟨⟨_, _, rfl, rfl, rfl⟩, rfl, rfl, rfl, rfl, rfl⟩

end RowTypings
