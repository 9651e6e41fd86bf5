import RowTypings.Proofs.Time.Stamp
import RowTypings.Proofs.TypeScript.Conformance

/-!
Literals of coerced rows, whatever schema the row is coerced against. Coercion makes only cells that
the literal of their field can carry, so the text of the literal has an entry for each cell, and all
that is ever left out are fields inside nested values that the nested schema does not declare.
-/

namespace RowTypings

/-- The value has at that path, itself being at the path given first, a field that is not null and
that the schema of its place does not declare. -/
inductive Value.Undeclared : String → Kind → Value → String → Prop
  | here {path : String} {s : Schema} {fields : List (String × Value)} {f : String × Value}
      (mem : f ∈ fields) (present : f.2.isNull = false) (unnamed : f.1 ∉ s.names) :
      Value.Undeclared path (.object s) (.object fields) (path ++ "." ++ f.1)
  | inside {path field : String} {s : Schema} {fields : List (String × Value)} {f : String × Value}
      {p : Property} (mem : f ∈ fields) (present : f.2.isNull = false)
      (declared : s.lookup f.1 = some p)
      (undeclared : Value.Undeclared (path ++ "." ++ f.1) p.kind f.2 field) :
      Value.Undeclared path (.object s) (.object fields) field
  | item {path field : String} {s : Schema} {items : List Value} {v : Value} (mem : v ∈ items)
      (undeclared : Value.Undeclared path (.object s) v field) :
      Value.Undeclared path (.objectArray s) (.array items) field

namespace TypeScript

/-! ### What is left out -/

/-- What is reported of a nested value are its undeclared fields, those of deeper levels
included. -/
theorem mem_modelledOmissions_iff {path : String} {kind : Kind} {v : Value} {d : Diagnostic} :
    d ∈ modelledOmissions path kind v ↔
      ∃ field, v.Undeclared path kind field ∧ d = .contentOmitted field .undeclared := by
  induction v using Value.induct generalizing path kind with
  | object fields ih =>
      cases kind with
      | object s =>
          rw [modelledOmissions, entryOmissions_eq, List.mem_flatMap]
          constructor
          · rintro ⟨f, hf, hd⟩
            split at hd
            · cases hd
            · rename_i hnull
              have hpresent : f.2.isNull = false := Bool.eq_false_iff.mpr hnull
              split at hd
              · rename_i hkey
                obtain ⟨p, hp, rfl⟩ := lookup_eq_some_of_keyTable hkey
                obtain ⟨field, hfield, rfl⟩ := (ih f hf).mp hd
                exact ⟨field, .inside hf hpresent hp hfield, rfl⟩
              · rename_i hkey
                have hname : f.1 ∉ Schema.names s := lookup_keyTable_eq_none.mp hkey
                exact ⟨_, .here hf hpresent hname, List.mem_singleton.mp hd⟩
          · rintro ⟨field, hfield, rfl⟩
            cases hfield with
            | @here _ _ _ f mem present unnamed =>
                refine ⟨f, mem, ?_⟩
                rw [present, lookup_keyTable_eq_none.mpr unnamed]
                exact List.mem_singleton_self _
            | @inside _ _ _ _ f p mem present declared undeclared =>
                obtain ⟨key, hkey⟩ := exists_keyTable_of_lookup declared
                refine ⟨f, mem, ?_⟩
                rw [present, hkey]
                exact (ih f mem).mpr ⟨field, undeclared, rfl⟩
      | _ => exact iff_of_false (by rintro ⟨⟩) (by rintro ⟨_, ⟨⟩, _⟩)
  | array items ih =>
      cases kind with
      | objectArray s =>
          rw [modelledOmissions, itemOmissions_eq, List.mem_flatMap]
          constructor
          · rintro ⟨v, hv, hd⟩
            obtain ⟨field, hfield, rfl⟩ := (ih v hv).mp hd
            exact ⟨field, .item hv hfield, rfl⟩
          · rintro ⟨field, hfield, rfl⟩
            cases hfield with
            | @item _ _ _ _ v mem undeclared =>
                exact ⟨v, mem, (ih v mem).mpr ⟨field, undeclared, rfl⟩⟩
      | _ => exact iff_of_false (by rintro ⟨⟩) (by rintro ⟨_, ⟨⟩, _⟩)
  | _ => exact iff_of_false (by rintro ⟨⟩) (by rintro ⟨_, ⟨⟩, _⟩)

/-! ### Cells and their literals -/

/-- The expression that stands for a cell of a field of that kind: the token of a number, a word, a
string, a date made of a text that denotes the cell's instant, an object, or an array of nothing but
objects. -/
inductive Expression.OfCell : Kind → Cell → Expression → Prop
  | number (n : Number) : Expression.OfCell .numeric (.number n) (.number n.write)
  | boolean (b : Bool) : Expression.OfCell .boolean (.boolean b) (.bool b)
  | text (t : String) : Expression.OfCell .text (.text t) (.text t)
  | date {t : String} {instant : Time.Instant} (denotes : Time.instant? t = some instant) :
      Expression.OfCell .dateTime (.dateTime t instant) (.date t)
  | object (s : Schema) (v : Value) (entries : List (PropertyKey × Expression)) :
      Expression.OfCell (.object s) (.structured v) (.object entries)
  | objectArray (s : Schema) (v : Value) {items : List Expression}
      (objects : ∀ e ∈ items, ∃ entries, e = .object entries) :
      Expression.OfCell (.objectArray s) (.structured v) (.array items)

theorem Expression.OfCell.isUnknown_eq_false {kind : Kind} {c : Cell} {e : Expression}
    (h : Expression.OfCell kind c e) : kind.isUnknown = false := by
  cases h <;> rfl

theorem exists_fields_of_isObject {v : Value} (h : v.isObject = true) :
    ∃ fields, v = .object fields := by
  cases v with
  | object fields => exact ⟨fields, rfl⟩
  | _ => cases h

/-- No cell that fits its kind is without a literal. -/
theorem exists_literal_of_fit {kind : Kind} {v : Value} {c : Cell}
    (h : Cell.fit? kind v = some c) :
    ∃ l, cellLiteral? kind c = some l ∧ Expression.OfCell kind c (.ofLiteral l) := by
  unfold Cell.fit? at h
  -- one case for each way to fit, in the order of the definition
  split at h
  case h_1 n =>
      cases h
      exact ⟨_, rfl, .number n⟩
  case h_2 t =>
      obtain ⟨n, -, rfl⟩ := Option.map_eq_some_iff.mp h
      exact ⟨_, rfl, .number n⟩
  case h_3 b =>
      cases h
      exact ⟨_, rfl, .boolean b⟩
  case h_4 t =>
      obtain ⟨b, -, rfl⟩ := Option.map_eq_some_iff.mp h
      exact ⟨_, rfl, .boolean b⟩
  case h_5 t =>
      obtain ⟨instant, hinstant, rfl⟩ := Option.map_eq_some_iff.mp h
      -- the cell keeps the trimmed text, which is read once more
      have htrimmed : Time.instant? (Text.trim t) = some instant := by
        rw [Time.instant?_trim, hinstant]
      exact ⟨_, rfl, .date htrimmed⟩
  case h_6 t =>
      cases h
      exact ⟨_, rfl, .text t⟩
  case h_7 n =>
      cases h
      exact ⟨_, rfl, .text n.write⟩
  case h_8 b =>
      cases h
      exact ⟨_, rfl, .text _⟩
  case h_9 s fields =>
      cases h
      refine ⟨_, rfl, ?_⟩
      rw [Literal.ofModelled, Expression.ofLiteral_object]
      exact .object s _ _
  case h_10 s items =>
      obtain ⟨hitems, hc⟩ := Option.ite_none_right_eq_some.mp h
      cases hc
      refine ⟨_, rfl, ?_⟩
      rw [Literal.ofModelled, modelledItems_eq, Expression.ofLiteral_array, List.map_map]
      refine .objectArray s _ (List.forall_mem_map.mpr fun v hv => ?_)
      obtain ⟨fields, rfl⟩ := exists_fields_of_isObject (List.all_eq_true.mp hitems v hv)
      exact ⟨_, Expression.ofLiteral_object (modelledEntries (keyTable s) fields)⟩
  case h_11 => cases h

/-- Nothing is left out of a cell that fits its kind, save undeclared fields of a nested value. -/
theorem mem_cellOmissions_iff {kind : Kind} {v : Value} {c : Cell}
    (h : Cell.fit? kind v = some c) {name : String} {d : Diagnostic} :
    d ∈ cellOmissions name kind c ↔ ∃ v field, c = .structured v ∧ v.Undeclared name kind field ∧
      d = .contentOmitted field .undeclared := by
  obtain ⟨l, -, hl⟩ := exists_literal_of_fit h
  have hnested (v : Value) : (∃ v' field, Cell.structured v = .structured v' ∧
      v'.Undeclared name kind field ∧ d = .contentOmitted field .undeclared) ↔
      d ∈ modelledOmissions name kind v := by
    rw [mem_modelledOmissions_iff]
    constructor
    · rintro ⟨v', field, heq, hfield⟩
      cases heq
      exact ⟨field, hfield⟩
    · rintro ⟨field, hfield⟩
      exact ⟨v, field, rfl, hfield⟩
  generalize Expression.ofLiteral l = e at hl
  cases hl with
  | object s v entries => exact (hnested v).symm
  | objectArray s v objects => exact (hnested v).symm
  | _ => exact iff_of_false (by rintro ⟨⟩) (by rintro ⟨_, _, ⟨⟩, _⟩)

/-! ### Records -/

/-- The entry of a cell has the key that the interface has on the line of the cell's field, and one
that can be read. -/
def EntryFor (settings : DeclarationSettings) (s : Schema) (cell : String × Cell)
    (entry : PropertyKey × Expression) : Prop :=
  ∃ p line, ((cell.1, p), MemberLine.text settings.readonly line) ∈
      s.zip (interfaceMembers settings s) ∧
    line.key = entry.1 ∧ entry.1.Valid ∧ Expression.OfCell p.kind cell.2 entry.2

variable {encoding : Encoding} {s : Schema} {row : Row}

/-- The line of a field in the interface of its schema. -/
def lineOf (settings : DeclarationSettings) (e : (String × Property) × PropertyKey) : MemberLine :=
  Member.line settings 1
    (MemberHead.ofProperty e.2 e.1.2, memberType settings.maxDepth 1 e.1.2.kind)

theorem zip_interfaceMembers (settings : DeclarationSettings) (s : Schema) :
    s.zip (interfaceMembers settings s) =
      (keyed s).map fun e => (e.1, (lineOf settings e).text settings.readonly) := by
  calc
    s.zip (interfaceMembers settings s)
        = ((keyed s).map Prod.fst).zip
            ((keyed s).map fun e => (lineOf settings e).text settings.readonly) := by
          rw [interfaceMembers, writeMembers_eq_lines, membersOf_eq, List.map_map, List.map_map,
            map_fst_keyed]
          rfl
    _ = _ := List.zip_map' ..

theorem entryFor_of_cell (hs : s.names.Nodup) (settings : DeclarationSettings)
    {e : (String × Property) × PropertyKey} (he : e ∈ keyed s) :
    Option.Rel (fun cell entry => EntryFor settings s cell (entry.1, .ofLiteral entry.2))
      (Record.cell? encoding row e.1)
      (entryOf (Record.ofRow encoding s row) e.1.1 e.2 e.1.2.kind) := by
  obtain ⟨f, key⟩ := e
  have hf : f ∈ s := mem_of_mem_keyed he
  rw [entryOf, Record.lookup_ofRow_of_mem hs hf]
  cases hcell : Record.cell? encoding row f with
  | none => exact .none
  | some cell =>
      obtain ⟨name, c⟩ := cell
      obtain ⟨v, -, hname, hc⟩ := Record.cell?_eq_some_iff.mp hcell
      obtain ⟨l, hliteral, hl⟩ := exists_literal_of_fit (Cell.coerce_eq_ok_some_iff.mp hc).2
      dsimp only at hname
      subst hname
      rw [Option.map_some, Option.bind_some, hliteral, Option.map_some]
      refine .some ⟨f.2, lineOf settings (f, key), ?_, rfl, valid_of_mem_keyed he, hl⟩
      rw [zip_interfaceMembers]
      exact List.mem_map.mpr ⟨(f, key), he, rfl⟩

/-- One pass over the fields with their keys makes the cells, another the entries. -/
theorem forall₂_entries (hs : s.names.Nodup) (settings : DeclarationSettings) :
    List.Forall₂ (EntryFor settings s) (Record.ofRow encoding s row)
      ((recordEntries s (Record.ofRow encoding s row)).map fun e => (e.1, .ofLiteral e.2)) := by
  have hcells : Record.ofRow encoding s row =
      (keyed s).filterMap fun e => Record.cell? encoding row e.1 := by
    conv_lhs => rw [Record.ofRow_eq, ← map_fst_keyed s, List.filterMap_map]
    rfl
  have hfields : List.Forall₂ (fun e e' => e ∈ keyed s ∧ e = e') (keyed s) (keyed s) :=
    List.forall₂_same.mpr fun e he => ⟨he, rfl⟩
  have hpass : List.Forall₂
      (fun cell entry => EntryFor settings s cell (entry.1, .ofLiteral entry.2))
      ((keyed s).filterMap fun e => Record.cell? encoding row e.1)
      (recordEntries s (Record.ofRow encoding s row)) := by
    refine List.rel_filterMap ?_ hfields
    rintro e _ ⟨he, rfl⟩
    exact entryFor_of_cell hs settings he
  rw [← hcells] at hpass
  exact List.forall₂_map_right_iff.mpr hpass

theorem fit_of_mem_ofRow (hs : s.names.Nodup) {f : String × Property} (hf : f ∈ s) {c : Cell}
    (hc : (f.1, c) ∈ Record.ofRow encoding s row) : ∃ v, Cell.fit? f.2.kind v = some c := by
  obtain ⟨p, v, hp, -, hcell⟩ := Record.mem_ofRow.mp hc
  obtain rfl : f.2 = p := Fields.eq_of_mem hs hf hp rfl
  exact ⟨v, (Cell.coerce_eq_ok_some_iff.mp hcell).2⟩

/-- What is left out of the literal of a coerced row lies inside its nested cells. -/
theorem mem_recordOmissions_iff (hs : s.names.Nodup) {d : Diagnostic} :
    d ∈ recordOmissions s (Record.ofRow encoding s row) ↔
      ∃ f v field, f ∈ s ∧ (f.1, Cell.structured v) ∈ Record.ofRow encoding s row ∧
        v.Undeclared f.1 f.2.kind field ∧ d = .contentOmitted field .undeclared := by
  have hnames : (Fields.names (Record.ofRow encoding s row)).Nodup :=
    Record.names_ofRow_sublist.nodup hs
  rw [recordOmissions, List.mem_flatMap]
  constructor
  · rintro ⟨f, hf, hd⟩
    dsimp only at hd
    split at hd
    · rename_i c hc
      have hmem := Fields.mem_of_lookup hc
      obtain ⟨v, hfit⟩ := fit_of_mem_ofRow hs hf hmem
      obtain ⟨v, field, rfl, hfield⟩ := (mem_cellOmissions_iff hfit).mp hd
      exact ⟨f, v, field, hf, hmem, hfield⟩
    · cases hd
  · rintro ⟨f, v, field, hf, hmem, hfield⟩
    obtain ⟨v', hfit⟩ := fit_of_mem_ofRow hs hf hmem
    refine ⟨f, hf, ?_⟩
    dsimp only
    rw [Fields.lookup_of_mem hnames hmem]
    exact (mem_cellOmissions_iff hfit).mpr ⟨v, field, rfl, hfield⟩

/-- Coercion and literals agree for any schema that names its fields once, inferred or not. The
literal of a coerced row is read as an object with one entry for each cell, in the order of the
schema and under the key on the line of the cell's field, and of the form that the kind of the field
asks for; a field of unknown kind has no cell; and what is reported as left out are undeclared
fields inside nested values, never a field of the schema itself. -/
theorem literal_agrees_with_coercion (encoding : Encoding) (s : Schema) (hs : s.names.Nodup)
    (row : Row) (settings : DeclarationSettings) :
    let record := Record.ofRow encoding s row
    (∃ entries, Expression.read (rowLiteral encoding s row) = some (.object entries) ∧
      List.Forall₂ (EntryFor settings s) record entries) ∧
    (Fields.names record).Sublist s.names ∧
    (∀ f ∈ s, f.2.kind.isUnknown = true → f.1 ∉ Fields.names record) ∧
    ∀ d, d ∈ recordOmissions s record ↔
      ∃ f v field, f ∈ s ∧ (f.1, Cell.structured v) ∈ record ∧
        v.Undeclared f.1 f.2.kind field ∧ d = .contentOmitted field .undeclared := by
  intro record
  refine ⟨⟨_, read_write_ofRecord s record, forall₂_entries hs settings⟩,
    Record.names_ofRow_sublist, ?_, fun d => mem_recordOmissions_iff hs⟩
  intro f hf hunknown hmem
  obtain ⟨c, hc⟩ := Fields.exists_mem_of_mem_names hmem
  obtain ⟨v, hfit⟩ := fit_of_mem_ofRow hs hf hc
  obtain ⟨l, -, hl⟩ := exists_literal_of_fit hfit
  rw [hl.isUnknown_eq_false] at hunknown
  cases hunknown

/-- Of the text of a date the ends are trimmed, of a lamp one of two fields is declared, and a note
of unknown kind is left where it is. -/
theorem literal_agrees_with_coercion_lamp :
    let lamp : Kind := .object [("on", Property.ofKind .boolean "on")]
    let s : Schema := [("lamp", .ofKind lamp "lamp"), ("at", .ofKind .dateTime "at"),
      ("note", .ofKind (.unknown .scalar) "note")]
    let v : Value := .object [("on", .bool true), ("off", .number (.integer 1))]
    let row : Row := [("note", .text "dim"), ("at", .text " 2024-01-15 "), ("lamp", v)]
    let record := Record.ofRow .structured s row
    Fields.names record = ["lamp", "at"] ∧
      rowLiteral .structured s row =
        "\x7b lamp: \x7b on: true \x7d, at: new Date(\"2024-01-15\") \x7d" ∧
      List.Forall₂ (EntryFor {} s) record
        [(⟨"lamp", false⟩, .object [(⟨"on", false⟩, .bool true)]),
          (⟨"at", false⟩, .date "2024-01-15")] ∧
      .contentOmitted "lamp.off" .undeclared ∈ recordOmissions s record := by
  intro lamp s v row record
  have hs : s.names.Nodup := by decide
  obtain ⟨⟨entries, hread, hentries⟩, -, -, homissions⟩ :=
    literal_agrees_with_coercion .structured s hs row {}
  have hliteral : rowLiteral .structured s row =
      "\x7b lamp: \x7b on: true \x7d, at: new Date(\"2024-01-15\") \x7d" := by decide +kernel
  have hexpression : Expression.read
      "\x7b lamp: \x7b on: true \x7d, at: new Date(\"2024-01-15\") \x7d" =
        some (.object [(⟨"lamp", false⟩, .object [(⟨"on", false⟩, .bool true)]),
          (⟨"at", false⟩, .date "2024-01-15")]) := by cbv
  rw [hliteral, hexpression] at hread
  cases hread
  have hcell : ("lamp", Cell.structured v) ∈ record :=
    Record.mem_ofRow.mpr ⟨_, _, List.mem_cons_self, rfl, rfl⟩
  have hoff : v.Undeclared "lamp" lamp "lamp.off" :=
    .here (List.mem_cons_of_mem _ List.mem_cons_self) rfl (by decide)
  have hlamp : ("lamp", Property.ofKind lamp "lamp") ∈ s := List.mem_cons_self
  exact ⟨by decide, hliteral, hentries, (homissions _).mpr ⟨_, v, _, hlamp, hcell, hoff, rfl⟩⟩

end TypeScript

end RowTypings
