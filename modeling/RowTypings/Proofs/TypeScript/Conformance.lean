import Mathlib
import RowTypings.Proofs.Schema.Uniform
import RowTypings.Proofs.TypeScript.MemberText
import RowTypings.Proofs.TypeScript.NestedLiteral
import RowTypings.Run.Compilation

/-!
Literals that have the type of the interface they are written for. Both are texts: the interface is
a list of lines, each with the text of a type, and the literal is the expression that is read off
it. A value that conforms to a kind makes a literal of the type of that kind, whatever level the
type stands at, and nothing of it is left out; so does a row that was sampled itself, with the cells
that coercion makes of its values.
-/

namespace RowTypings.TypeScript

open Inference (ofRows_singleton mem_ofRow_iff)

mutual

/-- An expression that may stand where a type with that text is asked for, at that level. -/
inductive Expression.HasType (settings : DeclarationSettings) : Nat → String → Expression → Prop
  | unknown {level : Nat} (e : Expression) : HasType settings level "unknown" e
  | unknownArray {level : Nat} (items : List Expression) :
      HasType settings level "unknown[]" (.array items)
  | number {level : Nat} (token : String) : HasType settings level "number" (.number token)
  | boolean {level : Nat} (b : Bool) : HasType settings level "boolean" (.bool b)
  | date {level : Nat} (t : String) : HasType settings level "Date" (.date t)
  | string {level : Nat} (t : String) : HasType settings level "string" (.text t)
  | object {level : Nat} (entries : List (PropertyKey × Expression)) :
      HasType settings level "object" (.object entries)
  | objectArray {level : Nat} {items : List Expression}
      (objects : ∀ e ∈ items, ∃ entries, e = .object entries) :
      HasType settings level "object[]" (.array items)
  | block {level : Nat} {lines : List MemberLine} {entries : List (PropertyKey × Expression)}
      (satisfies : Satisfies settings (level + 1) lines entries) :
      HasType settings level (blockText settings level lines) (.object entries)
  | blockArray {level : Nat} {lines : List MemberLine} {items : List Expression}
      (typed : ∀ e ∈ items, HasType settings level (blockText settings level lines) e) :
      HasType settings level (blockText settings level lines ++ "[]") (.array items)

/-- The entries of an object that has the members on the lines: what is not optional is there, and
what is there is declared, once, and of the type of its member. -/
inductive Expression.Satisfies (settings : DeclarationSettings) :
    Nat → List MemberLine → List (PropertyKey × Expression) → Prop
  | intro {level : Nat} {lines : List MemberLine} {entries : List (PropertyKey × Expression)}
      (keys : ∀ line ∈ lines, line.key.Valid)
      (required : ∀ line ∈ lines, line.isOptional = false → ∃ e, (line.key, e) ∈ entries)
      (declared : ∀ entry ∈ entries, ∃ line ∈ lines, line.key = entry.1)
      (once : (entries.map fun entry => entry.1.text).Nodup)
      (typed : ∀ entry ∈ entries, ∀ line ∈ lines, line.key = entry.1 →
        HasType settings level line.type entry.2) :
      Satisfies settings level lines entries

end

open Expression (HasType Satisfies)

/-- The text of the type of a member at `level`. -/
def typeText (settings : DeclarationSettings) (level : Nat) (kind : Kind) : String :=
  (memberType settings.maxDepth level kind).write settings level

variable {settings : DeclarationSettings} {level : Nat} {s : Schema}
  {fields : List (String × Value)}

/-! ### Blocks -/

/-- Entries and members that take their keys from the same schema. -/
theorem satisfies_membersOf {entries : List (PropertyKey × Literal)}
    (once : (entries.map fun e => e.1.text).Nodup)
    (required : ∀ f key, (f, key) ∈ keyed s → f.2.required = true → ∃ l, (key, l) ∈ entries)
    (typed : ∀ e ∈ entries, ∃ f, (f, e.1) ∈ keyed s ∧
      HasType settings level (typeText settings level f.2.kind) (.ofLiteral e.2)) :
    Satisfies settings level
      ((membersOf settings.maxDepth level s).map (Member.line settings level))
      (entries.map fun e => (e.1, .ofLiteral e.2)) := by
  rw [membersOf_eq, List.map_map]
  refine .intro ?_ ?_ ?_ ?_ ?_
  · intro line hline
    obtain ⟨⟨f, key⟩, hf, rfl⟩ := List.mem_map.mp hline
    exact valid_of_mem_keyed hf
  · intro line hline hmark
    obtain ⟨⟨f, key⟩, hf, rfl⟩ := List.mem_map.mp hline
    obtain ⟨l, hl⟩ := required f key hf (by simpa [Member.line, MemberHead.ofProperty] using hmark)
    exact ⟨_, List.mem_map_of_mem hl⟩
  · refine List.forall_mem_map.mpr fun e he => ?_
    obtain ⟨f, hf, -⟩ := typed e he
    exact ⟨_, List.mem_map_of_mem hf, rfl⟩
  · rwa [List.map_map]
  · refine List.forall_mem_map.mpr fun e he line hline hkey => ?_
    obtain ⟨f, hf, htype⟩ := typed e he
    obtain ⟨⟨g, key⟩, hg, rfl⟩ := List.mem_map.mp hline
    have hgf : g = f := eq_of_key_text_eq hg hf (congrArg PropertyKey.text hkey)
    rw [← hgf] at htype
    exact htype

theorem nodup_texts_modelledEntries (hfields : (Fields.names fields).Nodup) :
    ((modelledEntries (keyTable s) fields).map fun e => e.1.text).Nodup := by
  induction fields with
  | nil => exact List.nodup_nil
  | cons f rest ih =>
      obtain ⟨name, v⟩ := f
      have hnot : name ∉ Fields.names rest := (List.nodup_cons.mp hfields).1
      have hrest := ih (List.nodup_cons.mp hfields).2
      rw [modelledEntries]
      split
      · exact hrest
      · split
        · rename_i key kind hkey
          refine List.nodup_cons.mpr ⟨fun hmem => ?_, hrest⟩
          -- the same text later would be that of a later field
          obtain ⟨⟨other, l⟩, he, htext⟩ := List.mem_map.mp hmem
          obtain ⟨g, hg, -, _, hother, -⟩ := mem_modelledEntries.mp he
          obtain ⟨p, hp, -⟩ := mem_keyed_of_keyTable hkey
          obtain ⟨q, hq, -⟩ := mem_keyed_of_keyTable hother
          have hname : g.1 = name := congrArg Prod.fst (eq_of_key_text_eq hq hp htext)
          exact hnot (hname ▸ Fields.mem_names_of_mem hg)
        · exact hrest

theorem memberType_object_cases (maxDepth level : Nat) (s : Schema) :
    (memberType maxDepth level (.object s) = .object ∧
      memberType maxDepth level (.objectArray s) = .objectArray) ∨
    (memberType maxDepth level (.object s) = .block (membersOf maxDepth (level + 1) s) ∧
      memberType maxDepth level (.objectArray s) =
        .blockArray (membersOf maxDepth (level + 1) s)) := by
  simp only [memberType, membersOf]
  split
  · exact .inl ⟨rfl, rfl⟩
  · exact .inr ⟨rfl, rfl⟩

/-! ### Values -/

theorem exists_fields_of_conforms {v : Value} (h : v.Conforms (.object s)) :
    ∃ fields, v = .object fields := by
  cases h
  exact ⟨_, rfl⟩

/-- A value that conforms to a kind makes a literal of the type of that kind. -/
theorem hasType_ofModelled {kind : Kind} {v : Value} (h : v.Conforms kind)
    (settings : DeclarationSettings) (level : Nat) :
    HasType settings level (typeText settings level kind) (.ofLiteral (.ofModelled kind v)) := by
  induction h generalizing level with
  | any v => exact .unknown _
  | anyArray items => exact .unknownArray _
  | anyObject fields => exact .object _
  | number n => exact .number n.write
  | boolean b => exact .boolean b
  | dateTime hinstant =>
      rw [Literal.ofModelled, if_pos hinstant]
      exact .date _
  | text t => exact .string t
  | @object s fields names keys present declared values ih =>
      rw [Literal.ofModelled, Expression.ofLiteral_object, typeText]
      rcases memberType_object_cases settings.maxDepth level s with ⟨htype, -⟩ | ⟨htype, -⟩
      · rw [htype]
        exact .object _
      rw [htype, MemberType.write_block]
      refine .block (satisfies_membersOf (nodup_texts_modelledEntries keys) ?_ ?_)
      · intro f key hf hrequired
        obtain ⟨v, hv, hnull⟩ := present f (mem_of_mem_keyed hf) hrequired
        have hkey : (keyTable s).lookup f.1 = some (key, f.2.kind) :=
          (lookup_keyTable names).mpr ⟨f.2, hf, rfl⟩
        exact ⟨_, mem_modelledEntries.mpr ⟨(f.1, v), hv, hnull, f.2.kind, hkey, rfl⟩⟩
      · rintro ⟨key, l⟩ he
        obtain ⟨f, hf, hnull, kind, hkey, rfl⟩ := mem_modelledEntries.mp he
        obtain ⟨p, hp, rfl⟩ := mem_keyed_of_keyTable hkey
        exact ⟨_, hp, ih f hf hnull p (mem_of_mem_keyed hp) (level + 1)⟩
  | @objectArray s items values ih =>
      rw [Literal.ofModelled, modelledItems_eq, Expression.ofLiteral_array, List.map_map, typeText]
      rcases memberType_object_cases settings.maxDepth level s with ⟨hitem, htype⟩ | ⟨hitem, htype⟩
      -- too deep for a block: all that is asked of the items is to be objects
      · rw [htype]
        refine .objectArray (List.forall_mem_map.mpr fun v hv => ?_)
        obtain ⟨fields, rfl⟩ := exists_fields_of_conforms (values v hv)
        exact ⟨_, Expression.ofLiteral_object (modelledEntries (keyTable s) fields)⟩
      · rw [htype, MemberType.write_blockArray]
        refine .blockArray (List.forall_mem_map.mpr fun v hv => ?_)
        have htyped := ih v hv level
        rw [typeText, hitem, MemberType.write_block] at htyped
        exact htyped

/-- Nothing is left out of a value that conforms to its kind. -/
theorem modelledOmissions_of_conforms {kind : Kind} {v : Value} (h : v.Conforms kind)
    (path : String) : modelledOmissions path kind v = [] := by
  induction h generalizing path with
  | @object s fields names keys present declared values ih =>
      rw [modelledOmissions, entryOmissions_eq, List.flatMap_eq_nil_iff]
      intro f hf
      cases hnull : f.2.isNull with
      | true => rfl
      | false =>
          cases hkey : (keyTable s).lookup f.1 with
          | none => exact absurd (declared f hf hnull) (lookup_keyTable_eq_none.mp hkey)
          | some entry =>
              obtain ⟨p, hp, hkind⟩ := mem_keyed_of_keyTable hkey
              have hinside := ih f hf hnull p (mem_of_mem_keyed hp) (path ++ "." ++ f.1)
              rw [hkind] at hinside
              exact hinside
  | objectArray values ih =>
      rw [modelledOmissions, itemOmissions_eq, List.flatMap_eq_nil_iff]
      exact fun v hv => ih v hv path
  | any v => cases v <;> rfl
  | _ => rfl

/-! ### Records -/

/-- The entries of a record's literal, seen from the fields with their keys. -/
def recordEntries (s : Schema) (record : Record) : List (PropertyKey × Literal) :=
  (keyed s).filterMap fun e => entryOf record e.1.1 e.2 e.1.2.kind

theorem ofRecord_eq (s : Schema) (record : Record) :
    Literal.ofRecord s record = .object (recordEntries s record) := by
  rw [Literal.ofRecord, keyTable_eq, List.filterMap_map]
  rfl

theorem mem_recordEntries {record : Record} {key : PropertyKey} {l : Literal} :
    (key, l) ∈ recordEntries s record ↔ ∃ f c, (f, key) ∈ keyed s ∧
      record.lookup f.1 = some c ∧ cellLiteral? f.2.kind c = some l := by
  simp only [recordEntries, entryOf, List.mem_filterMap, Option.map_eq_some_iff,
    Option.bind_eq_some_iff]
  constructor
  · rintro ⟨⟨f, k⟩, hf, l', ⟨c, hc, hl⟩, heq⟩
    cases heq
    exact ⟨f, c, hf, hc, hl⟩
  · rintro ⟨f, c, hf, hc, hl⟩
    exact ⟨(f, key), hf, l, ⟨c, hc, hl⟩, rfl⟩

theorem nodup_texts_recordEntries (s : Schema) (record : Record) :
    ((recordEntries s record).map fun e => e.1.text).Nodup := by
  refine (Fields.map_filterMap_sublist ?_ (keyed s)).nodup (nodup_texts_keyed s)
  intro e entry h
  obtain ⟨l, -, rfl⟩ := Option.map_eq_some_iff.mp h
  rfl

theorem valid_of_cellLiteral? {kind : Kind} {c : Cell} {l : Literal}
    (h : cellLiteral? kind c = some l) : l.Valid := by
  unfold cellLiteral? at h
  -- one case for each kind with its cells, in the order of the definition
  split at h
  · cases h
    exact .number _
  · cases h
    exact .bool _
  · cases h
    exact .date _
  · cases h
    exact .text _
  · cases h
    exact valid_ofModelled _ _
  · cases h
    exact valid_ofModelled _ _
  · cases h

/-- The literal of a record is read back from its text, entry by entry. -/
theorem read_write_ofRecord (s : Schema) (record : Record) :
    Expression.read (Literal.ofRecord s record).write =
      some (.object ((recordEntries s record).map fun e => (e.1, .ofLiteral e.2))) := by
  have hvalid : (Literal.ofRecord s record).Valid := by
    rw [ofRecord_eq]
    refine .object ?_ ?_
    · rintro ⟨key, l⟩ he
      obtain ⟨f, c, hf, -⟩ := mem_recordEntries.mp he
      exact valid_of_mem_keyed hf
    · rintro ⟨key, l⟩ he
      obtain ⟨f, c, -, -, hl⟩ := mem_recordEntries.mp he
      exact valid_of_cellLiteral? hl
  rw [Literal.read_write hvalid, ofRecord_eq, Expression.ofLiteral_object]

/-! ### Rows sampled themselves -/

variable {i : Inference} {row : Row}

/-- The kind tells nothing of the value, or coercion makes a cell of it whose literal has the type
of the kind and leaves nothing out. -/
def CoercesSoundly (encoding : Encoding) (settings : DeclarationSettings) (kind : Kind)
    (v : Value) : Prop :=
  kind.isUnknown = true ∨
  ∃ c l, Cell.coerce encoding kind v = .ok (some c) ∧ cellLiteral? kind c = some l ∧
    HasType settings 1 (typeText settings 1 kind) (.ofLiteral l) ∧
    ∀ name, cellOmissions name kind c = []

theorem coercesSoundly_of_fit {encoding : Encoding} {kind : Kind} {v : Value} {c : Cell}
    {l : Literal} (hv : Inference.isAbsent v = false) (hkind : kind.isUnknown = false)
    (hfit : Cell.fit? kind v = some c) (hliteral : cellLiteral? kind c = some l)
    (htype : HasType settings 1 (typeText settings 1 kind) (.ofLiteral l))
    (homissions : ∀ name, cellOmissions name kind c = []) :
    CoercesSoundly encoding settings kind v :=
  .inr ⟨c, l, Cell.coerce_of_fit (Cell.isSilent_eq_false hkind hv) hfit, hliteral, htype,
    homissions⟩

/-- Text that was told to be a number, a boolean or a date is read as one again. -/
theorem text_coercesSoundly (i : Inference) (settings : DeclarationSettings) (t : String) :
    CoercesSoundly i.encoding settings (i.kindOfText t) (.text t) := by
  rcases i.kindOfText_cases t with
    ⟨-, hkind⟩ | ⟨hv, ⟨n, hn, hkind⟩ | ⟨b, hb, hkind⟩ | ⟨instant, hinstant, hkind⟩ | hkind⟩
  all_goals rw [hkind]
  · exact .inl rfl
  · have hfit : Cell.fit? .numeric (.text t) = some (.number n) := by simp [Cell.fit?, hn]
    exact coercesSoundly_of_fit hv rfl hfit rfl (.number n.write) fun _ => rfl
  · have hfit : Cell.fit? .boolean (.text t) = some (.boolean b) := by simp [Cell.fit?, hb]
    exact coercesSoundly_of_fit hv rfl hfit rfl (.boolean b) fun _ => rfl
  · have hfit : Cell.fit? .dateTime (.text t) = some (.dateTime (Text.trim t) instant) := by
      simp [Cell.fit?, hinstant]
    exact coercesSoundly_of_fit hv rfl hfit rfl (.date (Text.trim t)) fun _ => rfl
  · exact coercesSoundly_of_fit hv rfl rfl rfl (.string t) fun _ => rfl

/-- A value that conforms to a kind with a schema is carried as it is. -/
theorem nested_coercesSoundly {encoding : Encoding} {kind : Kind} {s : Schema}
    (hkind : kind.nested? = some s) {v : Value} (h : v.Conforms kind)
    (settings : DeclarationSettings) : CoercesSoundly encoding settings kind v := by
  cases h with
  | object names keys present declared values =>
      have h := Value.Conforms.object names keys present declared values
      exact coercesSoundly_of_fit rfl rfl rfl rfl (hasType_ofModelled h settings 1)
        (modelledOmissions_of_conforms h)
  | @objectArray s items values =>
      have h := Value.Conforms.objectArray values
      have hobjects : items.all Value.isObject = true := by
        refine List.all_eq_true.mpr fun v hv => ?_
        obtain ⟨fields, rfl⟩ := exists_fields_of_conforms (values v hv)
        rfl
      have hfit : Cell.fit? (.objectArray s) (.array items) =
          some (.structured (.array items)) := if_pos hobjects
      exact coercesSoundly_of_fit rfl rfl hfit rfl (hasType_ofModelled h settings 1)
        (modelledOmissions_of_conforms h)
  | _ => cases hkind

theorem kindOf_coercesSoundly {v : Value} (hv : v.Keyed) (huniform : i.Uniform 0 v)
    (hencoding : i.encoding = .structured ∨ ∃ t, v = .text t) (settings : DeclarationSettings) :
    CoercesSoundly i.encoding settings (i.kindOf 0 v) v := by
  cases v with
  | null => exact .inl rfl
  | bool b => exact coercesSoundly_of_fit rfl rfl rfl rfl (.boolean b) fun _ => rfl
  | number n => exact coercesSoundly_of_fit rfl rfl rfl rfl (.number n.write) fun _ => rfl
  | text t => exact text_coercesSoundly i settings t
  | object fields =>
      have hstructured : i.encoding = .structured := hencoding.resolve_right (by simp)
      have hconforms := Inference.conforms_of_alike hstructured hv huniform (.same _)
      rcases Inference.kindOf_object_cases i 0 fields with hkind | ⟨-, -, hkind⟩
      · exact .inl (by rw [hkind]; rfl)
      · exact nested_coercesSoundly (by rw [hkind]; rfl) hconforms settings
  | array items =>
      have hstructured : i.encoding = .structured := hencoding.resolve_right (by simp)
      have hconforms := Inference.conforms_of_alike hstructured hv huniform (.same _)
      rcases Inference.kindOf_array_cases i 0 items with hkind | ⟨_, _, -, -, -, hkind⟩
      · exact .inl (by rw [hkind]; rfl)
      · exact nested_coercesSoundly (by rw [hkind]; rfl) hconforms settings

theorem lookup_own_record (hrow : (Value.object row).Keyed) {name : String} {v : Value}
    (hv : (name, v) ∈ row) {c : Cell} :
    (Record.ofRow i.encoding (i.ofRow row) row).lookup name = some c ↔
      Cell.coerce i.encoding (i.kindOf 0 v) v = .ok (some c) := by
  have hnames : (Schema.names (i.ofRow row)).Nodup := (Inference.ofRow_wellFormed hrow).nodup
  have hfield : (name, Property.ofKind (i.kindOf 0 v) name) ∈ i.ofRow row :=
    mem_ofRow_iff.mpr ⟨v, hv, rfl⟩
  have hcoercion : coercion? i.encoding (i.ofRow row) row name =
      some (Cell.coerce i.encoding (i.kindOf 0 v) v) :=
    (Record.coercion?_eq_some_iff hnames).mpr
      ⟨_, v, hfield, Fields.lookup_of_mem hrow.names_nodup hv, rfl⟩
  rw [Record.lookup_ofRow_eq_some_iff hnames, hcoercion, Option.some_inj]

theorem CoercesSoundly.of_coerce {encoding : Encoding} {kind : Kind} {v : Value} {c : Cell}
    (hsound : CoercesSoundly encoding settings kind v)
    (hc : Cell.coerce encoding kind v = .ok (some c)) :
    ∃ l, cellLiteral? kind c = some l ∧
      HasType settings 1 (typeText settings 1 kind) (.ofLiteral l) ∧
      ∀ name, cellOmissions name kind c = [] := by
  rcases hsound with hunknown | ⟨c', l, hc', hrest⟩
  · rw [Cell.coerce_of_isSilent (Cell.isSilent_of_isUnknown hunknown v)] at hc
    cases hc
  · rw [hc] at hc'
    cases hc'
    exact ⟨l, hrest⟩

theorem own_record_satisfies (hrow : (Value.object row).Keyed)
    (hsound : ∀ f ∈ row, CoercesSoundly i.encoding settings (i.kindOf 0 f.2) f.2) :
    Satisfies settings 1
      ((membersOf settings.maxDepth 1 (i.ofRow row)).map (Member.line settings 1))
      ((recordEntries (i.ofRow row) (Record.ofRow i.encoding (i.ofRow row) row)).map fun e =>
        (e.1, .ofLiteral e.2)) := by
  refine satisfies_membersOf (nodup_texts_recordEntries _ _) ?_ ?_
  · intro f key hf hrequired
    obtain ⟨v, hv, hp⟩ := mem_ofRow_iff.mp (mem_of_mem_keyed hf)
    rcases hsound _ hv with hunknown | ⟨c, l, hc, hl, -⟩
    · simp [hp, Property.ofKind, hunknown] at hrequired
    · refine ⟨l, mem_recordEntries.mpr ⟨f, c, hf, (lookup_own_record hrow hv).mpr hc, ?_⟩⟩
      rwa [hp]
  · rintro ⟨key, l⟩ he
    obtain ⟨f, c, hf, hc, hl⟩ := mem_recordEntries.mp he
    obtain ⟨v, hv, hp⟩ := mem_ofRow_iff.mp (mem_of_mem_keyed hf)
    have hcell := (lookup_own_record hrow hv).mp hc
    obtain ⟨l', hl', htype, -⟩ := (hsound _ hv).of_coerce hcell
    refine ⟨f, hf, ?_⟩
    rw [hp] at hl ⊢
    rw [show l = l' from Option.some.inj (hl.symm.trans hl')]
    exact htype

theorem own_misfits_eq_nil (hrow : (Value.object row).Keyed)
    (hsound : ∀ f ∈ row, CoercesSoundly i.encoding settings (i.kindOf 0 f.2) f.2)
    (identity : String) (index : Nat) :
    Record.misfits ⟨identity, i.encoding⟩ (i.ofRow row) row index = [] := by
  rw [Record.misfits_eq, List.filterMap_eq_nil_iff]
  intro f hf
  obtain ⟨v, hv, hp⟩ := mem_ofRow_iff.mp hf
  have hlookup : row.lookup f.1 = some v := Fields.lookup_of_mem hrow.names_nodup hv
  unfold Record.misfit?
  rw [hlookup, hp]
  rcases hsound _ hv with hunknown | ⟨c, l, hc, -⟩
  · simp [Property.ofKind, Cell.coerce_of_isSilent (Cell.isSilent_of_isUnknown hunknown v)]
  · simp [Property.ofKind, hc]

theorem own_omissions_eq_nil (hrow : (Value.object row).Keyed)
    (hsound : ∀ f ∈ row, CoercesSoundly i.encoding settings (i.kindOf 0 f.2) f.2) :
    recordOmissions (i.ofRow row) (Record.ofRow i.encoding (i.ofRow row) row) = [] := by
  rw [recordOmissions, List.flatMap_eq_nil_iff]
  rintro ⟨name, p⟩ hf
  obtain ⟨v, hv, hp⟩ := mem_ofRow_iff.mp hf
  obtain rfl : p = .ofKind (i.kindOf 0 v) name := hp
  dsimp only
  cases hc : (Record.ofRow i.encoding (i.ofRow row) row).lookup name with
  | none => rfl
  | some c =>
      obtain ⟨-, -, -, homissions⟩ :=
        (hsound _ hv).of_coerce ((lookup_own_record hrow hv).mp hc)
      exact homissions name

/-- The interface of the schema of one row is a list of lines, the literal of that row is read as an
object, and the object has the type of the interface; nothing of the row is a misfit, and nothing is
left out of the literal. -/
theorem own_sample_hasType (i : Inference) (settings : DeclarationSettings) {row : Row}
    (hrow : (Value.object row).Keyed)
    (hencoding : i.encoding = .structured ∨ ∀ f ∈ row, ∃ t, f.2 = .text t)
    (huniform : ∀ f ∈ row, i.Uniform 0 f.2) (identity : String) (index : Nat) :
    (∃ lines entries,
      interfaceMembers settings (i.ofRows [row]) =
        lines.map (MemberLine.text settings.readonly) ∧
      Expression.read (rowLiteral i.encoding (i.ofRows [row]) row) = some (.object entries) ∧
      Satisfies settings 1 lines entries) ∧
    Record.misfits ⟨identity, i.encoding⟩ (i.ofRows [row]) row index = [] ∧
    recordOmissions (i.ofRows [row]) (Record.ofRow i.encoding (i.ofRows [row]) row) = [] := by
  have hsound : ∀ f ∈ row,
      CoercesSoundly i.encoding settings (i.kindOf 0 f.2) f.2 := fun f hf =>
    kindOf_coercesSoundly (hrow.field hf) (huniform f hf) (hencoding.imp_right fun h => h f hf) _
  rw [ofRows_singleton]
  exact ⟨⟨_, _, writeMembers_eq_lines settings 1 _, read_write_ofRecord _ _,
    own_record_satisfies hrow hsound⟩, own_misfits_eq_nil hrow hsound identity index,
    own_omissions_eq_nil hrow hsound⟩

/-- Of two lamps in a list the second is off in the same way as the first. -/
theorem own_sample_hasType_list_row :
    let i : Inference := { encoding := .structured }
    let item (b : Bool) : Value := .object [("on", .bool b), ("off", .null)]
    let row : Row := [("paid", .bool true), ("lamps", .array [item true, item false])]
    let lamp (b : Bool) : Expression := .object [(⟨"on", false⟩, .bool b)]
    rowLiteral .structured (i.ofRows [row]) row =
        "\x7b paid: true, lamps: [\x7b on: true \x7d, \x7b on: false \x7d] \x7d" ∧
      ∃ lines, lines.map (MemberLine.text true) =
          ["readonly paid: boolean; // paid",
            "readonly lamps: \x7b\n    readonly on: boolean; // on\n" ++
              "    readonly off?: unknown; // off\n  \x7d[]; // lamps"] ∧
        Satisfies {} 1 lines [(⟨"paid", false⟩, .bool true),
          (⟨"lamps", false⟩, .array [lamp true, lamp false])] := by
  intro i item row lamp
  have hkeyed : (Value.object row).Keyed := by
    simp [row, item, Value.Keyed, Fields.names, -Prod.forall]
  have huniform : ∀ f ∈ row, i.Uniform 0 f.2 := by
    have hsame : ∀ b, (i.kindOf 0 (item true)).Alike (i.kindOf 0 (item b)) := fun _ => .same _
    simpa [row, item, Inference.Uniform, -Prod.forall] using And.intro (hsame true) (hsame false)
  obtain ⟨⟨lines, entries, hlines, hread, hsatisfies⟩, -, -⟩ :=
    own_sample_hasType i {} hkeyed (.inl rfl) huniform "lamps.json" 0
  have hmembers : interfaceMembers {} (i.ofRows [row]) =
      ["readonly paid: boolean; // paid",
        "readonly lamps: \x7b\n    readonly on: boolean; // on\n" ++
          "    readonly off?: unknown; // off\n  \x7d[]; // lamps"] := by decide +kernel
  have hliteral : rowLiteral .structured (i.ofRows [row]) row =
      "\x7b paid: true, lamps: [\x7b on: true \x7d, \x7b on: false \x7d] \x7d" := by
    decide +kernel
  have hentries : Expression.read
      "\x7b paid: true, lamps: [\x7b on: true \x7d, \x7b on: false \x7d] \x7d" =
        some (.object [(⟨"paid", false⟩, .bool true),
          (⟨"lamps", false⟩, .array [lamp true, lamp false])]) := by cbv
  refine ⟨hliteral, lines, hlines.symm.trans hmembers, ?_⟩
  rw [show i.encoding = .structured from rfl, hliteral, hentries] at hread
  cases hread
  exact hsatisfies

end RowTypings.TypeScript
