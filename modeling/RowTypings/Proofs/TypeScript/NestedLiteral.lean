import RowTypings.Proofs.Record.Coercion
import RowTypings.Proofs.TypeScript.LiteralText

/-!
Literals of nested values. The schema decides which fields are written and under which keys, but a
value is written as it is, not coerced: only a date field looks at its text. So the literal, as it
is read off its text, is of the kind of the field exactly if the value was, and a value of another
kind is written all the same and never reported.
-/

namespace RowTypings

/-- The value is of that kind as it stands, in every declared field that is not null. -/
inductive Value.Fits : Kind → Value → Prop
  | unknown (shape : Shape) (v : Value) : Value.Fits (.unknown shape) v
  | number (n : Number) : Value.Fits .numeric (.number n)
  | boolean (b : Bool) : Value.Fits .boolean (.bool b)
  | dateTime {t : String} (h : (Time.instant? t).isSome = true) : Value.Fits .dateTime (.text t)
  | text (t : String) : Value.Fits .text (.text t)
  | object {s : Schema} {fields : List (String × Value)}
      (values : ∀ f ∈ fields, f.2.isNull = false → ∀ p, s.lookup f.1 = some p →
        Value.Fits p.kind f.2) :
      Value.Fits (.object s) (.object fields)
  | objectArray {s : Schema} {items : List Value}
      (values : ∀ v ∈ items, Value.Fits (.object s) v) :
      Value.Fits (.objectArray s) (.array items)

namespace TypeScript

/-- A number for a numeric field, and so on; in an object, what stands under the key of a field is
of the kind of the field. -/
inductive Literal.OfKind : Kind → Literal → Prop
  | unknown (shape : Shape) (l : Literal) : Literal.OfKind (.unknown shape) l
  | number (n : Number) : Literal.OfKind .numeric (.number n)
  | boolean (b : Bool) : Literal.OfKind .boolean (.bool b)
  | date (t : String) : Literal.OfKind .dateTime (.date t)
  | text (t : String) : Literal.OfKind .text (.text t)
  | object {s : Schema} {entries : List (PropertyKey × Literal)}
      (declared : ∀ e ∈ entries, ∃ f, (f, e.1) ∈ keyed s)
      (values : ∀ e ∈ entries, ∀ f, (f, e.1) ∈ keyed s → Literal.OfKind f.2.kind e.2) :
      Literal.OfKind (.object s) (.object entries)
  | objectArray {s : Schema} {items : List Literal}
      (values : ∀ l ∈ items, Literal.OfKind (.object s) l) :
      Literal.OfKind (.objectArray s) (.array items)

variable {s : Schema} {fields : List (String × Value)} {items : List Value}

/-! ### Objects and lists -/

/-- An entry for every field that is declared and not null. -/
theorem mem_modelledEntries {table : KeyTable} {key : PropertyKey} {l : Literal} :
    (key, l) ∈ modelledEntries table fields ↔ ∃ f ∈ fields, f.2.isNull = false ∧
      ∃ kind, table.lookup f.1 = some (key, kind) ∧ l = .ofModelled kind f.2 := by
  induction fields with
  | nil => simp [modelledEntries]
  | cons f rest ih =>
      obtain ⟨name, v⟩ := f
      rw [modelledEntries, List.exists_mem_cons_iff, ← ih]
      cases v.isNull with
      | true => simp
      | false =>
          cases table.lookup name with
          | none => simp
          | some entry => simp [Prod.ext_iff, eq_comm, and_assoc]

theorem modelledItems_eq (s : Schema) (items : List Value) :
    modelledItems (keyTable s) items = items.map (Literal.ofModelled (.object s)) := by
  induction items with
  | nil => rfl
  | cons v rest ih => cases v <;> simp [modelledItems, Literal.ofModelled, Literal.ofValue, ih]

theorem entryOmissions_eq (path : String) (table : KeyTable) (fields : List (String × Value)) :
    entryOmissions path table fields = fields.flatMap fun f =>
      if f.2.isNull then []
      else match table.lookup f.1 with
        | some (_, kind) => modelledOmissions (path ++ "." ++ f.1) kind f.2
        | none => [.contentOmitted (path ++ "." ++ f.1) .undeclared] := by
  induction fields with
  | nil => rfl
  | cons f rest ih =>
      obtain ⟨name, v⟩ := f
      rw [entryOmissions, List.flatMap_cons, ih]
      cases v.isNull with
      | true => simp
      | false => cases table.lookup name <;> simp

theorem itemOmissions_eq (path : String) (s : Schema) (items : List Value) :
    itemOmissions path (keyTable s) items =
      items.flatMap (modelledOmissions path (.object s)) := by
  induction items with
  | nil => rfl
  | cons v rest ih => cases v <;> simp [itemOmissions, modelledOmissions, ih]

/-- The kind at which the key table shows a field is that of the schema. -/
theorem lookup_eq_some_of_keyTable {name : String} {key : PropertyKey} {kind : Kind}
    (h : (keyTable s).lookup name = some (key, kind)) :
    ∃ p, s.lookup name = some p ∧ p.kind = kind := by
  have hkinds : (keyTable s).map (fun e => (e.1, e.2.2)) = s.map fun f => (f.1, f.2.kind) := by
    conv_rhs => rw [← map_fst_keyed s]
    rw [keyTable_eq, List.map_map, List.map_map]
    rfl
  have hlookup := congrArg (List.lookup name) hkinds
  rw [Fields.lookup_map (keyTable s) (fun e => e.2.2), Fields.lookup_map s (fun f => f.2.kind),
    h] at hlookup
  exact Option.map_eq_some_iff.mp hlookup.symm

theorem exists_keyTable_of_lookup {name : String} {p : Property} (h : s.lookup name = some p) :
    ∃ key, (keyTable s).lookup name = some (key, p.kind) := by
  cases hlookup : (keyTable s).lookup name with
  | none =>
      have hmem := Fields.mem_names_of_mem (Fields.mem_of_lookup h)
      exact absurd hmem (lookup_keyTable_eq_none.mp hlookup)
  | some entry =>
      obtain ⟨key, kind⟩ := entry
      obtain ⟨q, hq, rfl⟩ := lookup_eq_some_of_keyTable hlookup
      rw [h] at hq
      cases hq
      exact ⟨key, rfl⟩

theorem mem_keyed_of_keyTable {name : String} {key : PropertyKey} {kind : Kind}
    (h : (keyTable s).lookup name = some (key, kind)) :
    ∃ p, ((name, p), key) ∈ keyed s ∧ p.kind = kind := by
  have hmem := Fields.mem_of_lookup h
  rw [keyTable_eq] at hmem
  obtain ⟨⟨⟨_, p⟩, _⟩, hkeyed, heq⟩ := List.mem_map.mp hmem
  cases heq
  exact ⟨p, hkeyed, rfl⟩

/-! ### Kinds of literals -/

theorem ofKind_object_iff {entries : List (PropertyKey × Literal)} :
    Literal.OfKind (.object s) (.object entries) ↔
      (∀ e ∈ entries, ∃ f, (f, e.1) ∈ keyed s) ∧
        ∀ e ∈ entries, ∀ f, (f, e.1) ∈ keyed s → Literal.OfKind f.2.kind e.2 := by
  constructor
  · rintro (_ | _ | _ | _ | _ | ⟨declared, values⟩ | _)
    exact ⟨declared, values⟩
  · rintro ⟨declared, values⟩
    exact .object declared values

/-- The entries of a modelled object are of the kinds of their fields exactly if each value, by
itself, makes a literal of the kind of its field. -/
theorem ofKind_modelledEntries_iff :
    Literal.OfKind (.object s) (.object (modelledEntries (keyTable s) fields)) ↔
      ∀ f ∈ fields, f.2.isNull = false → ∀ p, s.lookup f.1 = some p →
        Literal.OfKind p.kind (.ofModelled p.kind f.2) := by
  rw [ofKind_object_iff]
  constructor
  · rintro ⟨-, values⟩ f hf hnull p hp
    obtain ⟨key, hkey⟩ := exists_keyTable_of_lookup hp
    obtain ⟨q, hq, hkind⟩ := mem_keyed_of_keyTable hkey
    have hentry : (key, Literal.ofModelled p.kind f.2) ∈ modelledEntries (keyTable s) fields :=
      mem_modelledEntries.mpr ⟨f, hf, hnull, p.kind, hkey, rfl⟩
    exact hkind ▸ values _ hentry _ hq
  · intro h
    refine ⟨?_, ?_⟩
    · rintro ⟨key, l⟩ he
      obtain ⟨f, -, -, kind, hkey, -⟩ := mem_modelledEntries.mp he
      obtain ⟨p, hp, -⟩ := mem_keyed_of_keyTable hkey
      exact ⟨_, hp⟩
    · rintro ⟨key, l⟩ he g hg
      obtain ⟨f, hf, hnull, kind, hkey, rfl⟩ := mem_modelledEntries.mp he
      obtain ⟨p, hp, rfl⟩ := mem_keyed_of_keyTable hkey
      obtain ⟨q, hq, hkind⟩ := lookup_eq_some_of_keyTable hkey
      have hgp : g = (f.1, p) := eq_of_key_text_eq hg hp rfl
      rw [hgp, ← hkind]
      exact h f hf hnull q hq

theorem fits_object_iff :
    Value.Fits (.object s) (.object fields) ↔
      ∀ f ∈ fields, f.2.isNull = false → ∀ p, s.lookup f.1 = some p → Value.Fits p.kind f.2 := by
  refine ⟨fun h => ?_, .object⟩
  cases h with
  | object values => exact values

theorem fits_objectArray_iff :
    Value.Fits (.objectArray s) (.array items) ↔ ∀ v ∈ items, Value.Fits (.object s) v := by
  refine ⟨fun h => ?_, .objectArray⟩
  cases h with
  | objectArray values => exact values

theorem ofKind_objectArray_iff {literals : List Literal} :
    Literal.OfKind (.objectArray s) (.array literals) ↔
      ∀ l ∈ literals, Literal.OfKind (.object s) l := by
  refine ⟨fun h => ?_, .objectArray⟩
  cases h with
  | objectArray values => exact values

/-- A value makes a literal of its kind exactly if it is of that kind as it stands. -/
theorem ofKind_ofModelled_iff (kind : Kind) (v : Value) :
    Literal.OfKind kind (.ofModelled kind v) ↔ v.Fits kind := by
  induction v using Value.induct generalizing kind with
  | object fields ih =>
      cases kind with
      | object s =>
          rw [Literal.ofModelled, ofKind_modelledEntries_iff, fits_object_iff]
          exact forall₂_congr fun f hf => forall_congr' fun _ => forall₂_congr fun p _ =>
            ih f hf p.kind
      | unknown shape => exact iff_of_true (.unknown shape _) (.unknown shape _)
      | _ => exact iff_of_false (by rintro ⟨⟩) (by rintro ⟨⟩)
  | array items ih =>
      cases kind with
      | objectArray s =>
          rw [Literal.ofModelled, modelledItems_eq, ofKind_objectArray_iff, fits_objectArray_iff,
            List.forall_mem_map]
          exact forall₂_congr fun v hv => ih v hv (.object s)
      | unknown shape => exact iff_of_true (.unknown shape _) (.unknown shape _)
      | _ => exact iff_of_false (by rintro ⟨⟩) (by rintro ⟨⟩)
  | text t =>
      cases kind with
      | dateTime =>
          rw [Literal.ofModelled]
          split
          · rename_i hinstant
            exact iff_of_true (.date _) (.dateTime hinstant)
          · rename_i hnone
            refine iff_of_false (by rintro ⟨⟩) fun h => ?_
            cases h with
            | dateTime h => exact hnone h
      | text => exact iff_of_true (.text t) (.text t)
      | unknown shape => exact iff_of_true (.unknown shape _) (.unknown shape _)
      | _ => exact iff_of_false (by rintro ⟨⟩) (by rintro ⟨⟩)
  | number n =>
      cases kind with
      | numeric => exact iff_of_true (.number n) (.number n)
      | unknown shape => exact iff_of_true (.unknown shape _) (.unknown shape _)
      | _ => exact iff_of_false (by rintro ⟨⟩) (by rintro ⟨⟩)
  | bool b =>
      cases kind with
      | boolean => exact iff_of_true (.boolean b) (.boolean b)
      | unknown shape => exact iff_of_true (.unknown shape _) (.unknown shape _)
      | _ => exact iff_of_false (by rintro ⟨⟩) (by rintro ⟨⟩)
  | null =>
      cases kind with
      | unknown shape => exact iff_of_true (.unknown shape _) (.unknown shape _)
      | _ => exact iff_of_false (by rintro ⟨⟩) (by rintro ⟨⟩)

/-! ### Texts -/

theorem valid_ofModelled (kind : Kind) (v : Value) : (Literal.ofModelled kind v).Valid := by
  induction v using Value.induct generalizing kind with
  | object fields ih =>
      cases kind with
      | object s =>
          rw [Literal.ofModelled]
          refine .object ?_ ?_
          · rintro ⟨key, l⟩ he
            obtain ⟨f, -, -, kind, hkey, -⟩ := mem_modelledEntries.mp he
            obtain ⟨p, hp, -⟩ := mem_keyed_of_keyTable hkey
            exact valid_of_mem_keyed hp
          · rintro ⟨key, l⟩ he
            obtain ⟨f, hf, -, kind, -, rfl⟩ := mem_modelledEntries.mp he
            exact ih f hf kind
      | _ => exact Literal.valid_ofValue (.object fields)
  | array items ih =>
      cases kind with
      | objectArray s =>
          rw [Literal.ofModelled, modelledItems_eq]
          exact .array (List.forall_mem_map.mpr fun v hv => ih v hv (.object s))
      | _ => exact Literal.valid_ofValue (.array items)
  | text t =>
      cases kind with
      | dateTime =>
          rw [Literal.ofModelled]
          split
          · exact .date _
          · exact .text t
      | _ => exact .text t
  | number n => exact .number n
  | bool b => exact .bool b
  | null => exact .null

/-! ### Reports -/

/-- Nothing but an undeclared field is ever reported. -/
theorem undeclared_of_mem_modelledOmissions {path : String} {kind : Kind} {v : Value}
    {d : Diagnostic} (h : d ∈ modelledOmissions path kind v) :
    ∃ field, d = .contentOmitted field .undeclared := by
  induction v using Value.induct generalizing path kind with
  | object fields ih =>
      cases kind with
      | object s =>
          rw [modelledOmissions, entryOmissions_eq, List.mem_flatMap] at h
          obtain ⟨f, hf, hd⟩ := h
          split at hd
          · cases hd
          · split at hd
            · exact ih f hf hd
            · exact ⟨_, List.mem_singleton.mp hd⟩
      | _ => cases h
  | array items ih =>
      cases kind with
      | objectArray s =>
          rw [modelledOmissions, itemOmissions_eq, List.mem_flatMap] at h
          obtain ⟨v, hv, hd⟩ := h
          exact ih v hv hd
      | _ => cases h
  | _ => cases h

/-! ### Cells -/

/-- The cell of a nested field holds the value as it is. -/
theorem eq_structured_of_fit {kind : Kind} {s : Schema} (hkind : kind.nested? = some s) {v : Value}
    {cell : Cell} (h : Cell.fit? kind v = some cell) : cell = .structured v := by
  cases kind with
  | object t =>
      cases v with
      | object fields => exact (Option.some.inj h).symm
      | _ => cases h
  | objectArray t =>
      cases v with
      | array items =>
          simp only [Cell.fit?, Option.ite_none_right_eq_some, Option.some.injEq] at h
          exact h.2.symm
      | _ => cases h
  | _ => cases hkind

/-- The literal of a nested cell, which is read back from its text, is of the kind of its field, down
to every declared field, exactly if the value fits that kind; whether it does or not, only
undeclared fields are reported. -/
theorem nested_literal_ofKind_iff {encoding : Encoding} {kind : Kind} {s : Schema}
    (hkind : kind.nested? = some s) {v : Value} {cell : Cell}
    (hcell : Cell.coerce encoding kind v = .ok (some cell)) (name : String) :
    cellLiteral? kind cell = some (.ofModelled kind v) ∧
    Expression.read (Literal.ofModelled kind v).write =
      some (.ofLiteral (.ofModelled kind v)) ∧
    (Literal.OfKind kind (.ofModelled kind v) ↔ v.Fits kind) ∧
    ∀ d ∈ cellOmissions name kind cell, ∃ field, d = .contentOmitted field .undeclared := by
  obtain rfl := eq_structured_of_fit hkind (Cell.coerce_eq_ok_some_iff.mp hcell).2
  refine ⟨?_, Literal.read_write (valid_ofModelled kind v), ofKind_ofModelled_iff kind v,
    fun d hd => ?_⟩
  · cases kind with
    | object t => rfl
    | objectArray t => rfl
    | _ => cases hkind
  · cases kind with
    | object t => exact undeclared_of_mem_modelledOmissions hd
    | objectArray t => exact undeclared_of_mem_modelledOmissions hd
    | _ => cases hkind

/-- Text in a nested numeric field is written as text, and nothing is reported. -/
theorem nested_literal_text_under_numeric :
    let kind : Kind := .object [("x", Property.ofKind .numeric "x")]
    let v : Value := .object [("x", .text "oops")]
    cellLiteral? kind (.structured v) = some (.object [(⟨"x", false⟩, .text "oops")]) ∧
      Expression.read "\x7b x: \"oops\" \x7d" = some (.object [(⟨"x", false⟩, .text "oops")]) ∧
      ¬ Literal.OfKind kind (.object [(⟨"x", false⟩, .text "oops")]) ∧
      cellOmissions "a" kind (.structured v) = [] := by
  intro kind v
  have hcell : Cell.coerce .structured kind v = .ok (some (.structured v)) := rfl
  obtain ⟨hliteral, hread, hiff, -⟩ :=
    nested_literal_ofKind_iff rfl hcell "a"
  have hwritten : Literal.ofModelled kind v = .object [(⟨"x", false⟩, .text "oops")] :=
    rfl
  have htext : (Literal.ofModelled kind v).write = "\x7b x: \"oops\" \x7d" := rfl
  have hmisfit : ¬ v.Fits kind := by
    intro h
    have hx := fits_object_iff.mp h _ List.mem_cons_self rfl _ rfl
    cases hx
  rw [htext] at hread
  rw [hwritten] at hliteral hiff
  exact ⟨hliteral, hread, mt hiff.mp hmisfit, rfl⟩

end TypeScript

end RowTypings
