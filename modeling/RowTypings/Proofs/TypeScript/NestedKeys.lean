import RowTypings.Proofs.TypeScript.Conformance

/-!
Where the keys of a nested value go. Where a schema describes an object, each of its keys that is
not null has its entry, under the key that the block of the schema has for the same field, or is
reported as undeclared. Entries keep the order of the object, and reports are in the order of the
whole document, however deep a key lies.
-/

namespace RowTypings

namespace Value

/-! ### Keys in the order of the document -/

/-- A step into a value: to what stands under a key, or to an item of a list. -/
inductive Step where
  | key (name : String)
  | item (index : Nat)
  deriving DecidableEq

/-- A key within a value, with the steps that lead to its object. -/
structure KeyAt where
  steps : List Step
  name : String
  value : Value

def KeyAt.under (step : Step) (k : KeyAt) : KeyAt := { k with steps := step :: k.steps }

mutual

/-- Every key within a value, in the order of the document. -/
def keys : Value → List KeyAt
  | .object fields => fieldKeys fields
  | .array items => itemKeys 0 items
  | .null => []
  | .bool _ => []
  | .number _ => []
  | .text _ => []

def fieldKeys : List (String × Value) → List KeyAt
  | [] => []
  | (name, v) :: rest =>
    ⟨[], name, v⟩ :: ((keys v).map (KeyAt.under (.key name)) ++ fieldKeys rest)

def itemKeys (index : Nat) : List Value → List KeyAt
  | [] => []
  | v :: rest => (keys v).map (KeyAt.under (.item index)) ++ itemKeys (index + 1) rest

end

theorem steps_of_mem_fieldKeys {fields : List (String × Value)} {k : KeyAt}
    (h : k ∈ fieldKeys fields) : k.steps = [] ∨ ∃ name rest, k.steps = .key name :: rest := by
  induction fields with
  | nil => cases h
  | cons f rest ih =>
      obtain ⟨name, v⟩ := f
      rw [fieldKeys, List.mem_cons, List.mem_append, List.mem_map] at h
      rcases h with rfl | ⟨inner, -, rfl⟩ | h
      · exact .inl rfl
      · exact .inr ⟨name, inner.steps, rfl⟩
      · exact ih h

theorem steps_of_mem_itemKeys {items : List Value} {index : Nat} {k : KeyAt}
    (h : k ∈ itemKeys index items) : ∃ n rest, k.steps = .item n :: rest := by
  induction items generalizing index with
  | nil => cases h
  | cons v rest ih =>
      rw [itemKeys, List.mem_append, List.mem_map] at h
      rcases h with ⟨inner, -, rfl⟩ | h
      · exact ⟨index, inner.steps, rfl⟩
      · exact ih h

end Value

open Value (Step KeyAt)

/-- The kind of what stands after the steps, as far as there are schemas along them. -/
def Kind.after? : Kind → List Step → Option Kind
  | kind, [] => some kind
  | .object s, .key name :: rest => (s.lookup name).bind fun p => p.kind.after? rest
  | .objectArray s, .item _ :: rest => (Kind.object s).after? rest
  | _, _ :: _ => none

/-- Names behind dots; the items of a list are not counted. -/
def dottedPath (path : String) : List Step → String
  | [] => path
  | .key name :: rest => dottedPath (path ++ "." ++ name) rest
  | .item _ :: rest => dottedPath path rest

/-- What is to be reported of a key: that the schema of its object does not declare it. Nothing is
where there is no schema, or no value. -/
def Value.KeyAt.report? (path : String) (kind : Kind) (k : KeyAt) : Option Diagnostic :=
  match kind.after? k.steps with
  | some (.object s) =>
    if k.value.isNull || (Schema.get? s k.name).isSome then none
    else some (.contentOmitted (dottedPath path k.steps ++ "." ++ k.name) .undeclared)
  | _ => none

namespace TypeScript

/-! ### Reports -/

section Reports

variable {path : String} {kind : Kind} {s : Schema} {fields : List (String × Value)}
  {items : List Value}

theorem report?_under_key (path : String) (s : Schema) (name : String) (k : KeyAt) :
    (k.under (.key name)).report? path (.object s) =
      (s.lookup name).bind fun p => k.report? (path ++ "." ++ name) p.kind := by
  cases hp : s.lookup name with
  | none => simp [KeyAt.report?, KeyAt.under, Kind.after?, hp]
  | some p => simp [KeyAt.report?, KeyAt.under, Kind.after?, dottedPath, hp]

theorem report?_under_item (path : String) (s : Schema) (index : Nat) (k : KeyAt) :
    (k.under (.item index)).report? path (.objectArray s) = k.report? path (.object s) := rfl

/-- Nothing is reported within an object that is not described by a schema of objects. -/
theorem filterMap_fieldKeys_eq_nil (hkind : ∀ s, kind ≠ .object s) :
    (Value.fieldKeys fields).filterMap (KeyAt.report? path kind) = [] := by
  refine List.filterMap_eq_nil_iff.mpr fun k hk => ?_
  unfold KeyAt.report?
  rcases Value.steps_of_mem_fieldKeys hk with hsteps | ⟨name, rest, hsteps⟩
  · rw [hsteps, Kind.after?]
    split
    · rename_i s heq
      exact absurd (Option.some.inj heq) (hkind s)
    · rfl
  · rw [hsteps]
    cases kind with
    | object s => exact absurd rfl (hkind s)
    | _ => rfl

theorem filterMap_itemKeys_eq_nil (hkind : ∀ s, kind ≠ .objectArray s) (index : Nat) :
    (Value.itemKeys index items).filterMap (KeyAt.report? path kind) = [] := by
  refine List.filterMap_eq_nil_iff.mpr fun k hk => ?_
  obtain ⟨n, rest, hsteps⟩ := Value.steps_of_mem_itemKeys hk
  unfold KeyAt.report?
  rw [hsteps]
  cases kind with
  | objectArray s => exact absurd rfl (hkind s)
  | _ => rfl

theorem filterMap_fieldKeys (path : String) (s : Schema) (fields : List (String × Value)) :
    (Value.fieldKeys fields).filterMap (KeyAt.report? path (.object s)) =
      fields.flatMap fun f =>
        match s.lookup f.1 with
        | some p => f.2.keys.filterMap (KeyAt.report? (path ++ "." ++ f.1) p.kind)
        | none =>
          if f.2.isNull then [] else [.contentOmitted (path ++ "." ++ f.1) .undeclared] := by
  induction fields with
  | nil => rfl
  | cons f rest ih =>
      obtain ⟨name, v⟩ := f
      have hinside : ((Value.keys v).map (KeyAt.under (.key name))).filterMap
            (KeyAt.report? path (.object s)) =
          (Value.keys v).filterMap fun k =>
            (s.lookup name).bind fun p => k.report? (path ++ "." ++ name) p.kind := by
        rw [List.filterMap_map]
        exact List.filterMap_congr fun k _ => report?_under_key path s name k
      have hown : KeyAt.report? path (.object s) ⟨[], name, v⟩ =
          if v.isNull || (s.lookup name).isSome then none
          else some (.contentOmitted (path ++ "." ++ name) .undeclared) := rfl
      rw [Value.fieldKeys, List.filterMap_cons, hown, List.filterMap_append, hinside, ih,
        List.flatMap_cons]
      cases hp : s.lookup name with
      | none => cases hnull : v.isNull <;> simp
      | some p => simp

theorem filterMap_itemKeys (path : String) (s : Schema) (index : Nat) (items : List Value) :
    (Value.itemKeys index items).filterMap (KeyAt.report? path (.objectArray s)) =
      items.flatMap fun v => v.keys.filterMap (KeyAt.report? path (.object s)) := by
  induction items generalizing index with
  | nil => rfl
  | cons v rest ih =>
      have hinside : ((Value.keys v).map (KeyAt.under (.item index))).filterMap
            (KeyAt.report? path (.objectArray s)) =
          (Value.keys v).filterMap (KeyAt.report? path (.object s)) := by
        rw [List.filterMap_map]
        exact List.filterMap_congr fun k _ => report?_under_item path s index k
      rw [Value.itemKeys, List.filterMap_append, hinside, ih, List.flatMap_cons]

/-- The reports are those of the keys, one after the other through the whole document. -/
theorem modelledOmissions_eq_filterMap_keys (path : String) (kind : Kind) (v : Value) :
    modelledOmissions path kind v = v.keys.filterMap (KeyAt.report? path kind) := by
  induction v using Value.induct generalizing path kind with
  | object fields ih =>
      rw [Value.keys]
      cases kind with
      | object s =>
          rw [modelledOmissions, entryOmissions_eq, filterMap_fieldKeys]
          refine List.flatMap_congr fun f hf => ?_
          cases hnull : f.2.isNull with
          | true =>
              have hkeys : f.2.keys = [] := by
                cases hv : f.2 with
                | null => rfl
                | _ => simp [hv, Value.isNull] at hnull
              cases s.lookup f.1 <;> simp [hkeys]
          | false =>
              cases hp : s.lookup f.1 with
              | none =>
                  have hkey : (keyTable s).lookup f.1 = none :=
                    lookup_keyTable_eq_none.mpr (Fields.lookup_eq_none_iff.mp hp)
                  simp [hkey]
              | some p =>
                  obtain ⟨key, hkey⟩ := exists_keyTable_of_lookup hp
                  simp [hkey, ih f hf]
      | _ => exact (filterMap_fieldKeys_eq_nil fun s => by simp).symm
  | array items ih =>
      rw [Value.keys]
      cases kind with
      | objectArray s =>
          rw [modelledOmissions, itemOmissions_eq, filterMap_itemKeys]
          exact List.flatMap_congr fun v hv => ih v hv path (.object s)
      | _ => exact (filterMap_itemKeys_eq_nil (fun s => by simp) 0).symm
  | _ => rfl

end Reports

/-! ### Entries -/

/-- The line of the field, at its place among those of the schema's block, starts with the key,
whatever level the block stands at; and that is a key which can be read. -/
def BlockKey (s : Schema) (name : String) (key : PropertyKey) : Prop :=
  ∀ (settings : DeclarationSettings) (level : Nat), ∃ n line, s.position? name = some n ∧
    (writeMembers settings level (membersOf settings.maxDepth level s))[n]? =
      some (MemberLine.text settings.readonly line) ∧
    line.key = key ∧ key.Valid

/-- The fields of an object that are due in its literal: declared, and not null. -/
def dueFields (s : Schema) (fields : List (String × Value)) : List (String × Value) :=
  fields.filter fun f => !f.2.isNull && (s.lookup f.1).isSome

/-- The value is written after its kind: it is an object or a list whose objects a schema describes,
or the text of a date. -/
def isModelled : Kind → Value → Bool
  | .object _, .object _ => true
  | .objectArray _, .array _ => true
  | .dateTime, .text t => (Time.instant? t).isSome
  | _, _ => false

/-- The expression has all of a value that its kind declares: at every modelled level the fields
that are due and no others, once each, in the order of the object and under the keys of the block;
and what no schema describes, as it is shown. -/
inductive Expression.Keeps : Kind → Value → Expression → Prop
  | object {s : Schema} {fields : List (String × Value)}
      {entries : List (PropertyKey × Expression)}
      (once : (entries.map fun e => e.1.text).Nodup)
      (keys : List.Forall₂ (fun f e => BlockKey s f.1 e.1) (dueFields s fields) entries)
      (values : ∀ f e, (f, e) ∈ (dueFields s fields).zip entries → ∀ p, s.lookup f.1 = some p →
        Expression.Keeps p.kind f.2 e.2) :
      Expression.Keeps (.object s) (.object fields) (.object entries)
  | objectArray {s : Schema} {values : List Value} {items : List Expression}
      (length : items.length = values.length)
      (kept : ∀ v e, (v, e) ∈ values.zip items → Expression.Keeps (.object s) v e) :
      Expression.Keeps (.objectArray s) (.array values) (.array items)
  | date {t : String} (h : (Time.instant? t).isSome = true) :
      Expression.Keeps .dateTime (.text t) (.date (Text.trim t))
  | plain {kind : Kind} {v : Value} {e : Expression} (h : isModelled kind v = false)
      (shown : e.term = Term.ofValue v.shown) : Expression.Keeps kind v e

section Entries

variable {s : Schema} {fields : List (String × Value)}

theorem blockKey_of_keyTable {name : String} {key : PropertyKey} {kind : Kind}
    (h : (keyTable s).lookup name = some (key, kind)) : BlockKey s name key := by
  intro settings level
  obtain ⟨n, hn, hentry⟩ := Fields.exists_idxOf?_of_lookup h
  rw [names_keyTable] at hn
  rw [keyTable_eq, List.getElem?_map, Option.map_eq_some_iff] at hentry
  obtain ⟨⟨f, own⟩, hown, heq⟩ := hentry
  obtain rfl : own = key := congrArg (fun e => e.2.1) heq
  refine ⟨n, Member.line settings level
    (.ofProperty own f.2, memberType settings.maxDepth level f.2.kind), hn, ?_, rfl,
    valid_of_mem_keyed (List.mem_of_getElem? hown)⟩
  rw [writeMembers_eq_lines, membersOf_eq, List.getElem?_map, List.getElem?_map,
    List.getElem?_map, hown]
  rfl

/-- One pass over the fields of an object finds those that are due and makes their entries. -/
theorem forall₂_modelledEntries (s : Schema) (fields : List (String × Value)) :
    List.Forall₂ (fun f e => BlockKey s f.1 e.1 ∧
        ∀ p, s.lookup f.1 = some p → e.2 = .ofModelled p.kind f.2)
      (dueFields s fields) (modelledEntries (keyTable s) fields) := by
  induction fields with
  | nil => exact .nil
  | cons f rest ih =>
      obtain ⟨name, v⟩ := f
      rw [dueFields] at ih ⊢
      rw [modelledEntries]
      cases hnull : v.isNull with
      | true => simpa [hnull] using ih
      | false =>
          cases hp : s.lookup name with
          | none =>
              have hkey : (keyTable s).lookup name = none :=
                lookup_keyTable_eq_none.mpr (Fields.lookup_eq_none_iff.mp hp)
              simpa [hnull, hp, hkey] using ih
          | some p =>
              obtain ⟨key, hkey⟩ := exists_keyTable_of_lookup hp
              have hvalue : ∀ q, s.lookup name = some q →
                  Literal.ofModelled p.kind v = .ofModelled q.kind v := by
                intro q hq
                rw [Option.some.inj (hp.symm.trans hq)]
              simpa [hnull, hp, hkey] using
                And.intro (And.intro (blockKey_of_keyTable hkey) hvalue) ih

theorem keeps_ofValue {kind : Kind} {v : Value} (h : isModelled kind v = false) :
    Expression.Keeps kind v (.ofLiteral (.ofValue v)) :=
  .plain h (Literal.term_ofValue v)

theorem keeps_ofModelled (kind : Kind) {v : Value} (hv : v.Keyed) :
    Expression.Keeps kind v (.ofLiteral (.ofModelled kind v)) := by
  induction v using Value.induct generalizing kind with
  | object fields ih =>
      cases kind with
      | object s =>
          have hentries := forall₂_modelledEntries s fields
          rw [Literal.ofModelled, Expression.ofLiteral_object]
          refine .object ?_ ?_ ?_
          · rw [List.map_map]
            exact nodup_texts_modelledEntries hv.names_nodup
          · exact List.forall₂_map_right_iff.mpr (hentries.imp fun _ _ h => h.1)
          · intro f e hmem p hp
            rw [List.zip_map_right] at hmem
            obtain ⟨⟨g, l⟩, hzip, heq⟩ := List.mem_map.mp hmem
            cases heq
            have hf : g ∈ fields := List.mem_of_mem_filter (List.of_mem_zip hzip).1
            dsimp only
            rw [((List.forall₂_iff_zip.mp hentries).2 hzip).2 p hp]
            exact ih g hf p.kind (hv.field hf)
      | _ => exact keeps_ofValue rfl
  | array items ih =>
      cases kind with
      | objectArray s =>
          rw [Literal.ofModelled, modelledItems_eq, Expression.ofLiteral_array]
          refine .objectArray (by simp) fun v e hmem => ?_
          have hitems : List.Forall₂ (fun v e => e = .ofLiteral (.ofModelled (.object s) v)) items
              ((items.map (Literal.ofModelled (.object s))).map Expression.ofLiteral) := by
            rw [List.forall₂_map_right_iff, List.forall₂_map_right_iff, List.forall₂_same]
            exact fun v _ => rfl
          rw [(List.forall₂_iff_zip.mp hitems).2 hmem]
          have hitem : v ∈ items := (List.of_mem_zip hmem).1
          exact ih v hitem (.object s) (hv.item hitem)
      | _ => exact keeps_ofValue rfl
  | text t =>
      cases kind with
      | dateTime =>
          rw [Literal.ofModelled]
          split
          · rename_i hinstant
            exact .date hinstant
          · rename_i hnone
            exact keeps_ofValue (Bool.eq_false_iff.mpr hnone)
      | _ => exact keeps_ofValue rfl
  | _ => exact keeps_ofValue (by cases kind <;> rfl)

/-- A nested value loses nothing silently: what a schema declares is read back from the text of the
literal, at every level, and what it does not declare is reported, key by key in the order of the
document. -/
theorem nested_value_kept_or_reported (path : String) (kind : Kind) {v : Value} (hv : v.Keyed) :
    (∃ e, Expression.read (Literal.ofModelled kind v).write = some e ∧
      Expression.Keeps kind v e) ∧
    modelledOmissions path kind v = v.keys.filterMap (KeyAt.report? path kind) :=
  ⟨⟨_, Literal.read_write (valid_ofModelled kind v), keeps_ofModelled kind hv⟩,
    modelledOmissions_eq_filterMap_keys path kind v⟩

/-- Keys that collide, in another order than the schema's, with null and undeclared ones between. -/
theorem nested_value_kept_or_reported_lamps :
    let field (name : String) (kind : Kind) := (name, Property.ofKind kind name)
    let kind : Kind := .object [field "user name" .text, field "userName" .numeric,
      field "lamps" (.objectArray [field "on" .boolean])]
    let v : Value := .object [("userName", .number (.integer 7)), ("gone", .null),
      ("lamps", .array [.object [("off", .bool true), ("on", .null)],
        .object [("on", .bool true), ("off", .object [("x", .null)])]]),
      ("user name", .text "ada"), ("more", .bool true)]
    (Literal.ofModelled kind v).write =
        "\x7b userName2: 7, lamps: [\x7b\x7d, \x7b on: true \x7d], userName: \"ada\" \x7d" ∧
    Expression.Keeps kind v (.object [(⟨"userName2", false⟩, .number "7"),
      (⟨"lamps", false⟩, .array [.object [], .object [(⟨"on", false⟩, .bool true)]]),
      (⟨"userName", false⟩, .text "ada")]) ∧
    modelledOmissions "p" kind v = [.contentOmitted "p.lamps.off" .undeclared,
      .contentOmitted "p.lamps.off" .undeclared, .contentOmitted "p.more" .undeclared] := by
  intro field kind v
  have hkeyed : v.Keyed := by simp [v, Value.Keyed, Fields.names, -Prod.forall]
  obtain ⟨⟨e, hread, hkeeps⟩, hreports⟩ := nested_value_kept_or_reported "p" kind hkeyed
  have htext : (Literal.ofModelled kind v).write =
      "\x7b userName2: 7, lamps: [\x7b\x7d, \x7b on: true \x7d], userName: \"ada\" \x7d" := by
    decide +kernel
  have hexpression : Expression.read
      "\x7b userName2: 7, lamps: [\x7b\x7d, \x7b on: true \x7d], userName: \"ada\" \x7d" =
        some (.object [(⟨"userName2", false⟩, .number "7"),
          (⟨"lamps", false⟩, .array [.object [], .object [(⟨"on", false⟩, .bool true)]]),
          (⟨"userName", false⟩, .text "ada")]) := by cbv
  rw [htext, hexpression] at hread
  cases hread
  exact ⟨htext, hkeeps, hreports⟩

end Entries

end TypeScript

end RowTypings
