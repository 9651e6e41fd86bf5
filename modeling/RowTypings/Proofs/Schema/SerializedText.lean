import RowTypings.Proofs.Json.ReadValues
import RowTypings.Proofs.Schema.WellFormed
import RowTypings.Schema.Codec

/-!
Schemas read back from their JSON text. Every schema comes back from the value that stands for it,
with its fields in their order; and from the text of that value, as far as the reader goes into
objects around each other. What it goes into is enough for every schema that was read from a text.
-/

namespace RowTypings

namespace Schema

/-- The compact JSON text of a schema. -/
def text (s : Schema) : String := Json.compact s.toValue

/-- The schema that a JSON text describes. -/
def ofText? (text : String) : Option Schema :=
  match Json.read text with
  | .ok v => Schema.ofValue? v
  | .error _ => none

/-- No two fields of one name, neither at the top nor in any schema within. -/
inductive Keyed : Schema → Prop
  | intro {s : Schema} (names : s.names.Nodup)
      (inside : ∀ f ∈ s, ∀ t, f.2.kind.nested? = some t → Keyed t) : Keyed s

end Schema

open Schema (Keyed)

/-! ### Values that stand for schemas -/

theorem Schema.toFields_eq_map (s : Schema) :
    Schema.toFields s = s.map fun f => (f.1, Property.toValue f.2) := by
  induction s with
  | nil => rfl
  | cons f s ih => rw [Schema.toFields, ih, List.map_cons]; rfl

theorem Property.ofValue?_toValue {p : Property}
    (h : ∀ s, p.kind.nested? = some s → Schema.ofValue? s.toValue = some s) :
    Property.ofValue? p.toValue = some p := by
  obtain ⟨kind, description, required⟩ := p
  cases kind with
  | unknown shape => cases shape <;> rfl
  | object s =>
      have hs : Schema.ofValue? (.object (Schema.toFields s)) = some s := h s rfl
      simp [Property.toValue, Kind.toFields, Property.ofValue?, Property.ofFields?,
        Kind.ofFields?, Schema.schemasIn, List.lookup_cons, hs]
  | objectArray s =>
      have hs : Schema.ofValue? (.object (Schema.toFields s)) = some s := h s rfl
      simp [Property.toValue, Kind.toFields, Property.ofValue?, Property.ofFields?,
        Kind.ofFields?, Schema.schemasIn, List.lookup_cons, hs]
  | _ => rfl

theorem Schema.ofValue?_toValue_of {s : Schema}
    (h : ∀ f ∈ s, Property.ofValue? f.2.toValue = some f.2) :
    Schema.ofValue? s.toValue = some s := by
  rw [Schema.toValue, Schema.ofValue?, Schema.toFields_eq_map]
  induction s with
  | nil => rfl
  | cons f s ih =>
      obtain ⟨hf, hs⟩ := List.forall_mem_cons.mp h
      rw [List.map_cons, Schema.propertiesIn, hf, ih hs]

/-- Every schema is told from the value that stands for it, whatever its fields are called. -/
theorem Schema.ofValue?_toValue (s : Schema) : Schema.ofValue? s.toValue = some s := by
  have hkind (kind : Kind) : ∀ t, kind.nested? = some t → Schema.ofValue? t.toValue = some t := by
    induction kind using Kind.inductNested with
    | inner kind ih =>
        intro t ht
        exact Schema.ofValue?_toValue_of fun f hf => Property.ofValue?_toValue (ih t ht f hf)
  exact Schema.ofValue?_toValue_of fun f _ => Property.ofValue?_toValue (hkind f.2.kind)

/-! ### Their names, numbers and nesting -/

/-- A property nests as deep as the schema it carries, and once more. -/
theorem Property.nesting_toValue (p : Property) :
    p.toValue.nesting = p.kind.nested?.elim 0 (fun s => s.toValue.nesting) + 1 := by
  obtain ⟨kind, description, required⟩ := p
  cases kind with
  | object s =>
      simp [Property.toValue, Kind.toFields, Value.nesting, Value.fieldsNesting, Schema.toValue,
        Kind.nested?]
  | objectArray s =>
      simp [Property.toValue, Kind.toFields, Value.nesting, Value.fieldsNesting, Schema.toValue,
        Kind.nested?]
  | _ => rfl

theorem Schema.nesting_toValue_le_iff {s : Schema} {n : Nat} :
    s.toValue.nesting ≤ n + 1 ↔ ∀ f ∈ s, f.2.toValue.nesting ≤ n := by
  rw [Schema.toValue, Value.nesting, Nat.succ_le_succ_iff, Value.fieldsNesting_le_iff,
    Schema.toFields_eq_map, List.forall_mem_map]

/-- The keys of a property are distinct and none of its scalars is a number, so all depends on the
schema it carries. -/
theorem Property.keyed_toValue {p : Property}
    (h : ∀ s, p.kind.nested? = some s → s.toValue.Keyed ∧ s.toValue.WholeNumbers) :
    p.toValue.Keyed ∧ p.toValue.WholeNumbers := by
  obtain ⟨kind, description, required⟩ := p
  cases kind with
  | object s =>
      obtain ⟨hkeyed, hnumbers⟩ := h s rfl
      rw [Schema.toValue] at hkeyed hnumbers
      simp [Property.toValue, Kind.toFields, Value.Keyed, Value.WholeNumbers, Fields.names, hkeyed,
        hnumbers, -Prod.forall]
  | objectArray s =>
      obtain ⟨hkeyed, hnumbers⟩ := h s rfl
      rw [Schema.toValue] at hkeyed hnumbers
      simp [Property.toValue, Kind.toFields, Value.Keyed, Value.WholeNumbers, Fields.names, hkeyed,
        hnumbers, -Prod.forall]
  | _ =>
      simp [Property.toValue, Kind.toFields, Value.Keyed, Value.WholeNumbers, Fields.names,
        -Prod.forall]

theorem Schema.Keyed.toValue {s : Schema} (h : s.Keyed) :
    s.toValue.Keyed ∧ s.toValue.WholeNumbers := by
  induction h with
  | @intro s names inside ih =>
      have hfields : ∀ f ∈ s, f.2.toValue.Keyed ∧ f.2.toValue.WholeNumbers :=
        fun f hf => Property.keyed_toValue (ih f hf)
      rw [Schema.toValue, Value.Keyed, Value.WholeNumbers, Schema.toFields_eq_map,
        List.forall_mem_map, List.forall_mem_map, Fields.names, List.map_map]
      exact ⟨⟨names, fun f hf => (hfields f hf).1⟩, fun f hf => (hfields f hf).2⟩

/-! ### What is read as a schema -/

/-- The fields of a schema are those of the object it is read from, in their order. -/
theorem Schema.fields_of_propertiesIn {fields : List (String × Value)} {s : Schema}
    (h : Schema.propertiesIn fields = some s) :
    s.names = Fields.names fields ∧
      ∀ f ∈ s, ∃ v, (f.1, v) ∈ fields ∧ Property.ofValue? v = some f.2 := by
  induction fields generalizing s with
  | nil =>
      cases h
      exact ⟨rfl, by simp⟩
  | cons f rest ih =>
      obtain ⟨name, v⟩ := f
      rw [Schema.propertiesIn] at h
      split at h
      · rename_i p t hp ht
        cases h
        obtain ⟨hnames, hvalues⟩ := ih ht
        refine ⟨congrArg (List.cons name) hnames, List.forall_mem_cons.mpr ⟨?_, fun g hg => ?_⟩⟩
        · exact ⟨v, List.mem_cons_self, hp⟩
        · obtain ⟨w, hw, hread⟩ := hvalues g hg
          exact ⟨w, List.mem_cons_of_mem _ hw, hread⟩
      · cases h

theorem Schema.schemasIn_eq_map (fields : List (String × Value)) :
    Schema.schemasIn fields = fields.map fun f => (f.1, Schema.ofValue? f.2) := by
  induction fields with
  | nil => rfl
  | cons f rest ih => rw [Schema.schemasIn, ih, List.map_cons]

theorem Kind.lookup_model_of_ofFields? {fields : List (String × Value)}
    {schemas : List (String × Option Schema)} {kind : Kind}
    (h : Kind.ofFields? fields schemas = some kind) {t : Schema} (ht : kind.nested? = some t) :
    schemas.lookup "model" = some (some t) := by
  unfold Kind.ofFields? at h
  obtain ⟨tag, -, h⟩ := Option.bind_eq_some_iff.mp h
  split at h
  · obtain ⟨shape, -, h⟩ := Option.bind_eq_some_iff.mp h
    split at h
    · obtain ⟨shape, -, rfl⟩ := Option.map_eq_some_iff.mp h
      cases ht
    · cases h
  · cases h
    cases ht
  · cases h
    cases ht
  · cases h
    cases ht
  · cases h
    cases ht
  · obtain ⟨schema, hschema, h⟩ := Option.bind_eq_some_iff.mp h
    obtain ⟨s, rfl, rfl⟩ := Option.map_eq_some_iff.mp h
    cases ht
    exact hschema
  · obtain ⟨schema, hschema, h⟩ := Option.bind_eq_some_iff.mp h
    obtain ⟨s, rfl, rfl⟩ := Option.map_eq_some_iff.mp h
    cases ht
    exact hschema
  · cases h

/-- The schema inside a property is read from what its object has as `model`. -/
theorem Property.exists_model_of_ofFields? {fields : List (String × Value)} {p : Property}
    (h : Property.ofFields? fields (Schema.schemasIn fields) = some p) {t : Schema}
    (ht : p.kind.nested? = some t) :
    ∃ v, ("model", v) ∈ fields ∧ Schema.ofValue? v = some t := by
  unfold Property.ofFields? at h
  obtain ⟨kind, hkind, h⟩ := Option.bind_eq_some_iff.mp h
  obtain ⟨description, -, h⟩ := Option.bind_eq_some_iff.mp h
  obtain ⟨required, -, h⟩ := Option.bind_eq_some_iff.mp h
  split at h
  · cases h
    have hmodel := Kind.lookup_model_of_ofFields? hkind ht
    rw [Schema.schemasIn_eq_map, Fields.lookup_map fields fun f => Schema.ofValue? f.2] at hmodel
    obtain ⟨v, hv, hread⟩ := Option.map_eq_some_iff.mp hmodel
    exact ⟨v, Fields.mem_of_lookup hv, hread⟩
  · cases h

/-- What is read of a value names its fields once, and nests no deeper than the value when it is
written again. -/
theorem keyed_of_ofValue? {v : Value} (hv : v.Keyed) :
    (∀ s, Schema.ofValue? v = some s → s.Keyed ∧ s.toValue.nesting ≤ v.nesting) ∧
    (∀ p, Property.ofValue? v = some p →
      (∀ t, p.kind.nested? = some t → t.Keyed) ∧ p.toValue.nesting ≤ v.nesting) := by
  -- both at once, as a schema is read from properties and a property from a schema
  induction v using Value.induct with
  | object fields ih =>
      have hnesting : ∀ f ∈ fields, f.2.nesting ≤ Value.fieldsNesting fields :=
        Value.fieldsNesting_le_iff.mp (Nat.le_refl _)
      constructor
      · intro s h
        rw [Schema.ofValue?] at h
        obtain ⟨hnames, hvalues⟩ := Schema.fields_of_propertiesIn h
        have hproperty : ∀ f ∈ s, (∀ t, f.2.kind.nested? = some t → t.Keyed) ∧
            f.2.toValue.nesting ≤ Value.fieldsNesting fields := by
          intro f hf
          obtain ⟨w, hw, hread⟩ := hvalues f hf
          obtain ⟨hinside, hdepth⟩ := (ih _ hw (hv.field hw)).2 f.2 hread
          exact ⟨hinside, Nat.le_trans hdepth (hnesting _ hw)⟩
        constructor
        · exact .intro (hnames ▸ hv.names_nodup) fun f hf => (hproperty f hf).1
        · exact Schema.nesting_toValue_le_iff.mpr fun f hf => (hproperty f hf).2
      · intro p h
        rw [Property.ofValue?] at h
        have hschema : ∀ t, p.kind.nested? = some t →
            t.Keyed ∧ t.toValue.nesting ≤ Value.fieldsNesting fields := by
          intro t ht
          obtain ⟨w, hw, hread⟩ := Property.exists_model_of_ofFields? h ht
          obtain ⟨hkeyed, hdepth⟩ := (ih _ hw (hv.field hw)).1 t hread
          exact ⟨hkeyed, Nat.le_trans hdepth (hnesting _ hw)⟩
        refine ⟨fun t ht => (hschema t ht).1, ?_⟩
        rw [Property.nesting_toValue, Value.nesting]
        cases ht : p.kind.nested? with
        | none => exact Nat.succ_le_succ (Nat.zero_le _)
        | some t => exact Nat.succ_le_succ (hschema t ht).2
  | _ =>
      constructor
      · intro s h
        cases h
      · intro p h
        cases h

/-! ### Texts -/

namespace Schema

variable {s : Schema}

theorem ofText?_text (hs : s.Keyed) (hnesting : s.toValue.nesting ≤ Json.nestingLimit) :
    ofText? s.text = some s := by
  obtain ⟨hkeyed, hnumbers⟩ := hs.toValue
  rw [ofText?, text, Json.read_compact hkeyed hnumbers.numbersKept hnesting]
  exact ofValue?_toValue s

theorem tooDeep_text (hs : s.Keyed) (hnesting : Json.nestingLimit < s.toValue.nesting) :
    Json.TooDeep (Json.read s.text) := by
  obtain ⟨hkeyed, hnumbers⟩ := hs.toValue
  exact Json.tooDeep_compact hkeyed hnumbers.numbersKept hnesting

theorem keyed_of_ofText? {text : String} (h : ofText? text = some s) :
    s.Keyed ∧ s.toValue.nesting ≤ Json.nestingLimit := by
  unfold ofText? at h
  split at h
  · rename_i v hread
    obtain ⟨hv, hnesting⟩ := Json.keyed_of_read hread
    obtain ⟨hkeyed, hdepth⟩ := (keyed_of_ofValue? hv).1 s h
    exact ⟨hkeyed, Nat.le_trans hdepth hnesting⟩
  · cases h

/-- A schema is read back from its text as it was, as far as the text opens no more objects around
each other than the reader goes into; a schema that nests deeper is refused for that reason. What
was read from any text is read again from its own. -/
theorem serialized_text_reads_back :
    (∀ s : Schema, s.Keyed → s.toValue.nesting ≤ Json.nestingLimit → ofText? s.text = some s) ∧
    (∀ s : Schema, s.Keyed → Json.nestingLimit < s.toValue.nesting →
      Json.TooDeep (Json.read s.text)) ∧
    ∀ text s, ofText? text = some s → ofText? s.text = some s := by
  refine ⟨fun s hs => ofText?_text hs, fun s hs => tooDeep_text hs, fun text s h => ?_⟩
  obtain ⟨hs, hnesting⟩ := keyed_of_ofText? h
  exact ofText?_text hs hnesting

/-- So many schemas within each other, and an empty one in the innermost. -/
def tower : Nat → Schema
  | 0 => []
  | n + 1 => [("a", .ofKind (.object (tower n)) "a")]

theorem keyed_tower (n : Nat) : (tower n).Keyed := by
  induction n with
  | zero => exact .intro List.nodup_nil (by simp [tower])
  | succ n ih =>
      refine .intro (List.nodup_singleton _) fun f hf t ht => ?_
      obtain rfl := List.mem_singleton.mp hf
      obtain rfl := Option.some.inj ht
      exact ih

/-- Each schema opens two objects, its own and that of its field. -/
theorem nesting_tower (n : Nat) : (tower n).toValue.nesting = 2 * n + 1 := by
  induction n with
  | zero => rfl
  | succ n ih =>
      have hproperty := Property.nesting_toValue (.ofKind (.object (tower n)) "a")
      have hfields : toFields (tower (n + 1)) =
          [("a", Property.toValue (.ofKind (.object (tower n)) "a"))] := rfl
      rw [toValue, hfields, Value.nesting, Value.fieldsNesting, hproperty]
      simp only [Property.ofKind, Kind.nested?, Option.elim, ih, Value.fieldsNesting]
      omega

/-- Fields named like the keys of the format, a tower as high as the reader goes, one that is
higher, and a text with its keys in another order and one key more. -/
theorem serialized_text_reads_back_tower :
    let named : Schema := [("kind", ⟨.unknown .array, "model", true⟩),
      ("model", ⟨.objectArray [("shape", ⟨.text, "\"", false⟩)], "", false⟩)]
    let reordered := Json.compact (.object [("x", .object [("valueRequired", .bool true),
      ("kind", .text "text"), ("y", .array []), ("description", .text "")])])
    let ordered : Schema := [("x", ⟨.text, "", true⟩)]
    ofText? named.text = some named ∧ ofText? (tower 63).text = some (tower 63) ∧
      Json.TooDeep (Json.read (tower 64).text) ∧
      ofText? reordered = some ordered ∧ ofText? ordered.text = some ordered := by
  intro named reordered ordered
  obtain ⟨hread, hrefused, hagain⟩ := serialized_text_reads_back
  have hinner : Keyed [("shape", ⟨.text, "\"", false⟩)] := by
    refine .intro (by decide) fun f hf t ht => ?_
    obtain rfl := List.mem_singleton.mp hf
    cases ht
  have hnamed : named.Keyed := by
    refine .intro (by decide) ?_
    simp [named, Kind.nested?, hinner]
  have hreordered : ofText? reordered = some ordered := by
    have hread : Json.read reordered = .ok _ := Json.read_compact
      (by simp [Value.Keyed, Fields.names, -Prod.forall])
      (by simp [Value.NumbersKept, -Prod.forall]) (by decide)
    rw [ofText?, hread]
    rfl
  have hlow : (tower 63).toValue.nesting ≤ Json.nestingLimit := by
    rw [nesting_tower]
    decide
  have hhigh : Json.nestingLimit < (tower 64).toValue.nesting := by
    rw [nesting_tower]
    decide
  exact ⟨hread named hnamed (by decide), hread _ (keyed_tower 63) hlow,
    hrefused _ (keyed_tower 64) hhigh, hreordered, hagain reordered ordered hreordered⟩

/-- A tower of sixty-four schemas is written to a text that is not read back. -/
theorem tower_not_read_back :
    (tower 64).Keyed ∧ ofText? (tower 64).text ≠ some (tower 64) := by
  refine ⟨keyed_tower 64, fun h => ?_⟩
  obtain ⟨-, hnesting⟩ := keyed_of_ofText? h
  rw [nesting_tower] at hnesting
  revert hnesting
  decide

end Schema

end RowTypings
