import RowTypings.Proofs.Record.Coercion
import RowTypings.Proofs.Schema.Refinement

/-!
A row coerced against the schema of that row alone. The kind of a value was told by reading it, and
coercion reads it the same way: text makes the number, boolean or date that it was told to be, and
an object is carried as it is. A list is judged by its first item alone, so it is the one value that
may not fit the kind it gave.
-/

namespace RowTypings

namespace Cell

variable {encoding : Encoding} {kind : Kind} {v : Value}

/-- A list under the kind of lists of objects, with an item that is no object. -/
def hasStray : Kind → Value → Bool
  | .objectArray _, .array items => !items.all Value.isObject
  | _, _ => false

theorem hasStray_eq_true_iff :
    hasStray kind v = true ↔
      ∃ s items, kind = .objectArray s ∧ v = .array items ∧ ∃ w ∈ items, w.isObject = false := by
  constructor
  · intro h
    unfold hasStray at h
    split at h
    · rename_i s items
      refine ⟨s, items, rfl, rfl, ?_⟩
      simpa using h
    · cases h
  · rintro ⟨s, items, rfl, rfl, hw⟩
    simpa [hasStray] using hw

theorem hasStray_of_isUnknown (h : kind.isUnknown = true) (v : Value) :
    hasStray kind v = false := by
  cases kind with
  | unknown shape => rfl
  | _ => cases h

/-- In both encodings a list is shown by its type. -/
theorem coerce_of_hasStray (h : hasStray kind v = true) :
    kind.label = "object array" ∧ coerce encoding kind v = .error ⟨"array"⟩ := by
  obtain ⟨s, items, rfl, rfl, w, hw, hobject⟩ := hasStray_eq_true_iff.mp h
  have hall : ¬ items.all Value.isObject = true := by
    intro hall
    rw [List.all_eq_true.mp hall w hw] at hobject
    cases hobject
  have hfit : fit? (.objectArray s) (.array items) = none := if_neg hall
  have hsilent : isSilent (.objectArray s) (.array items) = false := rfl
  refine ⟨rfl, ?_⟩
  rw [coerce, hsilent, hfit]
  rfl

/-- Reading text again as what it was told to be. -/
theorem exists_fit_kindOfText (i : Inference) {t : String}
    (h : (i.kindOfText t).isUnknown = false) :
    ∃ c, fit? (i.kindOfText t) (.text t) = some c := by
  rcases i.kindOfText_cases t with
    ⟨-, hkind⟩ | ⟨-, ⟨n, hn, hkind⟩ | ⟨b, hb, hkind⟩ | ⟨instant, hinstant, hkind⟩ | hkind⟩
  · rw [hkind] at h
    cases h
  · exact ⟨.number n, by simp [hkind, fit?, hn]⟩
  · exact ⟨.boolean b, by simp [hkind, fit?, hb]⟩
  · exact ⟨.dateTime (Text.trim t) instant, by simp [hkind, fit?, hinstant]⟩
  · exact ⟨.text t, by rw [hkind]; rfl⟩

/-- A value fits the kind it gave, unless it is a list that only starts with an object. -/
theorem exists_fit_kindOf {i : Inference} {depth : Nat}
    (hknown : (i.kindOf depth v).isUnknown = false)
    (hstray : hasStray (i.kindOf depth v) v = false) : ∃ c, fit? (i.kindOf depth v) v = some c := by
  cases v with
  | null => cases hknown
  | bool b => exact ⟨.boolean b, rfl⟩
  | number n => exact ⟨.number n, rfl⟩
  | text t => exact exists_fit_kindOfText i hknown
  | object fields =>
      rcases i.kindOf_object_cases depth fields with hkind | ⟨-, -, hkind⟩
      · rw [hkind] at hknown
        cases hknown
      · rw [hkind]
        exact ⟨.structured (.object fields), rfl⟩
  | array items =>
      rcases i.kindOf_array_cases depth items with hkind | ⟨_, _, -, -, -, hkind⟩
      · rw [hkind] at hknown
        cases hknown
      · rw [hkind] at hstray ⊢
        have hall : items.all Value.isObject = true := by simpa [hasStray] using hstray
        exact ⟨.structured (.array items), if_pos hall⟩

/-- All that coercing a value under its own kind can give. -/
theorem coerce_kindOf (i : Inference) (v : Value) :
    (∃ c, (i.kindOf 0 v).isUnknown = false ∧ hasStray (i.kindOf 0 v) v = false ∧
      fit? (i.kindOf 0 v) v = some c ∧ coerce i.encoding (i.kindOf 0 v) v = .ok (some c)) ∨
    ((i.kindOf 0 v).isUnknown = true ∧ hasStray (i.kindOf 0 v) v = false ∧
      coerce i.encoding (i.kindOf 0 v) v = .ok none) ∨
    (hasStray (i.kindOf 0 v) v = true ∧ (i.kindOf 0 v).label = "object array" ∧
      coerce i.encoding (i.kindOf 0 v) v = .error ⟨"array"⟩) := by
  cases hknown : (i.kindOf 0 v).isUnknown with
  | true =>
      right; left
      have hsilent : isSilent (i.kindOf 0 v) v = true := isSilent_of_isUnknown hknown v
      exact ⟨rfl, hasStray_of_isUnknown hknown v, coerce_of_isSilent hsilent⟩
  | false =>
      cases hstray : hasStray (i.kindOf 0 v) v with
      | true =>
          right; right
          exact ⟨rfl, coerce_of_hasStray hstray⟩
      | false =>
          left
          obtain ⟨c, hc⟩ := exists_fit_kindOf hknown hstray
          have hsilent : isSilent (i.kindOf 0 v) v = false :=
            isSilent_eq_false hknown (Inference.isAbsent_eq_false hknown)
          exact ⟨c, rfl, rfl, hc, coerce_of_fit hsilent hc⟩

end Cell

namespace Record

/-- The row's value for the field is a list with an item that is no object, while the field is one
for lists of objects. -/
def straysAt (row : Row) (f : String × Property) : Bool :=
  (row.lookup f.1).any (Cell.hasStray f.2.kind)

variable {i : Inference} {row : Row} {f : String × Property}

/-- The row's value of a field of its own schema. -/
theorem exists_own_value (hrow : (Fields.names row).Nodup) (hf : f ∈ i.ofRow row) :
    ∃ v, (f.1, v) ∈ row ∧ row.lookup f.1 = some v ∧ f.2.kind = i.kindOf 0 v := by
  obtain ⟨v, hv, hp⟩ := Inference.mem_ofRow_iff.mp hf
  exact ⟨v, hv, Fields.lookup_of_mem hrow hv, by rw [hp]; rfl⟩

theorem name_cell?_own (hrow : (Fields.names row).Nodup) (hf : f ∈ i.ofRow row) :
    (cell? i.encoding row f).map Prod.fst =
      if !f.2.kind.isUnknown && !straysAt row f then some f.1 else none := by
  obtain ⟨v, -, hv, hkind⟩ := exists_own_value hrow hf
  rcases Cell.coerce_kindOf i v with
    ⟨c, hknown, hstray, -, hc⟩ | ⟨hknown, hstray, hc⟩ | ⟨hstray, -, hc⟩
  · simp [cell?, straysAt, hv, hkind, hknown, hstray, hc]
  · simp [cell?, straysAt, hv, hkind, hknown, hc]
  · simp [cell?, straysAt, hv, hkind, hstray, hc]

theorem misfit?_own (hrow : (Fields.names row).Nodup) (hf : f ∈ i.ofRow row) (identity : String)
    (index : Nat) :
    misfit? ⟨identity, i.encoding⟩ row index f =
      if straysAt row f then some (.coercion identity index f.1 "object array" "array")
      else none := by
  obtain ⟨v, -, hv, hkind⟩ := exists_own_value hrow hf
  rcases Cell.coerce_kindOf i v with
    ⟨c, -, hstray, -, hc⟩ | ⟨-, hstray, hc⟩ | ⟨hstray, hlabel, hc⟩
  · simp [misfit?, straysAt, hv, hkind, hstray, hc]
  · simp [misfit?, straysAt, hv, hkind, hstray, hc]
  · simp [misfit?, straysAt, hv, hkind, hstray, hlabel, hc]

theorem names_ofRow_own (hrow : (Fields.names row).Nodup) :
    Fields.names (ofRow i.encoding (i.ofRow row) row) =
      Schema.names ((i.ofRow row).filter fun f => !f.2.kind.isUnknown && !straysAt row f) := by
  rw [ofRow_eq, Fields.names, List.map_filterMap, Schema.names, ← List.filterMap_eq_map,
    List.filterMap_filter]
  exact List.filterMap_congr fun f hf => name_cell?_own hrow hf

theorem misfits_own (hrow : (Fields.names row).Nodup) (identity : String) (index : Nat) :
    misfits ⟨identity, i.encoding⟩ (i.ofRow row) row index =
      ((i.ofRow row).filter (straysAt row)).map fun f =>
        .coercion identity index f.1 "object array" "array" := by
  rw [misfits_eq, ← List.filterMap_eq_map, List.filterMap_filter]
  exact List.filterMap_congr fun f hf => misfit?_own hrow hf identity index

/-- A text of known kind has a cell in the record, of what reading it under that kind gives. -/
theorem exists_own_text_cell (hrow : (Fields.names row).Nodup) {name t : String}
    (ht : (name, .text t) ∈ row) (hknown : (i.kindOfText t).isUnknown = false) {α : Type}
    {read : Option α} {cell : α → Cell}
    (hfit : Cell.fit? (i.kindOfText t) (.text t) = read.map cell) :
    ∃ a, read = some a ∧ (name, cell a) ∈ ofRow i.encoding (i.ofRow row) row := by
  have hsilent : Cell.isSilent (i.kindOfText t) (.text t) = false :=
    Cell.isSilent_eq_false hknown (@Inference.isAbsent_eq_false i 0 _ hknown)
  obtain ⟨c, hc⟩ := Cell.exists_fit_kindOfText i hknown
  obtain ⟨a, ha, rfl⟩ := Option.map_eq_some_iff.mp (hfit.symm.trans hc)
  refine ⟨a, ha, mem_ofRow.mpr ⟨.ofKind (i.kindOfText t) name, .text t, ?_, ?_, ?_⟩⟩
  · exact Inference.mem_ofRow_iff.mpr ⟨.text t, ht, rfl⟩
  · exact Fields.lookup_of_mem hrow ht
  · exact Cell.coerce_of_fit hsilent hc

/-- A row against its own schema: the record has the fields of known kind, but for lists that stray
from the object they start with. Each of these is reported once, and nothing else is. Text has the
cell that it was told to be. -/
theorem own_row_coerces (i : Inference) {row : Row} (hrow : (Fields.names row).Nodup)
    (identity : String) (index : Nat) :
    let s := i.ofRows [row]
    let record := ofRow i.encoding s row
    s.names = Fields.names row ∧
    Fields.names record =
      Schema.names (s.filter fun f => !f.2.kind.isUnknown && !straysAt row f) ∧
    misfits ⟨identity, i.encoding⟩ s row index =
      ((s.filter (straysAt row)).map fun f =>
        .coercion identity index f.1 "object array" "array") ∧
    ∀ name t, (name, .text t) ∈ row →
      (i.kindOfText t = .numeric →
        ∃ n, Number.ofText? t = some n ∧ (name, .number n) ∈ record) ∧
      (i.kindOfText t = .boolean →
        ∃ b, booleanOfText? t = some b ∧ (name, .boolean b) ∈ record) ∧
      (i.kindOfText t = .dateTime →
        ∃ instant, Time.instant? t = some instant ∧
          (name, .dateTime (Text.trim t) instant) ∈ record) := by
  intro s record
  have hs : s = i.ofRow row := i.ofRows_singleton row
  have hrecord : record = ofRow i.encoding (i.ofRow row) row := by rw [← hs]
  rw [hs, hrecord]
  refine ⟨Inference.names_propertiesOf row, names_ofRow_own hrow,
    misfits_own hrow identity index, fun name t ht => ⟨?_, ?_, ?_⟩⟩
  all_goals
    intro hkind
    apply exists_own_text_cell hrow ht
    · rw [hkind]
      rfl
    · rw [hkind]
      rfl

/-- A number with blanks around it and a date are read back, a blank text has no cell, and a list
with a boolean behind its first object is reported. -/
theorem own_row_coerces_list_with_stray :
    let i : Inference := { encoding := .textual }
    let row : Row := [("n", .text " 12 "), ("day", .text "2024-02-29"), ("blank", .text " "),
      ("list", .array [.object [("x", .null)], .bool true])]
    Fields.names (ofRow .textual (i.ofRows [row]) row) = ["n", "day"] ∧
      misfits ⟨"rows", .textual⟩ (i.ofRows [row]) row 0 =
        [.coercion "rows" 0 "list" "object array" "array"] := by
  intro i row
  have hrow : (Fields.names row).Nodup := by decide
  obtain ⟨-, hnames, hmisfits, -⟩ := own_row_coerces i hrow "rows" 0
  constructor
  · refine hnames.trans ?_
    decide +kernel
  · refine hmisfits.trans ?_
    rfl

end Record

end RowTypings
