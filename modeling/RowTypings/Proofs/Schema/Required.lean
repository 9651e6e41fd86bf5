import Mathlib.Data.List.Induction
import RowTypings.Proofs.Record.Coercion
import RowTypings.Proofs.Schema.WellFormed

/-!
What a sample says about presence. A schema lists the names of its sampled rows as they first
appear, and a field is required exactly if the first row gives it a kind and every other sampled row
has a value for it. So a row of the sample never lacks a required field in silence: its record has
the cell, or one misfit tells why not.
-/

namespace RowTypings

/-- The field of that name always holds a value. -/
def Schema.Requires (s : Schema) (name : String) : Prop :=
  ∃ p, (name, p) ∈ s ∧ p.required = true

/-- The row has a value for the field that is neither null nor blank text. -/
def Row.Holds (row : Row) (name : String) : Prop :=
  ∃ v, row.lookup name = some v ∧ Inference.isAbsent v = false

namespace Inference

variable {i : Inference} {depth : Nat}

/-! ### Names -/

theorem eraseDups_eq_self {l : List String} (h : l.Nodup) : l.eraseDups = l := by
  induction l with
  | nil => rfl
  | cons a l ih =>
      obtain ⟨hnot, hl⟩ := List.nodup_cons.mp h
      have hkeep : l.filter (fun b => !b == a) = l := by
        refine List.filter_eq_self.mpr fun b hb => ?_
        have hne : b ≠ a := fun heq => hnot (heq ▸ hb)
        simp [hne]
      rw [List.eraseDups_cons, hkeep, ih hl]

/-- Rows folded into a schema add their names as these first appear. -/
theorem names_foldl_refine {s : Schema} (hs : Schema.WellFormed i.settings.maxDepth 0 s)
    {rows : List Row} (hrows : ∀ row ∈ rows, (Value.object row).Keyed) :
    (rows.foldl i.refine s).names = (s.names ++ rows.flatMap Fields.names).eraseDups := by
  -- from the right: the last row adds what is new to all names before it
  induction rows using List.reverseRecOn with
  | nil => simp [eraseDups_eq_self hs.nodup]
  | append_singleton rows row ih =>
      have hbefore := fun r hr => hrows r (List.mem_append_left _ hr)
      have hrow := (hrows row (by simp)).names_nodup
      have hfold : (rows.foldl i.refine s).names.Nodup :=
        (foldl_refineAt_wellFormed hs hbefore).nodup
      rw [List.foldl_concat, List.flatMap_append, List.flatMap_singleton, ← List.append_assoc,
        List.eraseDups_append, ← ih hbefore]
      change (i.refineAt 0 _ row).names = _
      have hadded : (Fields.names row).removeAll (s.names ++ rows.flatMap Fields.names) =
          (Fields.names row).filter fun name => name ∉ (rows.foldl i.refine s).names := by
        rw [ih hbefore, List.removeAll]
        refine List.filter_congr fun name _ => ?_
        rw [Bool.eq_iff_iff]
        simp
      rw [names_refineAt hrow hfold, hadded, eraseDups_eq_self (hrow.filter _)]

/-! ### Marks -/

theorem requires_refineAt {row : Row} (hrow : (Fields.names row).Nodup) {s : Schema}
    (hs : s.names.Nodup) {name : String} :
    Schema.Requires (i.refineAt depth s row) name ↔ s.Requires name ∧ row.Holds name := by
  unfold Schema.Requires
  constructor
  · rintro ⟨q, hq, hrequired⟩
    rcases (mem_refineAt hrow hs).mp hq with ⟨p, hp, rfl⟩ | ⟨v, -, -, rfl⟩
    · obtain ⟨hbefore, hholds⟩ := refinedBy_required.mp hrequired
      exact ⟨⟨p, hp, hbefore⟩, hholds⟩
    · cases hrequired
  · rintro ⟨⟨p, hp, hrequired⟩, hholds⟩
    refine ⟨i.refinedBy depth row (name, p), ?_, refinedBy_required.mpr ⟨hrequired, hholds⟩⟩
    exact (mem_refineAt hrow hs).mpr (.inl ⟨p, hp, rfl⟩)

theorem requires_foldl_refine {s : Schema} (hs : Schema.WellFormed i.settings.maxDepth 0 s)
    {rows : List Row} (hrows : ∀ row ∈ rows, (Value.object row).Keyed) {name : String} :
    Schema.Requires (rows.foldl i.refine s) name ↔
      s.Requires name ∧ ∀ row ∈ rows, row.Holds name := by
  induction rows generalizing s with
  | nil => simp
  | cons row rows ih =>
      obtain ⟨hrow, hrest⟩ := List.forall_mem_cons.mp hrows
      rw [List.forall_mem_cons, ← and_assoc, ← requires_refineAt hrow.names_nodup hs.nodup]
      exact ih (refineAt_wellFormed hrow hs) hrest

theorem requires_ofRow {row : Row} (hrow : (Fields.names row).Nodup) {name : String} :
    (i.ofRow row).Requires name ↔
      ∃ v, row.lookup name = some v ∧ (i.kindOf 0 v).isUnknown = false := by
  simp only [Schema.Requires, ofRow, propertiesOf_eq_map, List.mem_map, Prod.mk.injEq]
  constructor
  · rintro ⟨p, ⟨f, hf, rfl, rfl⟩, hrequired⟩
    exact ⟨f.2, Fields.lookup_of_mem hrow hf, by simpa [Property.ofKind] using hrequired⟩
  · rintro ⟨v, hv, hkind⟩
    exact ⟨_, ⟨(name, v), Fields.mem_of_lookup hv, rfl, rfl⟩, by simp [Property.ofKind, hkind]⟩

/-- The schema of sampled rows, as a fold from the first of them. -/
theorem ofRows_of_sample_eq_cons {rows : List Row} {first : Row} {later : List Row}
    (h : i.settings.sample rows = first :: later) :
    i.ofRows rows = later.foldl i.refine (i.ofRow first) := by
  simp only [ofRows, h]

theorem names_ofRows {rows : List Row} (hrows : ∀ row ∈ rows, (Value.object row).Keyed) :
    (i.ofRows rows).names = ((i.settings.sample rows).flatMap Fields.names).eraseDups := by
  have hsample := fun row hrow => hrows row (sample_subset i.settings rows hrow)
  cases h : i.settings.sample rows with
  | nil => simp only [ofRows, h]; rfl
  | cons first later =>
      rw [h] at hsample
      obtain ⟨hfirst, hlater⟩ := List.forall_mem_cons.mp hsample
      rw [ofRows_of_sample_eq_cons h, names_foldl_refine (ofRow_wellFormed hfirst) hlater,
        ofRow, names_propertiesOf, List.flatMap_cons]

theorem requires_ofRows {rows : List Row} (hrows : ∀ row ∈ rows, (Value.object row).Keyed)
    {name : String} :
    (i.ofRows rows).Requires name ↔ ∃ first later, i.settings.sample rows = first :: later ∧
      (∃ v, first.lookup name = some v ∧ (i.kindOf 0 v).isUnknown = false) ∧
      ∀ row ∈ later, row.Holds name := by
  have hsample := fun row hrow => hrows row (sample_subset i.settings rows hrow)
  cases h : i.settings.sample rows with
  | nil => simp [ofRows, h, Schema.Requires]
  | cons first later =>
      rw [h] at hsample
      obtain ⟨hfirst, hlater⟩ := List.forall_mem_cons.mp hsample
      rw [ofRows_of_sample_eq_cons h, requires_foldl_refine (ofRow_wellFormed hfirst) hlater,
        requires_ofRow hfirst.names_nodup]
      simp

/-- Every sampled row has a value for every required field. -/
theorem holds_of_requires {rows : List Row} (hrows : ∀ row ∈ rows, (Value.object row).Keyed)
    {name : String} (h : (i.ofRows rows).Requires name) {row : Row}
    (hrow : row ∈ i.settings.sample rows) : row.Holds name := by
  obtain ⟨first, later, hsample, ⟨v, hv, hkind⟩, hlater⟩ := (requires_ofRows hrows).mp h
  rw [hsample] at hrow
  rcases List.mem_cons.mp hrow with rfl | hrow
  · exact ⟨v, hv, isAbsent_eq_false hkind⟩
  · exact hlater row hrow

/-- Presence is exact: the names of the sample in the order they first appear, the required ones
among them those that the first row gives a kind and no later row lacks, and no row of a sample of
all rows that lacks the cell of a required field without one misfit saying so. -/
theorem requires_exactly_present_fields (i : Inference) {rows : List Row}
    (hrows : ∀ row ∈ rows, (Value.object row).Keyed) :
    (i.ofRows rows).names = ((i.settings.sample rows).flatMap Fields.names).eraseDups ∧
    (∀ name, (i.ofRows rows).Requires name ↔
      ∃ first later, i.settings.sample rows = first :: later ∧
        (∃ v, first.lookup name = some v ∧ (i.kindOf 0 v).isUnknown = false) ∧
        ∀ row ∈ later, row.Holds name) ∧
    (i.settings.sample rows = rows → ∀ (origin : RowOrigin) (index : Nat) (row : Row),
      rows[index]? = some row → ∀ name, (i.ofRows rows).Requires name →
        (((Record.ofRow origin.encoding (i.ofRows rows) row).lookup name).isSome = true ∧
          (Record.misfits origin (i.ofRows rows) row index).countP
            (Diagnostic.concerns index name) = 0) ∨
        ((Record.ofRow origin.encoding (i.ofRows rows) row).lookup name = none ∧
          (Record.misfits origin (i.ofRows rows) row index).countP
            (Diagnostic.concerns index name) = 1)) := by
  refine ⟨names_ofRows hrows, fun name => requires_ofRows hrows, ?_⟩
  intro hall origin index row hindex name hrequires
  have hwell : Schema.WellFormed i.settings.maxDepth 0 (i.ofRows rows) := ofRows_wellFormed hrows
  have hrow : row ∈ i.settings.sample rows := hall.symm ▸ List.mem_of_getElem? hindex
  obtain ⟨v, hv, habsent⟩ := holds_of_requires hrows hrequires hrow
  obtain ⟨p, hp, hrequired⟩ := hrequires
  have hdue : Cell.isSilent p.kind v = false :=
    Cell.isSilent_eq_false (hwell.isUnknown_eq_false hp hrequired) habsent
  exact Record.cell_or_misfit origin hwell.nodup index hp hv hdue

theorem requires_fields_of_two_rows :
    let i : Inference :=
      { settings := { refineRequired := true, sampleSize := 0 }, encoding := .structured }
    let rows : List Row :=
      [[("name", .bool true), ("paid", .bool true)],
        [("late", .bool false), ("paid", .bool false), ("name", .null)]]
    (i.ofRows rows).names = ["name", "paid", "late"] ∧ (i.ofRows rows).Requires "paid" ∧
      ¬ (i.ofRows rows).Requires "name" := by
  intro i rows
  have hkeyed : ∀ row ∈ rows, (Value.object row).Keyed := by
    simp [rows, Value.Keyed, Fields.names, -Prod.forall]
  obtain ⟨hnames, hrequires, -⟩ := requires_exactly_present_fields i hkeyed
  refine ⟨hnames.trans (by decide), (hrequires "paid").mpr ?_, fun h => ?_⟩
  · exact ⟨_, _, rfl, ⟨.bool true, rfl, rfl⟩,
      List.forall_mem_singleton.mpr ⟨.bool false, rfl, rfl⟩⟩
  · obtain ⟨first, later, hsample, -, hlater⟩ := (hrequires "name").mp h
    cases hsample
    obtain ⟨v, hv, habsent⟩ := hlater _ List.mem_cons_self
    cases hv
    cases habsent

end Inference

end RowTypings
