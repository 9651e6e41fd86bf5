import RowTypings.Record.Coercion
import RowTypings.Proofs.Fields

/-!
Coercing a row field by field. A schema names each field once, so the outcome for a field decides
alone whether the record has a cell for it and whether a misfit is reported for it.
-/

namespace RowTypings

/-- A misfit in the field of that name of the row with that index. -/
def Diagnostic.concerns (row : Nat) (field : String) : Diagnostic → Bool
  | .coercion _ r f _ _ => r == row && f == field
  | _ => false

/-- The outcome for the field of that name, if schema and row both have it. -/
def coercion? (encoding : Encoding) (s : Schema) (row : Row) (name : String) :
    Option (Except Cell.Misfit (Option Cell)) :=
  (s.get? name).bind fun p => (row.lookup name).map fun v => Cell.coerce encoding p.kind v

namespace Cell

variable {encoding : Encoding} {kind : Kind} {v : Value}

theorem coerce_of_isSilent (h : isSilent kind v = true) : coerce encoding kind v = .ok none := by
  simp [coerce, h]

theorem coerce_eq_ok_some_iff {c : Cell} :
    coerce encoding kind v = .ok (some c) ↔ isSilent kind v = false ∧ fit? kind v = some c := by
  unfold coerce
  cases hsilent : isSilent kind v with
  | true => simp
  | false => cases hfit : fit? kind v <;> simp

theorem coerce_of_fit {c : Cell} (hsilent : isSilent kind v = false) (hfit : fit? kind v = some c) :
    coerce encoding kind v = .ok (some c) :=
  coerce_eq_ok_some_iff.mpr ⟨hsilent, hfit⟩

/-- Silence is about the absence of a value or of a kind, and about nothing else. -/
theorem isSilent_eq_false (hkind : kind.isUnknown = false) (hv : Inference.isAbsent v = false) :
    isSilent kind v = false := by
  cases v with
  | null => cases hv
  | text s =>
      have hs : Text.isBlankText s = false := hv
      simp [isSilent, hkind, hs]
  | bool b => exact hkind
  | number n => exact hkind
  | array items => exact hkind
  | object fields => exact hkind

theorem isSilent_of_isUnknown (hkind : kind.isUnknown = true) (v : Value) :
    isSilent kind v = true := by
  cases v <;> simp [isSilent, hkind]

end Cell

namespace Record

variable {encoding : Encoding} {s : Schema} {row : Row}

theorem mem_ofRow {name : String} {c : Cell} :
    (name, c) ∈ ofRow encoding s row ↔
      ∃ p v, (name, p) ∈ s ∧ row.lookup name = some v ∧
        Cell.coerce encoding p.kind v = .ok (some c) := by
  simp only [ofRow, coerceFields, List.mem_filterMap, Option.map_eq_some_iff]
  constructor
  · rintro ⟨_, ⟨⟨n, p⟩, hp, v, hv, rfl⟩, hc⟩
    dsimp only at hc
    split at hc
    · rename_i hok
      cases hc
      exact ⟨p, v, hp, hv, hok⟩
    · cases hc
  · rintro ⟨p, v, hp, hv, hc⟩
    exact ⟨_, ⟨(name, p), hp, v, hv, rfl⟩, by rw [hc]⟩

theorem names_ofRow_sublist : (Fields.names (ofRow encoding s row)).Sublist s.names := by
  rw [ofRow, coerceFields, List.filterMap_filterMap]
  refine Fields.map_filterMap_sublist (fun f e he => ?_) s
  obtain ⟨_, hv, he⟩ := Option.bind_eq_some_iff.mp he
  obtain ⟨v, -, rfl⟩ := Option.map_eq_some_iff.mp hv
  dsimp only at he
  split at he
  · cases he
    rfl
  · cases he

theorem coercion?_eq_some_iff (hs : s.names.Nodup) {name : String}
    {outcome : Except Cell.Misfit (Option Cell)} :
    coercion? encoding s row name = some outcome ↔
      ∃ p v, (name, p) ∈ s ∧ row.lookup name = some v ∧
        Cell.coerce encoding p.kind v = outcome := by
  simp only [coercion?, Schema.get?, Option.bind_eq_some_iff, Option.map_eq_some_iff]
  constructor
  · rintro ⟨p, hp, v, hv, rfl⟩
    exact ⟨p, v, Fields.mem_of_lookup hp, hv, rfl⟩
  · rintro ⟨p, v, hp, hv, rfl⟩
    exact ⟨p, (Fields.lookup_eq_some_iff hs).mpr hp, v, hv, rfl⟩

/-- The record has a cell for a field exactly if coercing the row's value gives one. -/
theorem lookup_ofRow_eq_some_iff (hs : s.names.Nodup) {name : String} {c : Cell} :
    (ofRow encoding s row).lookup name = some c ↔
      coercion? encoding s row name = some (.ok (some c)) := by
  rw [Fields.lookup_eq_some_iff (names_ofRow_sublist.nodup hs), mem_ofRow,
    coercion?_eq_some_iff hs]

/-- The cell that one field of a row gives the record. -/
def cell? (encoding : Encoding) (row : Row) (f : String × Property) : Option (String × Cell) :=
  match (row.lookup f.1).map (Cell.coerce encoding f.2.kind) with
  | some (.ok (some c)) => some (f.1, c)
  | _ => none

theorem ofRow_eq (encoding : Encoding) (s : Schema) (row : Row) :
    ofRow encoding s row = s.filterMap (cell? encoding row) := by
  rw [ofRow, coerceFields, List.filterMap_filterMap]
  refine List.filterMap_congr fun f _ => ?_
  obtain ⟨name, p⟩ := f
  cases hv : row.lookup name with
  | none => simp [cell?, hv]
  | some v => rcases hc : Cell.coerce encoding p.kind v with m | _ | c <;> simp [cell?, hv, hc]

theorem cell?_eq_some_iff {f : String × Property} {e : String × Cell} :
    cell? encoding row f = some e ↔ ∃ v, row.lookup f.1 = some v ∧ e.1 = f.1 ∧
      Cell.coerce encoding f.2.kind v = .ok (some e.2) := by
  obtain ⟨name, c⟩ := e
  unfold cell?
  constructor
  · intro h
    split at h
    · rename_i hc
      obtain ⟨v, hv, hc⟩ := Option.map_eq_some_iff.mp hc
      cases h
      exact ⟨v, hv, rfl, hc⟩
    · cases h
  · rintro ⟨v, hv, rfl, hc⟩
    rw [hv, Option.map_some, hc]

/-- Looking up a field of the schema in the record. -/
theorem lookup_ofRow_of_mem (hs : s.names.Nodup) {f : String × Property} (hf : f ∈ s) :
    (ofRow encoding s row).lookup f.1 = (cell? encoding row f).map Prod.snd := by
  refine Option.ext fun c => ?_
  rw [lookup_ofRow_eq_some_iff hs, coercion?_eq_some_iff hs, Option.map_eq_some_iff]
  constructor
  · rintro ⟨p, v, hp, hv, hc⟩
    obtain rfl : f.2 = p := Fields.eq_of_mem hs hf hp rfl
    exact ⟨(f.1, c), cell?_eq_some_iff.mpr ⟨v, hv, rfl, hc⟩, rfl⟩
  · rintro ⟨e, he, rfl⟩
    obtain ⟨v, hv, -, hc⟩ := cell?_eq_some_iff.mp he
    exact ⟨f.2, v, hf, hv, hc⟩

/-- What is reported about one field of a row. -/
def misfit? (origin : RowOrigin) (row : Row) (index : Nat) (f : String × Property) :
    Option Diagnostic :=
  match (row.lookup f.1).map (Cell.coerce origin.encoding f.2.kind) with
  | some (.error m) => some (.coercion origin.identity index f.1 f.2.kind.label m.found)
  | _ => none

theorem misfits_eq (origin : RowOrigin) (index : Nat) :
    misfits origin s row index = s.filterMap (misfit? origin row index) := by
  rw [misfits, coerceFields, List.filterMap_filterMap]
  refine List.filterMap_congr fun f _ => ?_
  obtain ⟨name, p⟩ := f
  cases hv : row.lookup name with
  | none => simp [misfit?, hv]
  | some v => cases hc : Cell.coerce origin.encoding p.kind v <;> simp [misfit?, hv, hc]

theorem concerns_misfit {origin : RowOrigin} {index : Nat} {f : String × Property}
    {d : Diagnostic} (h : misfit? origin row index f = some d) (name : String) :
    d.concerns index name = true ↔ f.1 = name := by
  unfold misfit? at h
  split at h
  · cases h
    simp [Diagnostic.concerns]
  · cases h

/-- A misfit is reported for a field, and once, exactly if coercing the row's value fails. -/
theorem countP_misfits (origin : RowOrigin) (hs : s.names.Nodup) (index : Nat) (name : String) :
    (misfits origin s row index).countP (Diagnostic.concerns index name) =
      match coercion? origin.encoding s row name with
      | some (.error _) => 1
      | _ => 0 := by
  rw [misfits_eq, Fields.countP_filterMap hs fun f d hd => concerns_misfit hd name]
  cases hp : s.lookup name with
  | none => simp [coercion?, Schema.get?, hp]
  | some p =>
      cases hv : row.lookup name with
      | none => simp [coercion?, Schema.get?, misfit?, hp, hv]
      | some v =>
          cases hc : Cell.coerce origin.encoding p.kind v <;>
            simp [coercion?, Schema.get?, misfit?, hp, hv, hc]

/-- Where a field is due, the record has its cell or one misfit is reported, never both. -/
theorem cell_or_misfit (origin : RowOrigin) (hs : s.names.Nodup) (index : Nat) {name : String}
    {p : Property} {v : Value} (hp : (name, p) ∈ s) (hv : row.lookup name = some v)
    (hdue : Cell.isSilent p.kind v = false) :
    (((ofRow origin.encoding s row).lookup name).isSome = true ∧
        (misfits origin s row index).countP (Diagnostic.concerns index name) = 0) ∨
      ((ofRow origin.encoding s row).lookup name = none ∧
        (misfits origin s row index).countP (Diagnostic.concerns index name) = 1) := by
  have houtcome : coercion? origin.encoding s row name =
      some (Cell.coerce origin.encoding p.kind v) :=
    (coercion?_eq_some_iff hs).mpr ⟨p, v, hp, hv, rfl⟩
  have hcount := @countP_misfits s row origin hs index name
  cases hfit : Cell.fit? p.kind v with
  | some c =>
      have hcell : Cell.coerce origin.encoding p.kind v = .ok (some c) :=
        Cell.coerce_of_fit hdue hfit
      rw [houtcome, hcell] at hcount
      left
      refine ⟨?_, hcount⟩
      rw [(lookup_ofRow_eq_some_iff hs).mpr (houtcome.trans (congrArg some hcell))]
      rfl
  | none =>
      have hmisfit : Cell.coerce origin.encoding p.kind v =
          .error ⟨Cell.showFound origin.encoding v⟩ := by
        simp [Cell.coerce, hdue, hfit]
      rw [houtcome, hmisfit] at hcount
      right
      refine ⟨Option.eq_none_iff_forall_ne_some.mpr fun c hc => ?_, hcount⟩
      rw [lookup_ofRow_eq_some_iff hs, houtcome, hmisfit] at hc
      cases hc

end Record

end RowTypings
