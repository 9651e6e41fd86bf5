import RowTypings.Proofs.Schema.Regular
import RowTypings.Proofs.Schema.Required

/-!
Sampling a row once more. At the top level a repeated row never changes anything: names, order,
marks and the sort of every kind stay. Inside nested schemas it may, unless the row is regular; then
repeating it changes nothing at all.
-/

namespace RowTypings

/-- A kind without what lies inside it. -/
def Kind.surface : Kind → Kind
  | .object _ => .object []
  | .objectArray _ => .objectArray []
  | kind => kind

def Property.surface (p : Property) : Property := { p with kind := p.kind.surface }

/-- The top level of a schema. -/
def Schema.surface (s : Schema) : Schema := s.map fun f => (f.1, Property.surface f.2)

namespace Inference

variable {i : Inference} {depth : Nat}

/-! ### Samples -/

theorem sample_eq_self {α : Type} {settings : InferenceSettings}
    (hrefine : settings.refineRequired = true) (hsize : settings.sampleSize = 0) (rows : List α) :
    settings.sample rows = rows := by
  simp [InferenceSettings.sample, hrefine, hsize]

/-- Where all rows are sampled, one more row is folded into what the others gave. -/
theorem ofRows_append_singleton (hall : ∀ rows : List Row, i.settings.sample rows = rows)
    {rows : List Row} (hne : rows ≠ []) (row : Row) :
    i.ofRows (rows ++ [row]) = i.refineAt 0 (i.ofRows rows) row := by
  cases rows with
  | nil => exact absurd rfl hne
  | cons first later =>
      have hlonger : i.settings.sample (first :: later ++ [row]) = first :: (later ++ [row]) :=
        hall _
      rw [ofRows_of_sample_eq_cons (hall (first :: later)), ofRows_of_sample_eq_cons hlonger,
        List.foldl_concat]
      rfl

/-- Every field of the row that has a kind of its own has one in the schema. -/
def Typed (i : Inference) (depth : Nat) (s : Schema) (row : Row) : Prop :=
  ∀ f ∈ row, (i.kindOf depth f.2).isUnknown = false →
    ∃ p, (f.1, p) ∈ s ∧ p.kind.isUnknown = false

theorem typed_propertiesOf (row : Row) : i.Typed depth (i.propertiesOf depth row) row := by
  intro f hf hkind
  refine ⟨Property.ofKind (i.kindOf depth f.2) f.1, ?_, hkind⟩
  rw [propertiesOf_eq_map]
  exact List.mem_map_of_mem hf

theorem typed_refineAt {row : Row} (hrow : (Fields.names row).Nodup) {s : Schema}
    (hs : s.names.Nodup) : i.Typed depth (i.refineAt depth s row) row := by
  rintro ⟨name, v⟩ hf hkind
  by_cases hname : name ∈ s.names
  · obtain ⟨p, hp⟩ := Fields.exists_mem_of_mem_names hname
    refine ⟨i.refinedBy depth row (name, p), (mem_refineAt hrow hs).mpr (.inl ⟨p, hp, rfl⟩), ?_⟩
    cases hknown : p.kind.isUnknown with
    | false => exact refinedBy_isUnknown hknown
    | true =>
        rw [refinedBy_eq, Fields.lookup_of_mem hrow hf]
        change (i.refineProperty depth v p).kind.isUnknown = false
        rw [refineProperty_of_isUnknown (isAbsent_eq_false hkind) hknown, typedLate, if_neg]
        · exact hkind
        · rw [hkind]
          exact Bool.false_ne_true
  · exact ⟨i.addedBy depth (name, v), (mem_refineAt hrow hs).mpr (.inr ⟨v, hf, hname, rfl⟩), hkind⟩

theorem Typed.refineAt {row other : Row} (hother : (Fields.names other).Nodup) {s : Schema}
    (hs : s.names.Nodup) (h : i.Typed depth s row) :
    i.Typed depth (i.refineAt depth s other) row := by
  intro f hf hkind
  obtain ⟨p, hp, hknown⟩ := h f hf hkind
  exact ⟨i.refinedBy depth other (f.1, p), (mem_refineAt hother hs).mpr (.inl ⟨p, hp, rfl⟩),
    refinedBy_isUnknown hknown⟩

theorem Typed.foldl_refineAt {row : Row} {others : List Row}
    (hothers : ∀ r ∈ others, (Value.object r).Keyed) {s : Schema}
    (hs : Schema.WellFormed i.settings.maxDepth depth s) (h : i.Typed depth s row) :
    i.Typed depth (others.foldl (i.refineAt depth) s) row := by
  induction others generalizing s with
  | nil => exact h
  | cons other rest ih =>
      obtain ⟨hother, hrest⟩ := List.forall_mem_cons.mp hothers
      exact ih hrest (refineAt_wellFormed hother hs) (h.refineAt hother.names_nodup hs.nodup)

theorem typed_ofRows {rows : List Row} (hrows : ∀ row ∈ rows, (Value.object row).Keyed) {row : Row}
    (hrow : row ∈ i.settings.sample rows) : i.Typed 0 (i.ofRows rows) row := by
  have hsample := fun row hrow => hrows row (sample_subset i.settings rows hrow)
  cases h : i.settings.sample rows with
  | nil => simp [h] at hrow
  | cons first later =>
      rw [h] at hsample hrow
      obtain ⟨hfirst, hlater⟩ := List.forall_mem_cons.mp hsample
      have hwell := ofRow_wellFormed (i := i) hfirst
      rw [ofRows_of_sample_eq_cons h]
      rcases List.mem_cons.mp hrow with rfl | hmem
      · exact (typed_propertiesOf row).foldl_refineAt hlater hwell
      · obtain ⟨before, after, rfl⟩ := List.append_of_mem hmem
        have hbefore : Schema.WellFormed i.settings.maxDepth 0
            (before.foldl (i.refineAt 0) (i.ofRow first)) :=
          foldl_refineAt_wellFormed hwell fun r hr => hlater r (List.mem_append_left _ hr)
        have hmid : (Value.object row).Keyed := hlater row hmem
        change i.Typed 0 ((before ++ row :: after).foldl (i.refineAt 0) (i.ofRow first)) row
        rw [List.foldl_append, List.foldl_cons]
        exact (typed_refineAt hmid.names_nodup hbefore.nodup).foldl_refineAt
          (fun r hr => hlater r (List.mem_append_right _ (List.mem_cons_of_mem _ hr)))
          (refineAt_wellFormed hmid hbefore)

theorem refinedBy_surface {row : Row} {f : String × Property}
    (hrequired : f.2.required = true → row.Holds f.1)
    (hknown : ∀ v, row.lookup f.1 = some v → (i.kindOf depth v).isUnknown = false →
      f.2.kind.isUnknown = false) :
    Property.surface (i.refinedBy depth row f) = Property.surface f.2 := by
  have hmark : (i.refinedBy depth row f).required = f.2.required := by
    rw [Bool.eq_iff_iff, refinedBy_required]
    exact ⟨And.left, fun h => ⟨h, hrequired h⟩⟩
  have hsort : (i.refinedBy depth row f).kind.surface = f.2.kind.surface := by
    unfold refinedBy
    cases hlookup : row.lookup f.1 with
    | none => rfl
    | some v =>
        rcases refineProperty_cases i depth v f.2 with
          ⟨-, heq⟩ | ⟨-, hunknown, heq⟩ | ⟨_, s, rfl, hs, heq⟩ | ⟨_, s, rfl, hs, heq⟩ |
          ⟨-, -, heq⟩
        · simp only [heq, Property.optional]
        · have hv : (i.kindOf depth v).isUnknown = true := by
            by_contra hv
            rw [hknown v hlookup (Bool.eq_false_iff.mpr hv)] at hunknown
            cases hunknown
          simp only [heq, typedLate, if_pos hv]
        · simp only [heq, hs, Kind.surface]
        · simp only [heq, hs, Kind.surface]
        · simp only [heq]
  rw [Property.surface, hmark, hsort, refinedBy_description]
  rfl

/-- Folding a sampled row in again leaves the surface as it was. -/
theorem surface_refineAt_ofRows {rows : List Row}
    (hrows : ∀ row ∈ rows, (Value.object row).Keyed) {row : Row}
    (hrow : row ∈ i.settings.sample rows) :
    Schema.surface (i.refineAt 0 (i.ofRows rows) row) = Schema.surface (i.ofRows rows) := by
  have hwell : Schema.WellFormed i.settings.maxDepth 0 (i.ofRows rows) := ofRows_wellFormed hrows
  have hkeyed := hrows row (sample_subset i.settings rows hrow)
  have hnone : (row.filter fun f => f.1 ∉ Schema.names (i.ofRows rows)) = [] := by
    refine List.filter_eq_nil_iff.mpr fun f hf => ?_
    rw [decide_eq_true_eq, not_not, names_ofRows hrows, List.mem_eraseDups, List.mem_flatMap]
    exact ⟨row, hrow, Fields.mem_names_of_mem hf⟩
  rw [refineAt_eq hkeyed.names_nodup hwell.nodup, hnone, List.map_nil, List.append_nil,
    Schema.surface, List.map_map]
  refine List.map_congr_left fun f hf => ?_
  refine congrArg (Prod.mk f.1) (refinedBy_surface ?_ ?_)
  · exact fun hrequired => holds_of_requires hrows ⟨f.2, hf, hrequired⟩ hrow
  · intro v hv hkind
    obtain ⟨q, hq, hknown⟩ := typed_ofRows hrows hrow (f.1, v) (Fields.mem_of_lookup hv) hkind
    rwa [Fields.eq_of_mem hwell.nodup hf hq rfl]

/-- Folding a regular row of the sample in again changes nothing. -/
theorem refineAt_ofRows {rows : List Row} (hrows : ∀ row ∈ rows, (Value.object row).Keyed)
    {row : Row} (hrow : row ∈ i.settings.sample rows) (hregular : ∀ f ∈ row, Regular i 0 f.2) :
    i.refineAt 0 (i.ofRows rows) row = i.ofRows rows := by
  have hsample := fun row hrow => hrows row (sample_subset i.settings rows hrow)
  have hkeyed := hsample row hrow
  cases h : i.settings.sample rows with
  | nil => simp [h] at hrow
  | cons first later =>
      rw [h] at hsample hrow
      obtain ⟨hfirst, hlater⟩ := List.forall_mem_cons.mp hsample
      rw [ofRows_of_sample_eq_cons h]
      rcases List.mem_cons.mp hrow with rfl | hmem
      · refine foldl_refineAt_keep hfirst hregular hlater (ofRow_wellFormed hfirst) ?_
        exact refineAt_propertiesOf_of hfirst.names_nodup
          fun f hf _ => refineProperty_kindOf (hfirst.field hf) (hregular f hf)
      · exact refineAt_foldl_of_mem hlater hmem hregular (ofRow_wellFormed hfirst)
          fun _ => refineAt_refineAt hkeyed hregular

/-- Sampling a row once more changes nothing on the surface, and nothing at all if the row is
regular. -/
theorem ofRows_append_repeated (i : Inference) (hrefine : i.settings.refineRequired = true)
    (hsize : i.settings.sampleSize = 0) {rows : List Row}
    (hrows : ∀ row ∈ rows, (Value.object row).Keyed) {row : Row} (hrow : row ∈ rows) :
    Schema.surface (i.ofRows (rows ++ [row])) = Schema.surface (i.ofRows rows) ∧
    ((∀ f ∈ row, Regular i 0 f.2) → i.ofRows (rows ++ [row]) = i.ofRows rows) := by
  have hall : ∀ rows : List Row, i.settings.sample rows = rows := sample_eq_self hrefine hsize
  have hsampled : row ∈ i.settings.sample rows := (hall rows).symm ▸ hrow
  rw [ofRows_append_singleton hall (List.ne_nil_of_mem hrow)]
  exact ⟨surface_refineAt_ofRows hrows hsampled, refineAt_ofRows hrows hsampled⟩

theorem ofRows_append_repeated_list :
    let i : Inference :=
      { settings := { refineRequired := true, sampleSize := 0 }, encoding := .structured }
    let row : Row :=
      [("a", .array [.object [("x", .bool true)], .null, .object [("x", .bool false)]])]
    let other : Row := [("a", .array [.object [("y", .bool true)]])]
    i.ofRows ([row, other] ++ [row]) = i.ofRows [row, other] := by
  intro i row other
  have hkeyed : ∀ r ∈ [row, other], (Value.object r).Keyed := by
    simp [row, other, Value.Keyed, Fields.names]
  have hregular : ∀ f ∈ row, Regular i 0 f.2 := by
    have hfields : ∀ b, i.refineAt 1 (i.propertiesOf 1 [("x", .bool true)]) [("x", .bool b)] =
        i.propertiesOf 1 [("x", .bool true)] := fun _ => rfl
    simp [row, Regular, kindOf, kindOfItems, hfields]
  exact (ofRows_append_repeated i rfl rfl hkeyed (List.mem_cons_self (a := row))).2 hregular

/-- Without regularity the inside of a field may change: by a list whose later object has other
fields than its first, and by an empty object once another row has told what is in it. -/
theorem ofRows_append_irregular_ne :
    let i : Inference :=
      { settings := { refineRequired := true, sampleSize := 0 }, encoding := .structured }
    let uneven : Row := [("a", .array [.object [("x", .bool true)], .object [("y", .bool true)]])]
    let empty : Row := [("a", .object [])]
    let filled : Row := [("a", .object [("x", .bool true)])]
    i.ofRows ([uneven] ++ [uneven]) ≠ i.ofRows [uneven] ∧
      i.ofRows ([empty, filled] ++ [empty]) ≠ i.ofRows [empty, filled] := by
  constructor
  · intro h
    have hfields := congrArg (fun s => (Schema.stats s 0).fieldsDiscovered) h
    revert hfields
    decide
  · intro h
    have hmarks := congrArg (fun s => (Schema.stats s 0).optionalFields) h
    revert hmarks
    decide

end Inference

end RowTypings
