import RowTypings.Proofs.Schema.Depth

/-!
What the counts of a schema count. They are counts over one list, that of all fields at all depths,
so the fields of known kind and those of unknown kind make up all of them; and the deepest schema
told is the deepest there is. An inferred schema keeps unknown fields optional at every depth and
has no schema inside it below the limit, and its counts show it.
-/

namespace RowTypings

mutual

/-- All fields of the schema inside a field of this kind. -/
def Kind.fieldsInside : Kind → List (String × Property)
  | .object s => Schema.allFields s
  | .objectArray s => Schema.allFields s
  | .unknown _ => []
  | .numeric => []
  | .boolean => []
  | .dateTime => []
  | .text => []

/-- The fields of a schema at all depths, each followed by those inside it. -/
def Schema.allFields : List (String × Described Kind) → List (String × Property)
  | [] => []
  | (name, ⟨kind, description, required⟩) :: rest =>
    (name, ⟨kind, description, required⟩) :: (kind.fieldsInside ++ Schema.allFields rest)

end

/-- The numbers of fields, of unknown ones and of optional ones are those of the list. -/
structure Stats.Count (stats : Stats) (fields : List (String × Property)) : Prop where
  fieldsDiscovered : stats.fieldsDiscovered = fields.length
  unknownFields : stats.unknownFields = fields.countP fun f => f.2.kind.isUnknown
  optionalFields : stats.optionalFields = fields.countP fun f => !f.2.required

/-- To prove something of every schema, add one field to it after the other: what is to be proved
holds of the schema inside the field, if there is one. -/
@[elab_as_elim]
theorem Schema.inductFields {P : Schema → Prop} (nil : P [])
    (cons : ∀ (f : String × Property) (s : Schema), (∀ t, f.2.kind.nested? = some t → P t) → P s →
      P (f :: s)) (s : Schema) : P s := by
  have hinside (kind : Kind) : ∀ t, kind.nested? = some t → P t := by
    induction kind using Kind.inductNested with
    | inner kind ih =>
        intro t ht
        have hfields := ih t ht
        clear ht
        induction t with
        | nil => exact nil
        | cons f t iht =>
            obtain ⟨hf, hlater⟩ := List.forall_mem_cons.mp hfields
            exact cons f t hf (iht hlater)
  exact hinside (.object s) s rfl

variable {depth limit k : Nat} {s : Schema} {f g : String × Property}

/-! ### All fields -/

theorem Kind.fieldsInside_eq (kind : Kind) :
    kind.fieldsInside = kind.nested?.elim [] Schema.allFields := by
  cases kind <;> rfl

theorem Kind.nestedStats_eq (kind : Kind) :
    kind.nestedStats depth = kind.nested?.elim {} (Schema.fieldStats (depth + 1)) := by
  cases kind <;> rfl

theorem Kind.typedFieldCount_eq (kind : Kind) :
    kind.typedFieldCount =
      kind.nested?.elim 0 Schema.typedFieldCount + if !kind.isUnknown then 1 else 0 := by
  cases kind with
  | object s => exact Nat.add_comm 1 _
  | objectArray s => exact Nat.add_comm 1 _
  | _ => rfl

namespace Schema

theorem mem_allFields_cons :
    g ∈ allFields (f :: s) ↔
      g = f ∨ (∃ t, f.2.kind.nested? = some t ∧ g ∈ allFields t) ∨ g ∈ allFields s := by
  rw [show allFields (f :: s) = f :: (f.2.kind.fieldsInside ++ allFields s) from rfl,
    List.mem_cons, List.mem_append, Kind.fieldsInside_eq]
  cases f.2.kind.nested? <;> simp

theorem mem_fieldsAt_cons :
    g ∈ fieldsAt k (f :: s) ↔
      (k = 0 ∧ g = f) ∨ (∃ j t, k = j + 1 ∧ f.2.kind.nested? = some t ∧ g ∈ fieldsAt j t) ∨
        g ∈ fieldsAt k s := by
  cases k with
  | zero => simp [fieldsAt]
  | succ j =>
      rw [fieldsAt, List.flatMap_cons, List.mem_append]
      cases f.2.kind.nested? <;> simp [fieldsAt]

/-- All fields are the fields at some depth. -/
theorem mem_allFields : g ∈ allFields s ↔ ∃ k, g ∈ s.fieldsAt k := by
  induction s using Schema.inductFields with
  | nil =>
      refine iff_of_false (by simp [allFields]) ?_
      rintro ⟨k, hg⟩
      cases k <;> simp [fieldsAt] at hg
  | cons f s ihInside ihLater =>
      rw [mem_allFields_cons, ihLater]
      simp only [mem_fieldsAt_cons, exists_or]
      refine or_congr (by simp) (or_congr_left ?_)
      constructor
      · rintro ⟨t, ht, hg⟩
        obtain ⟨j, hg⟩ := (ihInside t ht).mp hg
        exact ⟨j + 1, j, t, rfl, ht, hg⟩
      · rintro ⟨-, j, t, -, ht, hg⟩
        exact ⟨t, ht, (ihInside t ht).mpr ⟨j, hg⟩⟩

end Schema

/-! ### Counts -/

theorem Stats.Count.merge {a b : Stats} {fs gs : List (String × Property)} (ha : a.Count fs)
    (hb : b.Count gs) : (a.merge b).Count (fs ++ gs) where
  fieldsDiscovered := by
    rw [List.length_append, ← ha.fieldsDiscovered, ← hb.fieldsDiscovered]
    rfl
  unknownFields := by
    rw [List.countP_append, ← ha.unknownFields, ← hb.unknownFields]
    rfl
  optionalFields := by
    rw [List.countP_append, ← ha.optionalFields, ← hb.optionalFields]
    rfl

namespace Schema

theorem count_fieldStats (depth : Nat) (s : Schema) :
    (fieldStats depth s).Count (allFields s) := by
  induction s using Schema.inductFields generalizing depth with
  | nil => exact ⟨rfl, rfl, rfl⟩
  | cons f s ihInside ihLater =>
      have hown : Stats.Count
          { fieldsDiscovered := 1
            unknownFields := if f.2.kind.isUnknown then 1 else 0
            optionalFields := if f.2.required then 0 else 1 } [f] := by
        refine ⟨rfl, by simp [List.countP_singleton], ?_⟩
        cases hrequired : f.2.required <;> simp [hrequired]
      have hinside : (f.2.kind.nestedStats depth).Count f.2.kind.fieldsInside := by
        rw [Kind.nestedStats_eq, Kind.fieldsInside_eq]
        cases ht : f.2.kind.nested? with
        | none => exact ⟨rfl, rfl, rfl⟩
        | some t => exact ihInside t ht (depth + 1)
      exact (hown.merge hinside).merge (ihLater depth)

theorem count_stats (s : Schema) (rowsSampled : Nat) : (s.stats rowsSampled).Count (allFields s) :=
  have h := count_fieldStats 0 s
  ⟨h.fieldsDiscovered, h.unknownFields, h.optionalFields⟩

theorem typedFieldCount_eq_countP (s : Schema) :
    typedFieldCount s = (allFields s).countP fun f => !f.2.kind.isUnknown := by
  induction s using Schema.inductFields with
  | nil => rfl
  | cons f s ihInside ihLater =>
      have hinside : f.2.kind.nested?.elim 0 typedFieldCount =
          f.2.kind.fieldsInside.countP fun f => !f.2.kind.isUnknown := by
        rw [Kind.fieldsInside_eq]
        cases ht : f.2.kind.nested? with
        | none => rfl
        | some t => exact ihInside t ht
      calc typedFieldCount (f :: s)
          = f.2.kind.typedFieldCount + typedFieldCount s := rfl
        _ = f.2.kind.fieldsInside.countP (fun f => !f.2.kind.isUnknown) +
              (if !f.2.kind.isUnknown then 1 else 0) +
              (allFields s).countP fun f => !f.2.kind.isUnknown := by
            rw [Kind.typedFieldCount_eq, hinside, ihLater]
        _ = (f :: (f.2.kind.fieldsInside ++ allFields s)).countP fun f => !f.2.kind.isUnknown := by
            rw [List.countP_cons, List.countP_append, Nat.add_right_comm]

/-! ### Depth -/

theorem maxDepth_nestedStats_le_iff {kind : Kind} :
    (kind.nestedStats depth).maxDepth ≤ limit ↔
      ∀ t, kind.nested? = some t → (fieldStats (depth + 1) t).maxDepth ≤ limit := by
  rw [Kind.nestedStats_eq]
  cases kind.nested? <;> simp

/-- The depth told is that of the deepest schema inside a field, or that of the schema itself. -/
theorem maxDepth_fieldStats_le_iff :
    (fieldStats depth s).maxDepth ≤ limit ↔
      depth ≤ limit ∧ ∀ k, ∀ f ∈ s.fieldsAt k, f.2.kind.nested?.isSome = true →
        depth + k + 1 ≤ limit := by
  induction s using Schema.inductFields generalizing depth with
  | nil =>
      refine ⟨fun h => ⟨h, fun k f hf => ?_⟩, fun h => h.1⟩
      cases k <;> simp [fieldsAt] at hf
  | cons f s ihInside ihLater =>
      have hmax : (fieldStats depth (f :: s)).maxDepth =
          max (max 0 (f.2.kind.nestedStats depth).maxDepth) (fieldStats depth s).maxDepth := rfl
      rw [hmax, Nat.zero_max, Nat.max_le, maxDepth_nestedStats_le_iff, ihLater]
      constructor
      · rintro ⟨hinside, hdepth, hlater⟩
        refine ⟨hdepth, fun k g hg hnested => ?_⟩
        rcases mem_fieldsAt_cons.mp hg with ⟨rfl, rfl⟩ | ⟨j, t, rfl, ht, hg⟩ | hg
        · obtain ⟨t, ht⟩ := Option.isSome_iff_exists.mp hnested
          exact ((ihInside t ht).mp (hinside t ht)).1
        · have hbound := ((ihInside t ht).mp (hinside t ht)).2 j g hg hnested
          omega
        · exact hlater k g hg hnested
      · rintro ⟨hdepth, hfields⟩
        refine ⟨fun t ht => (ihInside t ht).mpr ⟨?_, fun j g hg hnested => ?_⟩, hdepth,
          fun k g hg => hfields k g (mem_fieldsAt_cons.mpr (.inr (.inr hg)))⟩
        · exact hfields 0 f (mem_fieldsAt_cons.mpr (.inl ⟨rfl, rfl⟩)) (by simp [ht])
        · have hmem : g ∈ fieldsAt (j + 1) (f :: s) :=
            mem_fieldsAt_cons.mpr (.inr (.inl ⟨j, t, rfl, ht, hg⟩))
          have hbound := hfields (j + 1) g hmem hnested
          omega

/-! ### Inferred schemas -/

/-- Fields of unknown kind are optional at every depth of a well formed schema. -/
theorem WellFormed.required_eq_false (h : Schema.WellFormed limit depth s) (hf : f ∈ allFields s)
    (hunknown : f.2.kind.isUnknown = true) : f.2.required = false := by
  obtain ⟨k, hf⟩ := mem_allFields.mp hf
  obtain ⟨t, ht, hf⟩ := h.exists_of_mem_fieldsAt hf
  cases hrequired : f.2.required with
  | false => rfl
  | true => exact absurd (ht.isUnknown_eq_false hf hrequired) (by simp [hunknown])

theorem WellFormed.unknownFields_le (h : Schema.WellFormed limit depth s) (rowsSampled : Nat) :
    (s.stats rowsSampled).unknownFields ≤ (s.stats rowsSampled).optionalFields := by
  have hcount := s.count_stats rowsSampled
  rw [hcount.unknownFields, hcount.optionalFields]
  refine List.countP_mono_left fun f hf hunknown => ?_
  rw [h.required_eq_false hf hunknown]
  rfl

theorem WellFormed.maxDepth_le (h : Schema.WellFormed limit 0 s) (rowsSampled : Nat) :
    (s.stats rowsSampled).maxDepth ≤ limit := by
  refine maxDepth_fieldStats_le_iff.mpr ⟨Nat.zero_le _, fun k f hf hnested => ?_⟩
  obtain ⟨t, ht, hf⟩ := h.exists_of_mem_fieldsAt hf
  obtain ⟨inner, hinner⟩ := Option.isSome_iff_exists.mp hnested
  exact ((ht.kind hf).inside hinner).1

end Schema

/-- The counts of a schema fit each other and its fields: every field at every depth is counted, as
unknown or as typed, and no more fields are optional than there are. In a schema inferred from rows
every unknown field is an optional one, and no depth beyond the limit is reached. -/
theorem stats_fit_fields :
    (∀ (s : Schema) (rowsSampled : Nat),
      (s.stats rowsSampled).fieldsDiscovered = (Schema.allFields s).length ∧
      (s.stats rowsSampled).fieldsDiscovered =
        (s.stats rowsSampled).unknownFields + Schema.typedFieldCount s ∧
      (s.stats rowsSampled).optionalFields ≤ (s.stats rowsSampled).fieldsDiscovered) ∧
    ∀ (i : Inference) (rows : List Row) (rowsSampled : Nat),
      (∀ row ∈ rows, (Value.object row).Keyed) →
      ((i.ofRows rows).stats rowsSampled).unknownFields ≤
        ((i.ofRows rows).stats rowsSampled).optionalFields ∧
      ((i.ofRows rows).stats rowsSampled).maxDepth ≤ i.settings.maxDepth := by
  constructor
  · intro s rowsSampled
    have hcount := s.count_stats rowsSampled
    refine ⟨hcount.fieldsDiscovered, ?_, ?_⟩
    · rw [hcount.fieldsDiscovered, hcount.unknownFields, Schema.typedFieldCount_eq_countP]
      simpa using List.length_eq_countP_add_countP fun f : String × Property => f.2.kind.isUnknown
    · rw [hcount.fieldsDiscovered, hcount.optionalFields]
      exact List.countP_le_length
  · intro i rows rowsSampled hrows
    have hwell : Schema.WellFormed i.settings.maxDepth 0 (i.ofRows rows) :=
      Inference.ofRows_wellFormed hrows
    exact ⟨hwell.unknownFields_le rowsSampled, hwell.maxDepth_le rowsSampled⟩

/-- Two rows under a limit of one level: an object too deep stays unknown, and a field that only the
second row has is one more of the schema inside. -/
theorem stats_fit_fields_two_rows :
    let i : Inference :=
      { settings := { refineRequired := true, sampleSize := 0, maxDepth := 1 }
        encoding := .structured }
    let rows : List Row :=
      [[("id", .bool true), ("home", .object [("owner", .object [("since", .null)])])],
        [("id", .null), ("home", .object [("sold", .bool true)])]]
    let s := i.ofRows rows
    (∀ row ∈ rows, (Value.object row).Keyed) ∧
      s.stats 2 = { rowsSampled := 2, fieldsDiscovered := 4, unknownFields := 1,
                    optionalFields := 3, maxDepth := 1 } ∧
      (s.stats 2).fieldsDiscovered = (s.stats 2).unknownFields + Schema.typedFieldCount s ∧
      (s.stats 2).unknownFields ≤ (s.stats 2).optionalFields ∧
      (s.stats 2).maxDepth ≤ i.settings.maxDepth := by
  intro i rows s
  have hkeyed : ∀ row ∈ rows, (Value.object row).Keyed := by
    simp [rows, Value.Keyed, Fields.names, -Prod.forall]
  obtain ⟨hschemas, hinferred⟩ := stats_fit_fields
  obtain ⟨-, hsum, -⟩ := hschemas s 2
  exact ⟨hkeyed, rfl, hsum, hinferred i rows 2 hkeyed⟩

end RowTypings
