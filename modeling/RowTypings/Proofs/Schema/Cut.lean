import RowTypings.Proofs.Schema.Refinement

/-!
Lower depth limits. What a row says at one depth does not depend on how much deeper inference looks;
so the schema for a lower limit is the one for a higher limit, cut off below the lower one.
-/

namespace RowTypings

/-! ### Schemas cut off below a depth -/

/-- The schema inside a field at `depth` would lie below the limit. -/
def Kind.reachesBelow (limit depth : Nat) (kind : Kind) : Bool :=
  kind.nested?.isSome && decide (limit < depth + 1)

mutual

/-- The kind of a field at `depth`, of unknown kind where the schema inside lies below the limit. -/
def Kind.cutBelow (limit depth : Nat) : Kind → Kind
  | .object s =>
    if limit < depth + 1 then .unknown .object else .object (Schema.cutBelow limit (depth + 1) s)
  | .objectArray s =>
    if limit < depth + 1 then .unknown .array
    else .objectArray (Schema.cutBelow limit (depth + 1) s)
  | .unknown shape => .unknown shape
  | .numeric => .numeric
  | .boolean => .boolean
  | .dateTime => .dateTime
  | .text => .text

/-- The schema of fields at `depth`, with no schema left in it that lies below the limit. A field
that loses the schema inside it is optional from then on; every other one keeps its mark. -/
def Schema.cutBelow (limit depth : Nat) : List (String × Described Kind) → Schema
  | [] => []
  | (name, ⟨kind, description, required⟩) :: rest =>
    (name, ⟨kind.cutBelow limit depth, description,
      required && !kind.reachesBelow limit depth⟩) :: Schema.cutBelow limit depth rest

end

def Property.cutBelow (limit depth : Nat) (p : Property) : Property where
  kind := p.kind.cutBelow limit depth
  description := p.description
  required := p.required && !p.kind.reachesBelow limit depth

variable {limit depth : Nat}

theorem Schema.cutBelow_eq_map (s : Schema) :
    Schema.cutBelow limit depth s = s.map fun f => (f.1, f.2.cutBelow limit depth) := by
  induction s with
  | nil => rfl
  | cons f s ih =>
      rw [Schema.cutBelow, ih]
      rfl

theorem Kind.cutBelow_of_flat {kind : Kind} (h : kind.nested? = none) :
    kind.cutBelow limit depth = kind := by
  cases kind with
  | object s => cases h
  | objectArray s => cases h
  | _ => rfl

theorem Kind.isUnknown_cutBelow (kind : Kind) :
    (kind.cutBelow limit depth).isUnknown =
      (kind.isUnknown || kind.reachesBelow limit depth) := by
  cases kind with
  | object s =>
      simp only [Kind.cutBelow, Kind.reachesBelow]
      split <;> simp_all [Kind.isUnknown, Kind.nested?]
  | objectArray s =>
      simp only [Kind.cutBelow, Kind.reachesBelow]
      split <;> simp_all [Kind.isUnknown, Kind.nested?]
  | _ => simp [Kind.cutBelow, Kind.reachesBelow, Kind.isUnknown, Kind.nested?]

/-- A first description and a cut can change places: a kind that is cut off is unknown. -/
theorem Property.cutBelow_ofKind (kind : Kind) (description : String) :
    (Property.ofKind kind description).cutBelow limit depth =
      Property.ofKind (kind.cutBelow limit depth) description := by
  simp only [Property.ofKind, Property.cutBelow, Kind.isUnknown_cutBelow, Bool.not_or]

namespace Inference

/-- The same inference with another depth limit. -/
def withMaxDepth (i : Inference) (maxDepth : Nat) : Inference :=
  { i with settings := { i.settings with maxDepth } }

variable {i : Inference} {low high : Nat}

theorem propertiesOf_cutBelow_of {fields : List (String × Value)}
    (hkinds : ∀ f ∈ fields, ((i.withMaxDepth high).kindOf depth f.2).cutBelow low depth =
      (i.withMaxDepth low).kindOf depth f.2) :
    Schema.cutBelow low depth ((i.withMaxDepth high).propertiesOf depth fields) =
      (i.withMaxDepth low).propertiesOf depth fields := by
  rw [Schema.cutBelow_eq_map, propertiesOf_eq_map, propertiesOf_eq_map, List.map_map]
  refine List.map_congr_left fun f hf => ?_
  show (f.1, _) = _
  rw [Property.cutBelow_ofKind, hkinds f hf]

theorem kindOf_object_deep (hdepth : i.settings.maxDepth ≤ depth)
    (fields : List (String × Value)) : i.kindOf depth (.object fields) = .unknown .object := by
  rcases kindOf_object_cases i depth fields with heq | ⟨habove, -, -⟩
  · exact heq
  · exact absurd habove (Nat.not_lt.mpr hdepth)

theorem kindOf_array_deep (hdepth : i.settings.maxDepth ≤ depth) (items : List Value) :
    i.kindOf depth (.array items) = .unknown .array := by
  rcases kindOf_array_cases i depth items with heq | ⟨-, -, -, habove, -, -⟩
  · exact heq
  · exact absurd habove (Nat.not_lt.mpr hdepth)

/-- A value that lies above the lower limit is looked into under both limits, and one that lies
below it gives no schema under the lower limit and loses it under the higher. -/
theorem kindOf_cutBelow (h : low ≤ high) (v : Value) :
    ((i.withMaxDepth high).kindOf depth v).cutBelow low depth =
      (i.withMaxDepth low).kindOf depth v := by
  induction v using Value.inductInner generalizing depth with
  | inner v ihObject ihArray =>
      cases v with
      | object fields =>
          by_cases hfields : fields = []
          · rw [hfields]
            rfl
          rcases Nat.lt_or_ge depth low with hlow | hlow
          · have hhigh : depth < high := Nat.lt_of_lt_of_le hlow h
            rw [kindOf_object hhigh hfields, kindOf_object hlow hfields, Kind.cutBelow,
              if_neg (Nat.not_lt.mpr hlow)]
            exact congrArg Kind.object
              (propertiesOf_cutBelow_of fun f hf => ihObject fields rfl f hf)
          · rw [kindOf_object_deep (i := i.withMaxDepth low) hlow]
            rcases kindOf_object_cases (i.withMaxDepth high) depth fields with heq | ⟨-, -, heq⟩
            · rw [heq, Kind.cutBelow]
            · rw [heq, Kind.cutBelow, if_pos (Nat.lt_succ_of_le hlow)]
      | array items =>
          rcases Nat.lt_or_ge depth low with hlow | hlow
          · have hhigh : depth < high := Nat.lt_of_lt_of_le hlow h
            rcases items with _ | ⟨first, rest⟩
            · rfl
            cases first with
            | object fields =>
                by_cases hfields : fields = []
                · rw [hfields]
                  rfl
                rw [kindOf_array_object hhigh hfields, kindOf_array_object hlow hfields,
                  Kind.cutBelow, if_neg (Nat.not_lt.mpr hlow)]
                exact congrArg Kind.objectArray (propertiesOf_cutBelow_of fun f hf =>
                  ihArray _ rfl fields List.mem_cons_self f hf)
            | _ => rfl
          · rw [kindOf_array_deep (i := i.withMaxDepth low) hlow]
            rcases kindOf_array_cases (i.withMaxDepth high) depth items with
              heq | ⟨_, _, _, _, _, heq⟩
            · rw [heq, Kind.cutBelow]
            · rw [heq, Kind.cutBelow, if_pos (Nat.lt_succ_of_le hlow)]
      | text s =>
          apply Kind.cutBelow_of_flat
          simp only [kindOf, kindOfText]
          split_ifs <;> rfl
      | _ => rfl

/-- The schema of a row under a lower depth limit is the one under the higher limit with every
schema inside it taken out that lies below the lower limit. -/
theorem ofRow_withMaxDepth_eq_cutBelow (i : Inference) {low high : Nat} (h : low ≤ high)
    (row : Row) :
    (i.withMaxDepth low).ofRow row = Schema.cutBelow low 0 ((i.withMaxDepth high).ofRow row) :=
  (propertiesOf_cutBelow_of fun f _ => kindOf_cutBelow h f.2).symm

/-- An object and a list of objects at the second level, under a limit of one level. -/
theorem ofRow_withMaxDepth_eq_cutBelow_second_level :
    let i : Inference := { encoding := .structured }
    let row : Row :=
      [("home", .object [("owner", .object [("since", .null)]),
        ("rooms", .array [.object [("lit", .bool true)]]), ("sold", .bool true)])]
    1 ≤ 3 ∧ (i.withMaxDepth 1).ofRow row = Schema.cutBelow 1 0 ((i.withMaxDepth 3).ofRow row) ∧
      Schema.cutBelow 1 0 ((i.withMaxDepth 3).ofRow row) =
        [("home", ⟨.object [("owner", ⟨.unknown .object, "owner", false⟩),
          ("rooms", ⟨.unknown .array, "rooms", false⟩), ("sold", ⟨.boolean, "sold", true⟩)],
          "home", true⟩)] := by
  intro i row
  exact ⟨by decide, ofRow_withMaxDepth_eq_cutBelow i (by decide) row, rfl⟩

end Inference

end RowTypings
