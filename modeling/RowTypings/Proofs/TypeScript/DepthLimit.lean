import RowTypings.Proofs.Schema.Depth
import RowTypings.Proofs.TypeScript.KeyTable

/-!
The depth limit of an interface. An inferred schema has no empty schema within, so the limit alone
decides what is declared as a block: the interface is the one with a block for every schema, cut off
at the limit, and a gap is reported for each field that stands at the cut.
-/

namespace RowTypings.TypeScript

/-! ### Interfaces without a limit -/

mutual

/-- The type of a kind with a block for every schema within, however deep it lies. -/
def fullType : Kind → MemberType
  | .unknown .scalar => .unknown
  | .unknown .array => .unknownArray
  | .unknown .object => .object
  | .numeric => .number
  | .boolean => .boolean
  | .dateTime => .date
  | .text => .string
  | .object s => .block ((headsOf s).zip (fullTypes s))
  | .objectArray s => .blockArray ((headsOf s).zip (fullTypes s))

def fullTypes : List (String × Described Kind) → List MemberType
  | [] => []
  | (_, ⟨kind, _, _⟩) :: rest => fullType kind :: fullTypes rest

end

/-- One member for each field of the schema, and so down to the last schema within. -/
def fullMembers (s : Schema) : List Member := (headsOf s).zip (fullTypes s)

mutual

/-- The type with so many levels of blocks at most; a block below them is a bare `object`. -/
def MemberType.cut : Nat → MemberType → MemberType
  | 0, .block _ => .object
  | 0, .blockArray _ => .objectArray
  | levels + 1, .block members => .block (cutMembers levels members)
  | levels + 1, .blockArray members => .blockArray (cutMembers levels members)
  | _, type => type

def cutMembers : Nat → List (MemberHead × MemberType) → List (MemberHead × MemberType)
  | _, [] => []
  | levels, (head, type) :: rest => (head, type.cut levels) :: cutMembers levels rest

end

theorem fullTypes_eq_map (s : Schema) : fullTypes s = s.map fun f => fullType f.2.kind := by
  induction s with
  | nil => rfl
  | cons f s ih => rw [fullTypes, ih, List.map_cons]

theorem cutMembers_eq_map (levels : Nat) (members : List Member) :
    cutMembers levels members = members.map fun m => (m.1, m.2.cut levels) := by
  induction members with
  | nil => rfl
  | cons m members ih => rw [cutMembers, ih, List.map_cons]

variable {limit level depth maxDepth : Nat} {s : Schema} {kind : Kind}

/-- The members of a schema are the full ones, cut off, if the types of its fields are. -/
theorem membersOf_eq_cutMembers_of {levels : Nat} (htypes : ∀ f ∈ s,
      memberType limit level f.2.kind = (fullType f.2.kind).cut levels) :
    membersOf limit level s = cutMembers levels (fullMembers s) := by
  have hcut : memberTypes limit level s = (fullTypes s).map (MemberType.cut levels) := by
    rw [memberTypes_eq_map, fullTypes_eq_map, List.map_map]
    exact List.map_congr_left htypes
  rw [membersOf, hcut, cutMembers_eq_map, fullMembers, List.zip_map_right]
  rfl

/-- A member at a level has the full type, with the levels of blocks that are left for it. -/
theorem memberType_eq_cut (h : Kind.WellFormed maxDepth depth kind) (limit level : Nat) :
    memberType limit level kind = (fullType kind).cut (limit - level) := by
  induction kind using Kind.inductNested generalizing depth level with
  | inner kind ih =>
      have hdeep {s : Schema} (hlevel : limit ≤ level) :
          (decide (limit ≤ level) || s.isEmpty) = true ∧ limit - level = 0 := by
        simp [hlevel]
      have hblock {s : Schema} (hs : kind.nested? = some s) (hlevel : level < limit) :
          (decide (limit ≤ level) || s.isEmpty) = false ∧
            limit - level = limit - (level + 1) + 1 ∧
            membersOf limit (level + 1) s = cutMembers (limit - (level + 1)) (fullMembers s) := by
        obtain ⟨-, hne, hinside⟩ := h.inside hs
        refine ⟨by simp [hlevel, hne], by omega, ?_⟩
        exact membersOf_eq_cutMembers_of fun f hf => ih s hs f hf (hinside.kind hf) (level + 1)
      cases kind with
      | object s =>
          rcases Nat.lt_or_ge level limit with hlevel | hlevel
          · obtain ⟨hblank, hlevels, hmembers⟩ := hblock rfl hlevel
            rw [memberType, hblank, hlevels]
            exact congrArg MemberType.block hmembers
          · rw [memberType, (hdeep hlevel).1, (hdeep (s := s) hlevel).2]
            rfl
      | objectArray s =>
          rcases Nat.lt_or_ge level limit with hlevel | hlevel
          · obtain ⟨hblank, hlevels, hmembers⟩ := hblock rfl hlevel
            rw [memberType, hblank, hlevels]
            exact congrArg MemberType.blockArray hmembers
          · rw [memberType, (hdeep hlevel).1, (hdeep (s := s) hlevel).2]
            rfl
      | unknown shape => cases shape <;> cases limit - level <;> rfl
      | _ => cases limit - level <;> rfl

/-! ### Gaps -/

theorem kindGaps_of_nested (h : kind.nested? = some s) (limit level : Nat) (name : String) :
    kindGaps limit level name kind =
      match gap? limit level s with
      | some gap => [.declarationGap name gap]
      | none => schemaGaps limit (level + 1) s := by
  cases kind with
  | object t =>
      cases h
      rfl
  | objectArray t =>
      cases h
      rfl
  | _ => cases h

/-- The only gap there is: the schema of a field stands at the limit or below it. -/
theorem kindGaps_eq (h : Kind.WellFormed maxDepth depth kind) (limit level : Nat) (name : String) :
    kindGaps limit level name kind = kind.nested?.elim [] fun s =>
      if limit ≤ level then [.declarationGap name (.tooDeep limit)]
      else schemaGaps limit (level + 1) s := by
  cases hs : kind.nested? with
  | none => cases kind <;> first | rfl | cases hs
  | some s =>
      obtain ⟨-, hne, -⟩ := h.inside hs
      have hgap : gap? limit level s = if limit ≤ level then some (.tooDeep limit) else none := by
        simp [gap?, hne]
      rw [kindGaps_of_nested hs, hgap, Option.elim_some]
      split_ifs <;> rfl

/-- The gaps of members at a level are those of the fields with a schema of their own that stand at
the limit, one for each. -/
theorem schemaGaps_eq (h : Schema.WellFormed maxDepth depth s) (limit level : Nat) :
    schemaGaps limit level s = (s.fieldsAt (limit - level)).filterMap fun f =>
      f.2.kind.nested?.map fun _ => .declarationGap f.1 (.tooDeep limit) := by
  generalize hlevels : limit - level = levels
  induction levels generalizing depth level s with
  | zero =>
      have hlevel : limit ≤ level := by omega
      rw [schemaGaps_eq_flatMap, List.filterMap_eq_flatMap_toList]
      refine List.flatMap_congr fun f hf => ?_
      rw [kindGaps_eq (h.kind hf)]
      cases f.2.kind.nested? with
      | none => rfl
      | some t => exact if_pos hlevel
  | succ levels ih =>
      have hlevel : ¬ limit ≤ level := by omega
      rw [schemaGaps_eq_flatMap, Schema.fieldsAt, List.filterMap_flatMap]
      refine List.flatMap_congr fun f hf => ?_
      rw [kindGaps_eq (h.kind hf)]
      cases hs : f.2.kind.nested? with
      | none => rfl
      | some t =>
          obtain ⟨-, -, hinside⟩ := (h.kind hf).inside hs
          rw [Option.elim_some, if_neg hlevel]
          exact ih hinside (level + 1) (by omega)

/-- The two depth limits fit together. Where an interface is compiled from an inferred schema, a gap
is reported for each field with a schema of its own whose member stands at the level of the limit,
or at the first level where the limit is zero, and this is the only reason for a gap; the interface
is the one with a block for every schema within, cut off below that level. No schema lies that deep
if the limit of the interface is above that of inference. -/
theorem interface_cut_at_limit (i : Inference) (settings : DeclarationSettings) {rows : List Row}
    (hkeyed : ∀ row ∈ rows, (Value.object row).Keyed) :
    let s := i.ofRows rows
    let cut := max settings.maxDepth 1
    interfaceGaps settings s = (s.fieldsAt (cut - 1)).filterMap (fun f =>
      f.2.kind.nested?.map fun _ => .declarationGap f.1 (.tooDeep settings.maxDepth)) ∧
    interfaceMembers settings s = writeMembers settings 1 (cutMembers (cut - 1) (fullMembers s)) ∧
    (i.settings.maxDepth < settings.maxDepth → interfaceGaps settings s = []) := by
  intro s cut
  have hwell : Schema.WellFormed i.settings.maxDepth 0 s := Inference.ofRows_wellFormed hkeyed
  have hcut : cut - 1 = settings.maxDepth - 1 := by omega
  have hgaps : interfaceGaps settings s = (s.fieldsAt (cut - 1)).filterMap fun f =>
      f.2.kind.nested?.map fun _ => .declarationGap f.1 (.tooDeep settings.maxDepth) := by
    rw [hcut]
    exact schemaGaps_eq hwell settings.maxDepth 1
  refine ⟨hgaps, ?_, fun hlimits => ?_⟩
  · rw [hcut, interfaceMembers]
    exact congrArg (writeMembers settings 1)
      (membersOf_eq_cutMembers_of fun f hf => memberType_eq_cut (hwell.kind hf) settings.maxDepth 1)
  · rw [hgaps, List.filterMap_eq_nil_iff]
    intro f hf
    obtain ⟨t, ht, hft⟩ := hwell.exists_of_mem_fieldsAt hf
    cases hs : f.2.kind.nested? with
    | none => rfl
    | some u =>
        obtain ⟨hdepth, -, -⟩ := (ht.kind hft).inside hs
        omega

/-- Three objects one inside another, the innermost first seen in a later row, and one without
fields. -/
theorem interface_cut_at_limit_second_level :
    let i : Inference :=
      { settings := { refineRequired := true, sampleSize := 0, maxDepth := 3 }
        encoding := .structured }
    let settings : DeclarationSettings := { maxDepth := 2 }
    let rows : List Row :=
      [[("a", .object [("b", .object [("x", .bool true)]), ("none", .object [])])],
        [("a", .object [("b", .object [("c", .object [("y", .bool true)])])])]]
    (∀ row ∈ rows, (Value.object row).Keyed) ∧
      interfaceGaps settings (i.ofRows rows) = [.declarationGap "b" (.tooDeep 2)] ∧
      interfaceMembers settings (i.ofRows rows) = ["readonly a: \x7b\n" ++
        "    readonly b: object; // b\n    readonly none?: object; // none\n  \x7d; // a"] ∧
      interfaceGaps { maxDepth := 4 } (i.ofRows rows) = [] := by
  intro i settings rows
  have hkeyed : ∀ row ∈ rows, (Value.object row).Keyed := by
    simp [rows, Value.Keyed, Fields.names, -Prod.forall]
  obtain ⟨hgaps, hmembers, -⟩ := interface_cut_at_limit i settings hkeyed
  obtain ⟨-, -, hnone⟩ := interface_cut_at_limit i { maxDepth := 4 } hkeyed
  refine ⟨hkeyed, ?_, ?_, hnone (by decide)⟩
  · rw [hgaps]
    rfl
  · rw [hmembers]
    decide

end RowTypings.TypeScript
