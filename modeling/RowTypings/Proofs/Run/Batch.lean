import Mathlib.Data.List.Basic
import Mathlib.Tactic.Set
import RowTypings.Command.Infer
import RowTypings.Proofs.Record.Coercion
import RowTypings.Proofs.Schema.WellFormed
import RowTypings.Proofs.TypeScript.NestedLiteral
import RowTypings.Run.Compilation

/-!
Compilation without the stream. Rows are compiled as they come, a sample first and the rows behind
it afterwards, but what is reported and what is written is said of the rows as a whole: one schema,
the one inferred from all rows, is applied to every row under its own index. The cut between the
sample and the rest decides what the schema is and nothing else.
-/

namespace RowTypings

open TypeScript

/-! ### Sampling -/

namespace InferenceSettings

variable {α β : Type} (settings : InferenceSettings)

/-- The sample is what the limit leaves of the rows. -/
theorem sample_eq_elim (rows : List α) :
    settings.sample rows = settings.sampleLimit?.elim rows fun limit => rows.take limit := by
  unfold sample sampleLimit?
  split_ifs <;> rfl

theorem sample_sample (rows : List α) :
    settings.sample (settings.sample rows) = settings.sample rows := by
  simp only [sample_eq_elim]
  cases settings.sampleLimit? with
  | none => rfl
  | some limit => simp [List.take_take]

theorem sample_map (f : α → β) (rows : List α) :
    settings.sample (rows.map f) = (settings.sample rows).map f := by
  simp only [sample_eq_elim]
  cases settings.sampleLimit? with
  | none => rfl
  | some limit => exact List.map_take.symm

end InferenceSettings

/-- Inference looks at its sample alone. -/
theorem Inference.ofRows_sample (i : Inference) (rows : List Row) :
    i.ofRows (i.settings.sample rows) = i.ofRows rows := by
  rw [ofRows, i.settings.sample_sample]
  rfl

/-! ### Rows as they come -/

namespace Rows

/-- Rows are all there, or there is a first one that cannot be had. -/
theorem all_or_first_error (rows : Rows) :
    (∃ given : List Row, rows = given.map .ok) ∨
      ∃ (before : List Row) (e : SourceError) (after : Rows),
        rows = before.map .ok ++ .error e :: after := by
  induction rows with
  | nil => exact .inl ⟨[], rfl⟩
  | cons item rest ih =>
      cases item with
      | error e => exact .inr ⟨[], e, rest, rfl⟩
      | ok row =>
          rcases ih with ⟨given, rfl⟩ | ⟨before, e, after, rfl⟩
          · exact .inl ⟨row :: given, rfl⟩
          · exact .inr ⟨row :: before, e, after, rfl⟩

theorem mapM_map_ok (given : List Row) :
    (given.map .ok : Rows).mapM id = (.ok given : Except SourceError (List Row)) := by
  induction given with
  | nil => rfl
  | cons row given ih => rw [List.map_cons, List.mapM_cons, ih]; rfl

theorem mapM_first_error (before : List Row) (e : SourceError) (after : Rows) :
    (before.map .ok ++ .error e :: after : Rows).mapM id = .error e := by
  induction before with
  | nil => rfl
  | cons row before ih => rw [List.map_cons, List.cons_append, List.mapM_cons, ih]; rfl

end Rows

/-- Drawing takes the front of the sequence, or fails with the first error in it, and leaves what
stands behind the front. -/
theorem drawSample_eq (limit? : Option Nat) (rows : Rows) :
    drawSample limit? rows =
      ((limit?.elim rows fun limit => rows.take limit).mapM id).map fun sampled =>
        (sampled, limit?.elim [] fun limit => rows.drop limit) := by
  induction rows generalizing limit? with
  | nil => cases limit? <;> simp [drawSample] <;> rfl
  | cons item rest ih =>
      rcases limit? with _ | _ | limit
      · have hrest : drawSample none rest = (rest.mapM id).map fun sampled => (sampled, []) :=
          ih none
        rw [drawSample, if_neg (by decide), Option.map_none, hrest, Option.elim_none,
          Option.elim_none, List.mapM_cons]
        cases item with
        | error e => rfl
        | ok row => cases rest.mapM id <;> rfl
      · rfl
      · have hrest : drawSample (some limit) rest =
            ((rest.take limit).mapM id).map fun sampled => (sampled, rest.drop limit) :=
          ih (some limit)
        rw [drawSample, if_neg (by simp), Option.map_some, Nat.add_sub_cancel, hrest,
          Option.elim_some, Option.elim_some, List.take_succ_cons, List.drop_succ_cons,
          List.mapM_cons]
        cases item with
        | error e => rfl
        | ok row => cases (rest.take limit).mapM id <;> rfl

/-- Rows that are all there are cut behind the sample. -/
theorem drawSample_map_ok (settings : InferenceSettings) (given : List Row) :
    ∃ left, given = settings.sample given ++ left ∧
      drawSample settings.sampleLimit? (given.map .ok) =
        .ok (settings.sample given, left.map .ok) := by
  rw [drawSample_eq, settings.sample_eq_elim]
  cases settings.sampleLimit? with
  | none =>
      refine ⟨[], (List.append_nil given).symm, ?_⟩
      rw [Option.elim_none, Option.elim_none, Rows.mapM_map_ok]
      rfl
  | some limit =>
      refine ⟨given.drop limit, (List.take_append_drop limit given).symm, ?_⟩
      rw [Option.elim_some, Option.elim_some, ← List.map_take, ← List.map_drop,
        Rows.mapM_map_ok]
      rfl

/-- The first row that cannot be had either ends the drawing or is left behind the sample. -/
theorem drawSample_first_error (limit? : Option Nat) (before : List Row) (e : SourceError)
    (after : Rows) :
    drawSample limit? (before.map .ok ++ .error e :: after) = .error e ∨
      ∃ sampled between : List Row, drawSample limit? (before.map .ok ++ .error e :: after) =
        .ok (sampled, between.map .ok ++ .error e :: after) := by
  rw [drawSample_eq]
  cases limit? with
  | none =>
      left
      rw [Option.elim_none, Option.elim_none, Rows.mapM_first_error]
      rfl
  | some limit =>
      rw [Option.elim_some, Option.elim_some]
      rcases Nat.lt_or_ge before.length limit with hlt | hge
      · left
        obtain ⟨n, rfl⟩ := Nat.exists_eq_add_of_lt hlt
        have htake : (before.map .ok ++ .error e :: after : Rows).take (before.length + n + 1) =
            before.map .ok ++ .error e :: after.take n := by
          rw [← List.length_map (Except.ok : Row → Except SourceError Row), Nat.add_assoc,
            List.take_length_add_append, List.take_succ_cons]
        rw [htake, Rows.mapM_first_error]
        rfl
      · right
        refine ⟨before.take limit, before.drop limit, ?_⟩
        have hlength : limit ≤ (before.map Except.ok : Rows).length := by rwa [List.length_map]
        rw [List.take_append_of_le_length hlength, List.drop_append_of_le_length hlength,
          ← List.map_take, ← List.map_drop, Rows.mapM_map_ok]
        rfl

theorem writeRows_map_ok (origin : RowOrigin) (schema : Schema) (index : Nat)
    (given : List Row) :
    writeRows origin schema index (given.map .ok) =
      ((given.mapIdx fun k row => rowDiagnostics origin schema (index + k) row).flatten,
        .ok (given.map (rowLiteral origin.encoding schema))) := by
  induction given generalizing index with
  | nil => rfl
  | cons row given ih =>
      rw [List.map_cons, writeRows, ih]
      simp [List.mapIdx_cons, Except.map, Nat.add_assoc, Nat.add_comm 1]

theorem writeRows_first_error (origin : RowOrigin) (schema : Schema) (index : Nat)
    (before : List Row) (e : SourceError) (after : Rows) :
    (writeRows origin schema index (before.map .ok ++ .error e :: after)).2 = .error e := by
  induction before generalizing index with
  | nil => rfl
  | cons row before ih =>
      rw [List.map_cons, List.cons_append, writeRows]
      simp only [ih]
      rfl

/-! ### What is reported -/

theorem exists_coercion_of_mem_misfits {origin : RowOrigin} {schema : Schema} {row : Row}
    {index : Nat} {d : Diagnostic} (h : d ∈ Record.misfits origin schema row index) :
    ∃ field expected found, d = .coercion origin.identity index field expected found := by
  rw [Record.misfits_eq, List.mem_filterMap] at h
  obtain ⟨f, -, hd⟩ := h
  unfold Record.misfit? at hd
  split at hd
  · exact ⟨_, _, _, (Option.some.inj hd).symm⟩
  · cases hd

theorem exists_contentOmitted_of_mem_recordOmissions {schema : Schema} {record : Record}
    {d : Diagnostic} (h : d ∈ recordOmissions schema record) :
    ∃ field omission, d = .contentOmitted field omission := by
  obtain ⟨⟨name, p⟩, -, hd⟩ := List.mem_flatMap.mp h
  dsimp only at hd
  split at hd
  · rename_i cell _
    unfold cellOmissions at hd
    split at hd
    · cases hd
    · cases hd
    · cases hd
    · cases hd
    · cases hd
    · exact (undeclared_of_mem_modelledOmissions hd).imp fun _ h => ⟨_, h⟩
    · exact (undeclared_of_mem_modelledOmissions hd).imp fun _ h => ⟨_, h⟩
    · exact ⟨_, _, List.mem_singleton.mp hd⟩
  · cases hd

theorem exists_gap_of_mem_kindGaps {maxDepth level : Nat} {name : String} {kind : Kind}
    {d : Diagnostic} (h : d ∈ kindGaps maxDepth level name kind) :
    ∃ field gap, d = .declarationGap field gap := by
  induction kind using Kind.induct generalizing level name with
  | object s ih =>
      rw [kindGaps] at h
      split at h
      · exact ⟨_, _, List.mem_singleton.mp h⟩
      · rw [schemaGaps_eq_flatMap, List.mem_flatMap] at h
        obtain ⟨f, hf, hd⟩ := h
        exact ih f hf hd
  | objectArray s ih =>
      rw [kindGaps] at h
      split at h
      · exact ⟨_, _, List.mem_singleton.mp h⟩
      · rw [schemaGaps_eq_flatMap, List.mem_flatMap] at h
        obtain ⟨f, hf, hd⟩ := h
        exact ih f hf hd
  | _ => cases h

theorem exists_gap_of_mem_interfaceGaps {declarations : DeclarationSettings} {schema : Schema}
    {d : Diagnostic} (h : d ∈ interfaceGaps declarations schema) :
    ∃ field gap, d = .declarationGap field gap := by
  rw [interfaceGaps, schemaGaps_eq_flatMap, List.mem_flatMap] at h
  obtain ⟨f, -, hd⟩ := h
  exact exists_gap_of_mem_kindGaps hd

/-! ### Compilation -/

variable (settings : Settings) (origin : RowOrigin)

/-- Whatever is written before it, the first row that cannot be had is the outcome. -/
theorem compileRows_first_error (before : List Row) (e : SourceError) (after : Rows) :
    (compileRows settings origin (before.map .ok ++ .error e :: after)).2 = .error e := by
  unfold compileRows
  rcases drawSample_first_error settings.inference.sampleLimit? before e after with
    hdraw | ⟨sampled, between, hdraw⟩
  · rw [hdraw]
  · rw [hdraw]
    dsimp only
    have hwrite := writeRows_first_error origin
      (({ settings := settings.inference, encoding := origin.encoding } : Inference).ofRows sampled)
      sampled.length between e after
    split
    · rename_i later e' heq
      rw [heq] at hwrite
      obtain rfl : e' = e := Except.error.inj hwrite
      rfl
    · rename_i heq
      rw [heq] at hwrite
      cases hwrite

/-- Rows that are all there are compiled by the one schema inferred from them, each under its own
index. -/
theorem compileRows_map_ok (given : List Row) :
    let i : Inference := { settings := settings.inference, encoding := origin.encoding }
    let schema := i.ofRows given
    let literals := given.map (rowLiteral origin.encoding schema)
    compileRows settings origin (given.map .ok) =
      ((given.mapIdx (rowDiagnostics origin schema)).flatten ++
          interfaceGaps settings.declarations schema,
        .ok
          { members := interfaceMembers settings.declarations schema
            value := (contentOf settings.singleRowAsObject literals).1
            isList := (contentOf settings.singleRowAsObject literals).2
            rows := given.length
            stats := schema.stats (settings.inference.sample given).length }) := by
  intro i schema literals
  obtain ⟨left, hcut, hdraw⟩ := drawSample_map_ok settings.inference given
  set sampled := settings.inference.sample given
  have hschema : i.ofRows sampled = schema := i.ofRows_sample given
  have hreported : (given.mapIdx (rowDiagnostics origin schema)).flatten =
      (sampled.mapIdx (rowDiagnostics origin schema)).flatten ++
        (left.mapIdx fun k => rowDiagnostics origin schema (sampled.length + k)).flatten := by
    conv_lhs => rw [hcut, List.mapIdx_append, List.flatten_append]
    simp only [Nat.add_comm]
  have hliterals : sampled.map (rowLiteral origin.encoding schema) ++
      left.map (rowLiteral origin.encoding schema) = literals := by
    rw [← List.map_append, ← hcut]
  unfold compileRows
  rw [hdraw]
  dsimp only
  rw [hschema, writeRows_map_ok]
  dsimp only
  rw [hliterals, hreported, List.length_map]

end RowTypings
