import RowTypings.Proofs.Json.ScalarText
import RowTypings.Proofs.Run.Batch
import RowTypings.Proofs.Schema.Refinement
import RowTypings.Proofs.Schema.Uniform

/-!
Rows that carry their scalars as text. Where each text is read as the scalar it was written for, and
as nothing else, the rows have the schema of the rows they were copied from, each makes the same
record and the same literal, and the same fields are misfits.
-/

namespace RowTypings

/-! ### Textual copies -/

namespace Value

/-- A scalar that can be told from its text: a whole number that fits a word, a boolean, or a text
that is read as neither. -/
def IsPlain : Value → Prop
  | .number (.integer n) => fitsWord n = true
  | .bool _ => True
  | .text t => Number.ofText? t = none ∧ booleanOfText? t = none
  | _ => False

/-- The value as a textual source has it. -/
def asText : Value → Value
  | .number n => .text n.write
  | .bool b => .text (boolText b)
  | v => v

end Value

namespace Row

def IsPlain (row : Row) : Prop := ∀ f ∈ row, f.2.IsPlain

def asText (row : Row) : Row := row.map fun f => (f.1, f.2.asText)

theorem lookup_asText (row : Row) (name : String) :
    row.asText.lookup name = (row.lookup name).map Value.asText :=
  Fields.lookup_map row (fun f => f.2.asText) name

theorem IsPlain.of_lookup {row : Row} (h : row.IsPlain) {name : String} {v : Value}
    (hv : row.lookup name = some v) : v.IsPlain :=
  h (name, v) (Fields.mem_of_lookup hv)

end Row

variable {v : Value} {row : Row}

/-! ### Coercion -/

namespace Cell

theorem fit?_asText (h : v.IsPlain) (kind : Kind) : fit? kind v.asText = fit? kind v := by
  cases v with
  | number n =>
      cases n with
      | integer n =>
          have hnumber := Number.ofText?_write_integer h
          have hboolean := Number.booleanOfText?_write (.integer n)
          have hinstant := Number.instant?_write_integer n
          cases kind <;> simp [fit?, Value.asText, hnumber, hboolean, hinstant]
      | float x => exact h.elim
  | bool b =>
      cases kind with
      | text => rfl
      | _ =>
          simp [fit?, Value.asText, ofText?_boolText, booleanOfText?_boolText, instant?_boolText]
  | text t => rfl
  | _ => exact h.elim

theorem isSilent_asText (h : v.IsPlain) (kind : Kind) :
    isSilent kind v.asText = isSilent kind v := by
  cases v with
  | number n => simp [isSilent, Value.asText, Number.isBlankText_write]
  | bool b => simp [isSilent, Value.asText, isBlankText_boolText]
  | text t => rfl
  | _ => exact h.elim

/-- The outcome is the same but for what is shown of a misfit. -/
theorem coerce_asText (h : v.IsPlain) (kind : Kind) :
    coerce .textual kind v.asText =
      (coerce .structured kind v).mapError fun _ => ⟨showFound .textual v.asText⟩ := by
  unfold coerce
  rw [isSilent_asText h, fit?_asText h]
  cases isSilent kind v with
  | true => rfl
  | false => cases fit? kind v <;> rfl

end Cell

/-- A diagnostic without what is shown of a misfit. -/
def Diagnostic.withoutFound : Diagnostic → Diagnostic
  | .coercion origin row field expected _ => .coercion origin row field expected ""
  | d => d

namespace Record

/-- What coercion says of one field of a row and of its copy. -/
theorem outcome_asText (h : row.IsPlain) (f : String × Property) :
    (row.asText.lookup f.1).map (Cell.coerce .textual f.2.kind) =
      (row.lookup f.1).map fun v => (Cell.coerce .structured f.2.kind v).mapError fun _ =>
        ⟨Cell.showFound .textual v.asText⟩ := by
  rw [Row.lookup_asText, Option.map_map]
  refine Option.map_congr fun v hv => ?_
  exact Cell.coerce_asText (h.of_lookup hv) f.2.kind

theorem cell?_asText (h : row.IsPlain) (f : String × Property) :
    cell? .textual row.asText f = cell? .structured row f := by
  unfold cell?
  rw [outcome_asText h]
  cases row.lookup f.1 with
  | none => rfl
  | some v =>
      rw [Option.map_some, Option.map_some]
      rcases Cell.coerce .structured f.2.kind v with m | _ | c <;> rfl

theorem ofRow_asText (h : row.IsPlain) (s : Schema) :
    ofRow .textual s row.asText = ofRow .structured s row := by
  rw [ofRow_eq, ofRow_eq]
  exact List.filterMap_congr fun f _ => cell?_asText h f

theorem misfit?_asText (h : row.IsPlain) (identity : String) (index : Nat)
    (f : String × Property) :
    (misfit? ⟨identity, .textual⟩ row.asText index f).map Diagnostic.withoutFound =
      (misfit? ⟨identity, .structured⟩ row index f).map Diagnostic.withoutFound := by
  unfold misfit?
  rw [outcome_asText h]
  cases row.lookup f.1 with
  | none => rfl
  | some v =>
      rw [Option.map_some, Option.map_some]
      rcases Cell.coerce .structured f.2.kind v with m | _ | c <;> rfl

theorem misfits_asText (h : row.IsPlain) (identity : String) (s : Schema) (index : Nat) :
    (misfits ⟨identity, .textual⟩ s row.asText index).map Diagnostic.withoutFound =
      (misfits ⟨identity, .structured⟩ s row index).map Diagnostic.withoutFound := by
  rw [misfits_eq, misfits_eq, List.map_filterMap, List.map_filterMap]
  exact List.filterMap_congr fun f _ => misfit?_asText h identity index f

end Record

/-! ### Inference -/

namespace Inference

variable (settings : InferenceSettings)

theorem kindOf_asText (h : v.IsPlain) (depth : Nat) :
    (Inference.mk settings .textual).kindOf depth v.asText =
      (Inference.mk settings .structured).kindOf depth v := by
  cases v with
  | number n =>
      cases n with
      | integer n =>
          simp [Value.asText, kindOf, kindOfText, Number.isBlankText_write,
            Number.ofText?_write_integer h]
      | float x => exact h.elim
  | bool b =>
      simp [Value.asText, kindOf, kindOfText, isBlankText_boolText, ofText?_boolText,
        booleanOfText?_boolText]
  | text t => simp [Value.asText, kindOf, kindOfText, h.1, h.2]
  | _ => exact h.elim

theorem refineProperty_asText (h : v.IsPlain) (depth : Nat) (p : Property) :
    (Inference.mk settings .textual).refineProperty depth v.asText p =
      (Inference.mk settings .structured).refineProperty depth v p := by
  have hkind := kindOf_asText settings h depth
  cases v with
  | number n =>
      have hblank : Text.isBlankText n.write = false := n.isBlankText_write
      rw [Value.asText] at hkind ⊢
      simp only [refineProperty, hkind, hblank, Bool.false_eq_true, if_false]
  | bool b =>
      have hblank : Text.isBlankText (boolText b) = false := isBlankText_boolText b
      rw [Value.asText] at hkind ⊢
      simp only [refineProperty, hkind, hblank, Bool.false_eq_true, if_false]
  | text t =>
      simp only [Value.asText] at hkind ⊢
      simp only [refineProperty, hkind]
  | _ => exact h.elim

theorem propertiesOf_asText (h : row.IsPlain) (depth : Nat) :
    (Inference.mk settings .textual).propertiesOf depth row.asText =
      (Inference.mk settings .structured).propertiesOf depth row := by
  rw [propertiesOf_eq_map, propertiesOf_eq_map, Row.asText, List.map_map]
  refine List.map_congr_left fun f hf => ?_
  rw [Function.comp_apply, kindOf_asText settings (h f hf)]

theorem withoutMissing_asText (row : Row) (s : Schema) :
    withoutMissing row.asText s = withoutMissing row s := by
  refine List.map_congr_left fun f _ => ?_
  dsimp only
  rw [Row.lookup_asText, Option.isSome_map]

theorem refineFields_asText (h : row.IsPlain) (depth : Nat) (s : Schema) :
    (Inference.mk settings .textual).refineFields depth row.asText s =
      (Inference.mk settings .structured).refineFields depth row s := by
  induction row generalizing s with
  | nil => rfl
  | cons f rest ih =>
      obtain ⟨name, v⟩ := f
      have hv : v.IsPlain := h _ List.mem_cons_self
      have hrest : Row.IsPlain rest := fun f hf => h f (List.mem_cons_of_mem _ hf)
      have hproperty : (Inference.mk settings .textual).refineProperty depth v.asText =
          (Inference.mk settings .structured).refineProperty depth v :=
        funext (refineProperty_asText settings hv depth)
      change (Inference.mk settings .textual).refineFields depth
        ((name, v.asText) :: Row.asText rest) s = _
      rw [refineFields, refineFields, hproperty, kindOf_asText settings hv, ih hrest]

theorem refine_asText (h : row.IsPlain) (s : Schema) :
    (Inference.mk settings .textual).refine s row.asText =
      (Inference.mk settings .structured).refine s row := by
  rw [refine, refine, withoutMissing_asText, refineFields_asText settings h]

theorem ofRows_asText {rows : List Row} (h : ∀ row ∈ rows, row.IsPlain) :
    (Inference.mk settings .textual).ofRows (rows.map Row.asText) =
      (Inference.mk settings .structured).ofRows rows := by
  unfold ofRows
  dsimp only
  rw [settings.sample_map]
  have hsample : ∀ row ∈ settings.sample rows, row.IsPlain :=
    fun row hrow => h row (sample_subset settings rows hrow)
  cases hrows : settings.sample rows with
  | nil => rfl
  | cons first later =>
      rw [hrows] at hsample
      obtain ⟨hfirst, hlater⟩ := List.forall_mem_cons.mp hsample
      rw [List.map_cons]
      dsimp only
      rw [List.foldl_map, ofRow, ofRow, propertiesOf_asText settings hfirst]
      exact List.foldl_ext _ _ _ fun s row hrow => refine_asText settings (hlater row hrow) s

end Inference

/-! ### Both encodings -/

open TypeScript

/-- Rows of plain scalars and their textual copies agree under their encodings. The schema inferred
is the same; and under any schema, so under that one, each row and its copy make the same record and
the same literal, and the same fields are reported as misfits, whatever is shown of them. -/
theorem textual_copy_agrees (settings : InferenceSettings) (rows : List Row)
    (hplain : ∀ row ∈ rows, row.IsPlain) :
    (Inference.mk settings .textual).ofRows (rows.map Row.asText) =
      (Inference.mk settings .structured).ofRows rows ∧
    ∀ row ∈ rows, ∀ (s : Schema) (identity : String) (index : Nat),
      Record.ofRow .textual s row.asText = Record.ofRow .structured s row ∧
      rowLiteral .textual s row.asText = rowLiteral .structured s row ∧
      (Record.misfits ⟨identity, .textual⟩ s row.asText index).map Diagnostic.withoutFound =
        (Record.misfits ⟨identity, .structured⟩ s row index).map Diagnostic.withoutFound := by
  refine ⟨Inference.ofRows_asText settings hplain, fun row hrow s identity index => ?_⟩
  have hrecord := Record.ofRow_asText (hplain row hrow) s
  refine ⟨hrecord, ?_, Record.misfits_asText (hplain row hrow) identity s index⟩
  rw [rowLiteral, rowLiteral, hrecord]

/-- The second row has a boolean where a number is due, a misfit in either encoding. -/
theorem textual_copy_agrees_two_rows :
    let odd : Row := [("n", .bool true), ("on", .bool true), ("note", .text "")]
    let rows : List Row :=
      [[("n", .number (.integer (-12))), ("on", .bool false), ("note", .text "dim")], odd]
    let settings : InferenceSettings := { refineRequired := true, sampleSize := 0 }
    let s := (Inference.mk settings .structured).ofRows rows
    (∀ row ∈ rows, row.IsPlain) ∧
      (Inference.mk settings .textual).ofRows (rows.map Row.asText) = s ∧
      (∀ row ∈ rows, Record.ofRow .textual s row.asText = Record.ofRow .structured s row) ∧
      (Record.misfits ⟨"rows", .textual⟩ s odd.asText 1).map Diagnostic.withoutFound =
        [.coercion "rows" 1 "n" "numeric" ""] := by
  intro odd rows settings s
  have hplain : ∀ row ∈ rows, row.IsPlain := by
    have hdim : Number.ofText? "dim" = none ∧ booleanOfText? "dim" = none := ⟨rfl, rfl⟩
    have hempty : Number.ofText? "" = none ∧ booleanOfText? "" = none := ⟨rfl, rfl⟩
    have hnumber : fitsWord (-12) = true := by decide
    simp [rows, odd, Row.IsPlain, Value.IsPlain, hdim, hempty, hnumber, -Prod.forall]
  obtain ⟨hschema, hrows⟩ := textual_copy_agrees settings rows hplain
  have hodd : odd ∈ rows := List.mem_cons_of_mem _ List.mem_cons_self
  refine ⟨hplain, hschema, fun row hrow => (hrows row hrow s "rows" 0).1, ?_⟩
  obtain ⟨-, -, hmisfits⟩ := hrows odd hodd s "rows" 1
  rw [hmisfits]
  rfl

end RowTypings
