import RowTypings.Proofs.Json.ReadBack

/-!
What the reader makes of a text, whatever the text is: a value in which no object names a field
twice, and which nests no deeper than the reader goes.
-/

namespace RowTypings.Json

section Lists

variable {item : List Char → Reading Value} {P : Value → Prop} {limit : Nat} {cs : List Char}
  {r : Value × List Char}

/-- A list that is read holds what was read before, and items that were read one by one. -/
theorem exists_items_of_readItems (hitem : ∀ cs r, item cs = .ok r → P r.1) {done : List Value}
    (hdone : ∀ v ∈ done, P v) {steps : Nat} (h : readItems item done steps cs = .ok r) :
    ∃ items, r.1 = .array items ∧ ∀ v ∈ items, P v := by
  induction steps generalizing done cs with
  | zero => cases h
  | succ steps ih =>
      rw [readItems] at h
      obtain ⟨first, hfirst, h⟩ := exists_of_bind_eq_ok h
      have hall : ∀ v ∈ first.1 :: done, P v :=
        List.forall_mem_cons.mpr ⟨hitem cs first hfirst, hdone⟩
      dsimp only at h
      split at h
      · cases h
      · cases h
        exact ⟨_, rfl, fun v hv => hall v (List.mem_reverse.mp hv)⟩
      · split at h
        · cases h
        · cases h
        · exact ih hall h
      · cases h

theorem of_readField (hitem : ∀ cs r, item cs = .ok r → P r.1) {f : (String × Value) × List Char}
    (h : readField limit item cs = .ok f) : P f.1.2 := by
  unfold readField at h
  split at h
  · obtain ⟨name, -, h⟩ := exists_of_bind_eq_ok h
    dsimp only at h
    split at h
    · cases h
    · obtain ⟨value, hvalue, h⟩ := exists_of_bind_eq_ok h
      cases h
      exact hitem _ value hvalue
    · cases h
  · cases h

/-- An object that is read is made of fields, the values of which were read one by one. -/
theorem exists_fields_of_readFields (hitem : ∀ cs r, item cs = .ok r → P r.1)
    {done : List (String × Value)} (hdone : ∀ f ∈ done, P f.2) {steps : Nat}
    (h : readFields limit item done steps cs = .ok r) :
    ∃ fields, r.1 = .object (Fields.ofList fields) ∧ ∀ f ∈ fields, P f.2 := by
  induction steps generalizing done cs with
  | zero => cases h
  | succ steps ih =>
      rw [readFields] at h
      obtain ⟨first, hfirst, h⟩ := exists_of_bind_eq_ok h
      have hall : ∀ f ∈ first.1 :: done, P f.2 :=
        List.forall_mem_cons.mpr ⟨of_readField hitem hfirst, hdone⟩
      dsimp only at h
      split at h
      · cases h
      · cases h
        exact ⟨_, rfl, fun f hf => hall f (List.mem_reverse.mp hf)⟩
      · split at h
        · cases h
        · cases h
        · exact ih hall h
      · cases h

theorem exists_items_of_readArray (hitem : ∀ cs r, item cs = .ok r → P r.1)
    (h : readArray limit item cs = .ok r) :
    ∃ items, r.1 = .array items ∧ ∀ v ∈ items, P v := by
  unfold readArray at h
  split at h
  · cases h
  · cases h
    exact ⟨[], rfl, by simp⟩
  · exact exists_items_of_readItems hitem (by simp) h

theorem exists_fields_of_readObject (hitem : ∀ cs r, item cs = .ok r → P r.1)
    (h : readObject limit item cs = .ok r) :
    ∃ fields, r.1 = .object (Fields.ofList fields) ∧ ∀ f ∈ fields, P f.2 := by
  unfold readObject at h
  split at h
  · cases h
  · cases h
    exact ⟨[], rfl, by simp⟩
  · exact exists_fields_of_readFields hitem (by simp) h

end Lists

variable {limit levels : Nat} {cs : List Char} {r : Value × List Char}

theorem value_of_readWord {v : Value} {word : List Char} (h : readWord v word cs = .ok r) :
    r.1 = v := by
  induction word generalizing cs with
  | nil =>
      cases h
      rfl
  | cons w word ih =>
      cases cs with
      | nil => cases h
      | cons c cs =>
          rw [readWord] at h
          split at h
          · exact ih h
          · cases h

/-- A value that is read has no parts, or a level is left for it and it is read as a list or an
object. -/
theorem readValue_cases (h : readValue limit levels cs = .ok r) :
    (r.1.Keyed ∧ r.1.nesting = 0) ∨
    ∃ inner rest, levels = inner + 1 ∧
      (readArray limit (readValue limit inner) rest = .ok r ∨
        readObject limit (readValue limit inner) rest = .ok r) := by
  have hword {v : Value} (hv : v.Keyed ∧ v.nesting = 0) {word cs : List Char}
      (h : readWord v word cs = .ok r) : r.1.Keyed ∧ r.1.nesting = 0 := by
    rwa [value_of_readWord h]
  have hnumber {negative : Bool} {cs : List Char}
      (h : (readNumber negative cs).bind (fun n => .ok (Value.number n.1, n.2)) = .ok r) :
      r.1.Keyed ∧ r.1.nesting = 0 := by
    obtain ⟨n, -, h⟩ := exists_of_bind_eq_ok h
    cases h
    exact ⟨by simp [Value.Keyed], rfl⟩
  rw [readValue.eq_def] at h
  dsimp only at h
  split at h
  · cases h
  · exact .inl (hword ⟨by simp [Value.Keyed], rfl⟩ h)
  · exact .inl (hword ⟨by simp [Value.Keyed], rfl⟩ h)
  · exact .inl (hword ⟨by simp [Value.Keyed], rfl⟩ h)
  · obtain ⟨s, -, h⟩ := exists_of_bind_eq_ok h
    cases h
    exact .inl ⟨by simp [Value.Keyed], rfl⟩
  · exact .inl (hnumber h)
  · split at h
    · cases h
    · exact .inr ⟨_, _, rfl, .inl h⟩
  · split at h
    · cases h
    · exact .inr ⟨_, _, rfl, .inr h⟩
  · split at h
    · exact .inl (hnumber h)
    · cases h

/-- What the reader makes is keyed, and nests no deeper than the levels it was given. -/
theorem keyed_of_readValue (h : readValue limit levels cs = .ok r) :
    r.1.Keyed ∧ r.1.nesting ≤ levels := by
  induction levels generalizing cs r with
  | zero =>
      rcases readValue_cases h with ⟨hkeyed, hnesting⟩ | ⟨inner, -, hlevels, -⟩
      · exact ⟨hkeyed, Nat.le_of_eq hnesting⟩
      · cases hlevels
  | succ levels ih =>
      have hitem : ∀ cs r, readValue limit levels cs = .ok r →
          r.1.Keyed ∧ r.1.nesting ≤ levels := fun cs r h => ih h
      rcases readValue_cases h with ⟨hkeyed, hnesting⟩ | ⟨inner, rest, hlevels, h | h⟩
      · exact ⟨hkeyed, by omega⟩
      · obtain rfl := Nat.succ.inj hlevels
        obtain ⟨items, hitems, hall⟩ :=
          exists_items_of_readArray (P := fun v => v.Keyed ∧ v.nesting ≤ levels) hitem h
        have hnesting := Value.itemsNesting_le_iff.mpr fun v hv => (hall v hv).2
        rw [hitems, Value.Keyed, Value.nesting]
        exact ⟨fun v hv => (hall v hv).1, Nat.succ_le_succ hnesting⟩
      · obtain rfl := Nat.succ.inj hlevels
        obtain ⟨fields, hfields, hall⟩ :=
          exists_fields_of_readObject (P := fun v => v.Keyed ∧ v.nesting ≤ levels) hitem h
        have hkept : ∀ f ∈ Fields.ofList fields, f.2.Keyed ∧ f.2.nesting ≤ levels :=
          fun f hf => hall f (Fields.mem_of_mem_ofList hf)
        have hnesting := Value.fieldsNesting_le_iff.mpr fun f hf => (hkept f hf).2
        rw [hfields, Value.Keyed, Value.nesting]
        refine ⟨⟨Fields.nodup_names_ofList fields, fun f hf => (hkept f hf).1⟩, ?_⟩
        exact Nat.succ_le_succ hnesting

theorem keyed_of_read {text : String} {v : Value} (h : read text = .ok v) :
    v.Keyed ∧ v.nesting ≤ nestingLimit := by
  rw [read] at h
  obtain ⟨r, hr, h⟩ := exists_of_bind_eq_ok h
  dsimp only at h
  split at h
  · cases h
    exact keyed_of_readValue hr
  · cases h

end RowTypings.Json
