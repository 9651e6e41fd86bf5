import Mathlib.Data.List.Nodup
import RowTypings.Proofs.Fields
import RowTypings.TypeScript.Interface
import RowTypings.TypeScript.RecordLiteral

/-!
The keys of siblings. No key comes twice, for the numbers tried outnumber the keys in use; so the
members of an interface and the entries of a literal, which take their keys from one schema, meet
again at the key.
-/

namespace RowTypings.TypeScript

/-! ### Numbered texts -/

theorem append_number_injective (base : String) :
    Function.Injective fun n : Nat => base ++ toString n := by
  intro m n h
  have hrepr : toString m = toString n := (String.append_right_inj base).mp h
  have hdigits : Nat.toDigits 10 m = Nat.toDigits 10 n := by
    rw [← Nat.toList_repr, ← Nat.toList_repr]
    exact congrArg String.toList hrepr
  have hread := congrArg (fun digits => Nat.ofDigitChars 10 digits 0) hdigits
  simpa using hread

/-- Not all numbers tried are taken: with the text itself they would be more texts than are used. -/
theorem exists_append_number_not_mem {used : List String} {base : String} (hbase : base ∈ used) :
    ∃ n ∈ List.range' 2 used.length, base ++ toString n ∉ used := by
  by_contra hall
  push Not at hall
  let tried := (List.range' 2 used.length).map fun n => base ++ toString n
  have hfirst : base ∉ tried := by
    intro hmem
    obtain ⟨n, -, hn⟩ := List.mem_map.mp hmem
    have hlength := congrArg String.length hn
    have hpos : 0 < (toString n).length := Nat.length_repr_pos
    simp only [String.length_append] at hlength
    omega
  have hnodup : (base :: tried).Nodup :=
    List.nodup_cons.mpr ⟨hfirst, List.Nodup.map (append_number_injective base) List.nodup_range'⟩
  have hsubset : base :: tried ⊆ used := by
    refine List.cons_subset.mpr ⟨hbase, fun text htext => ?_⟩
    obtain ⟨n, hn, rfl⟩ := List.mem_map.mp htext
    exact hall n hn
  have hle := hnodup.length_le_of_subset hsubset
  simp only [tried, List.length_cons, List.length_map, List.length_range'] at hle
  omega

/-! ### Keys of siblings -/

namespace PropertyKey

theorem exists_withNumber_not_mem {used : List String} {k : PropertyKey} (hk : k.text ∈ used) :
    ∃ n ∈ List.range' 2 used.length, (k.withNumber n).text ∉ used :=
  exists_append_number_not_mem hk

theorem fresh_text_not_mem (used : List String) (k : PropertyKey) :
    (fresh used k).text ∉ used := by
  unfold fresh
  split
  · rename_i hused
    split
    · rename_i n hn
      have hfree := List.find?_some hn
      simpa using hfree
    · rename_i hnone
      obtain ⟨n, hn, hfree⟩ := exists_withNumber_not_mem (List.contains_iff_mem.mp hused)
      have htaken := List.find?_eq_none.mp hnone n hn
      simp [hfree] at htaken
  · rename_i hfree
    simpa using hfree

@[simp] theorem length_assign (used names : List String) :
    (assign used names).length = names.length := by
  induction names generalizing used with
  | nil => rfl
  | cons name names ih => simp [assign, ih]

theorem text_not_mem_of_mem_assign {used names : List String} {k : PropertyKey}
    (h : k ∈ assign used names) : k.text ∉ used := by
  induction names generalizing used with
  | nil => cases h
  | cons name names ih =>
      rcases List.mem_cons.mp h with rfl | h
      · exact fresh_text_not_mem used (ofName name)
      · exact fun hused => ih h (List.mem_cons_of_mem _ hused)

theorem nodup_texts_assign (used names : List String) :
    ((assign used names).map text).Nodup := by
  induction names generalizing used with
  | nil => exact List.nodup_nil
  | cons name names ih =>
      refine List.nodup_cons.mpr ⟨fun hmem => ?_, ih _⟩
      obtain ⟨k, hk, htext⟩ := List.mem_map.mp hmem
      exact text_not_mem_of_mem_assign hk (htext ▸ List.mem_cons_self)

end PropertyKey

@[simp] theorem length_uniqueKeys (names : List String) :
    (uniqueKeys names).length = names.length :=
  PropertyKey.length_assign [] names

theorem nodup_texts_uniqueKeys (names : List String) :
    ((uniqueKeys names).map PropertyKey.text).Nodup :=
  PropertyKey.nodup_texts_assign [] names

/-! ### Fields with their keys -/

/-- The fields of a schema, each with its key. -/
def keyed (s : Schema) : List ((String × Property) × PropertyKey) :=
  s.zip (uniqueKeys s.names)

theorem map_fst_keyed (s : Schema) : (keyed s).map Prod.fst = s :=
  List.map_fst_zip (by simp [Schema.names])

theorem map_snd_keyed (s : Schema) : (keyed s).map Prod.snd = uniqueKeys s.names :=
  List.map_snd_zip (by simp [Schema.names])

theorem mem_of_mem_keyed {s : Schema} {f : String × Property} {key : PropertyKey}
    (h : (f, key) ∈ keyed s) : f ∈ s :=
  (List.of_mem_zip h).1

theorem nodup_texts_keyed (s : Schema) : ((keyed s).map fun e => e.2.text).Nodup := by
  have h := nodup_texts_uniqueKeys s.names
  rwa [← map_snd_keyed s, List.map_map] at h

/-- The text of a key tells the field. -/
theorem eq_of_key_text_eq {s : Schema} {f g : String × Property} {key other : PropertyKey}
    (hf : (f, key) ∈ keyed s) (hg : (g, other) ∈ keyed s) (h : key.text = other.text) : f = g :=
  congrArg Prod.fst (List.inj_on_of_nodup_map (nodup_texts_keyed s) hf hg h)

theorem keyTable_eq (s : Schema) :
    keyTable s = (keyed s).map fun e => (e.1.1, e.2, e.1.2.kind) :=
  List.map_uncurry_zip_eq_zipWith.symm

@[simp] theorem names_keyTable (s : Schema) : Fields.names (keyTable s) = s.names := by
  conv_rhs => rw [← map_fst_keyed s]
  rw [keyTable_eq, Fields.names, Schema.names, List.map_map, List.map_map]
  rfl

theorem memberTypes_eq_map (maxDepth level : Nat) (s : Schema) :
    memberTypes maxDepth level s = s.map fun f => memberType maxDepth level f.2.kind := by
  induction s with
  | nil => rfl
  | cons f s ih => rw [memberTypes, ih, List.map_cons]

theorem schemaGaps_eq_flatMap (maxDepth level : Nat) (s : Schema) :
    schemaGaps maxDepth level s = s.flatMap fun f => kindGaps maxDepth level f.1 f.2.kind := by
  induction s with
  | nil => rfl
  | cons f s ih => rw [schemaGaps, ih, List.flatMap_cons]

theorem membersOf_eq (maxDepth level : Nat) (s : Schema) :
    membersOf maxDepth level s = (keyed s).map fun e =>
      (MemberHead.ofProperty e.2 e.1.2, memberType maxDepth level e.1.2.kind) := by
  have hheads : headsOf s = (keyed s).map fun e => MemberHead.ofProperty e.2 e.1.2 := by
    rw [headsOf, List.zipWith_comm]
    exact List.map_uncurry_zip_eq_zipWith.symm
  have htypes : memberTypes maxDepth level s =
      (keyed s).map fun e => memberType maxDepth level e.1.2.kind := by
    conv_lhs => rw [memberTypes_eq_map, ← map_fst_keyed s, List.map_map]
    rfl
  rw [membersOf, hheads, htypes, List.zip_map']

theorem lookup_keyTable {s : Schema} (hs : s.names.Nodup) {name : String} {key : PropertyKey}
    {kind : Kind} : (keyTable s).lookup name = some (key, kind) ↔
      ∃ p, ((name, p), key) ∈ keyed s ∧ p.kind = kind := by
  rw [Fields.lookup_eq_some_iff (by rwa [names_keyTable]), keyTable_eq, List.mem_map]
  constructor
  · rintro ⟨⟨⟨_, p⟩, _⟩, hmem, heq⟩
    cases heq
    exact ⟨p, hmem, rfl⟩
  · rintro ⟨p, hmem, rfl⟩
    exact ⟨_, hmem, rfl⟩

theorem lookup_keyTable_eq_none {s : Schema} {name : String} :
    (keyTable s).lookup name = none ↔ name ∉ s.names := by
  rw [Fields.lookup_eq_none_iff, names_keyTable]

end RowTypings.TypeScript
