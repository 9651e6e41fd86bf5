import Mathlib.Data.List.Induction
import Mathlib.Data.List.Nodup
import RowTypings.Fields

/-!
Ordered fields without repeated names. Where every name stands once, looking a name up is the same
as finding its entry, whatever the order of the entries.
-/

namespace RowTypings.Fields

variable {α β : Type}

theorem mem_names_of_mem {fields : List (String × α)} {f : String × α} (h : f ∈ fields) :
    f.1 ∈ names fields :=
  List.mem_map_of_mem h

theorem exists_mem_of_mem_names {fields : List (String × α)} {name : String}
    (h : name ∈ names fields) : ∃ a, (name, a) ∈ fields := by
  obtain ⟨⟨_, a⟩, hmem, rfl⟩ := List.mem_map.mp h
  exact ⟨a, hmem⟩

theorem mem_of_lookup {fields : List (String × α)} {name : String} {a : α}
    (h : fields.lookup name = some a) : (name, a) ∈ fields := by
  obtain ⟨before, later, rfl, -⟩ := List.lookup_eq_some_iff.mp h
  simp

theorem lookup_eq_none_iff {fields : List (String × α)} {name : String} :
    fields.lookup name = none ↔ name ∉ names fields := by
  rw [List.lookup_eq_none_iff]
  simp only [names, List.mem_map, not_exists, not_and, bne_iff_ne]
  exact forall₂_congr fun _ _ => ne_comm

/-- An entry is what looking its name up gives, provided no other entry has that name. -/
theorem lookup_eq_some_iff {fields : List (String × α)} (h : (names fields).Nodup)
    {name : String} {a : α} : fields.lookup name = some a ↔ (name, a) ∈ fields := by
  refine ⟨mem_of_lookup, fun hmem => ?_⟩
  induction fields with
  | nil => simp at hmem
  | cons f rest ih =>
      obtain ⟨hnot, hrest⟩ := List.nodup_cons.mp h
      rcases List.mem_cons.mp hmem with rfl | hmem
      · exact List.lookup_cons_self
      · have hne : (name == f.1) = false :=
          beq_false_of_ne fun heq => hnot (heq ▸ mem_names_of_mem hmem)
        rw [List.lookup_cons, hne]
        exact ih hrest hmem

theorem lookup_of_mem {fields : List (String × α)} (h : (names fields).Nodup)
    {f : String × α} (hmem : f ∈ fields) : fields.lookup f.1 = some f.2 :=
  (lookup_eq_some_iff h).mpr hmem

/-- Lookup takes the first field of the name. -/
theorem exists_idxOf?_of_lookup {fields : List (String × α)} {name : String} {a : α}
    (h : fields.lookup name = some a) :
    ∃ n, (names fields).idxOf? name = some n ∧ fields[n]? = some (name, a) := by
  induction fields with
  | nil => cases h
  | cons f rest ih =>
      obtain ⟨own, b⟩ := f
      rw [List.lookup_cons] at h
      by_cases hname : name = own
      · subst hname
        have heq : b = a := by simpa using h
        subst heq
        exact ⟨0, by simp [names, List.idxOf?_cons], rfl⟩
      · obtain ⟨n, hn, hget⟩ := ih (by simpa [beq_false_of_ne hname] using h)
        refine ⟨n + 1, ?_, hget⟩
        rw [names] at hn
        simp [names, List.idxOf?_cons, hn, beq_false_of_ne (Ne.symm hname)]

/-- Two entries of one name are the same entry. -/
theorem eq_of_mem {fields : List (String × α)} (h : (names fields).Nodup) {f g : String × α}
    (hf : f ∈ fields) (hg : g ∈ fields) (hname : f.1 = g.1) : f.2 = g.2 := by
  have hlook := lookup_of_mem h hf
  rw [hname, lookup_of_mem h hg] at hlook
  exact (Option.some.inj hlook).symm

/-- A value is smaller than the fields it stands among: recursion on values may go through them. -/
theorem sizeOf_snd_lt [SizeOf α] {fields : List (String × α)} {f : String × α}
    (h : f ∈ fields) : sizeOf f.2 < sizeOf fields := by
  have hlt := List.sizeOf_lt_of_mem h
  obtain ⟨name, a⟩ := f
  simp only [Prod.mk.sizeOf_spec] at hlt
  simp only
  omega

/-- Looking up a field whose entry was made from the field of that name. -/
theorem lookup_map (fields : List (String × α)) (g : String × α → β) (name : String) :
    (fields.map fun f => (f.1, g f)).lookup name =
      (fields.lookup name).map fun a => g (name, a) := by
  induction fields with
  | nil => rfl
  | cons f rest ih =>
      obtain ⟨n, a⟩ := f
      by_cases hname : name = n
      · subst hname
        simp
      · have hne : (name == n) = false := beq_false_of_ne hname
        simp only [List.map_cons, List.lookup_cons, hne, ih]

theorem lookup_cons_eq {κ : Type} [BEq κ] [LawfulBEq κ] [DecidableEq κ] (f : κ × α)
    (rest : List (κ × α)) (key : κ) :
    (f :: rest).lookup key = if key = f.1 then some f.2 else rest.lookup key := by
  by_cases hkey : key = f.1
  · rw [if_pos hkey, List.lookup_cons, beq_iff_eq.mpr hkey]
  · rw [if_neg hkey, List.lookup_cons, beq_false_of_ne hkey]

/-- Fields that have a value for every one of some names. -/
theorem lookup_map_names (keys : List String) (g : String → α) (name : String) :
    (keys.map fun n => (n, g n)).lookup name = if name ∈ keys then some (g name) else none := by
  induction keys with
  | nil => rfl
  | cons n rest ih =>
      rw [List.map_cons, lookup_cons_eq, ih]
      by_cases hname : name = n <;> simp [hname]

theorem lookup_put (fields : List (String × α)) (name : String) (a : α) (n : String) :
    (put fields name a).lookup n = if n = name then some a else fields.lookup n := by
  induction fields with
  | nil => exact lookup_cons_eq (name, a) [] n
  | cons f rest ih =>
      obtain ⟨first, v⟩ := f
      unfold put
      split <;> rename_i hfirst
      · obtain rfl := eq_of_beq hfirst
        rw [lookup_cons_eq, lookup_cons_eq]
        split <;> rfl
      · rw [lookup_cons_eq, lookup_cons_eq, ih]
        split <;> rename_i hn
        · rw [if_neg fun heq => hfirst (beq_iff_eq.mpr (hn.symm.trans heq))]
        · rfl

theorem put_of_not_mem {fields : List (String × α)} {name : String} (h : name ∉ names fields)
    (a : α) : put fields name a = fields ++ [(name, a)] := by
  induction fields with
  | nil => rfl
  | cons f rest ih =>
      obtain ⟨hne, hrest⟩ := not_or.mp fun hor => h (List.mem_cons.mpr hor)
      rw [put, if_neg (by simpa using Ne.symm hne), ih hrest, List.cons_append]

theorem names_put (fields : List (String × α)) (name : String) (a : α) :
    names (put fields name a) =
      if name ∈ names fields then names fields else names fields ++ [name] := by
  induction fields with
  | nil => rfl
  | cons f rest ih =>
      obtain ⟨own, b⟩ := f
      rw [put]
      by_cases hname : own = name
      · simp [names, hname]
      · rw [names] at ih
        simp only [names, beq_iff_eq, hname, if_false, List.map_cons, ih, List.mem_cons,
          Ne.symm hname, false_or]
        by_cases hmem : name ∈ rest.map Prod.fst <;> simp [hmem]

theorem mem_put {fields : List (String × α)} {name : String} {a : α} {f : String × α}
    (h : f ∈ put fields name a) : f = (name, a) ∨ f ∈ fields := by
  induction fields with
  | nil => exact .inl (List.mem_singleton.mp h)
  | cons g rest ih =>
      obtain ⟨own, b⟩ := g
      rw [put] at h
      split at h
      · rename_i hname
        obtain rfl := eq_of_beq hname
        rcases List.mem_cons.mp h with h | h
        · exact .inl h
        · exact .inr (List.mem_cons_of_mem _ h)
      · rcases List.mem_cons.mp h with rfl | h
        · exact .inr List.mem_cons_self
        · exact (ih h).imp_right (List.mem_cons_of_mem _)

/-- No name stands twice in a list made of entries one by one. -/
theorem nodup_names_ofList (entries : List (String × α)) : (names (ofList entries)).Nodup := by
  rw [ofList]
  induction entries using List.reverseRecOn with
  | nil => exact List.nodup_nil
  | append_singleton entries e ih =>
      rw [List.foldl_concat, names_put]
      split
      · exact ih
      · rename_i hname
        rw [← List.concat_eq_append]
        exact ih.concat hname

theorem mem_of_mem_ofList {entries : List (String × α)} {f : String × α}
    (h : f ∈ ofList entries) : f ∈ entries := by
  rw [ofList] at h
  induction entries using List.reverseRecOn with
  | nil => cases h
  | append_singleton entries e ih =>
      rw [List.foldl_concat] at h
      rcases mem_put h with rfl | h
      · simp
      · exact List.mem_append_left _ (ih h)

theorem ofList_eq_self {entries : List (String × α)} (h : (names entries).Nodup) :
    ofList entries = entries := by
  rw [ofList]
  induction entries using List.reverseRecOn with
  | nil => rfl
  | append_singleton entries e ih =>
      rw [names, List.map_append, List.map_singleton, List.nodup_append] at h
      have hname : e.1 ∉ names entries := fun hmem => h.2.2 _ hmem _ (by simp) rfl
      rw [List.foldl_concat, ih h.1, put_of_not_mem hname]

/-- Each name has the place of the first entry of that name. -/
theorem names_ofList (entries : List (String × α)) :
    names (ofList entries) = (names entries).eraseDups := by
  rw [ofList]
  induction entries using List.reverseRecOn with
  | nil => rfl
  | append_singleton entries e ih =>
      have hnames : names (entries ++ [e]) = names entries ++ [e.1] := by simp [names]
      rw [List.foldl_concat, names_put, ih, hnames, List.eraseDups_append]
      by_cases hmem : e.1 ∈ names entries
      · simp [List.removeAll, hmem]
      · simp [List.removeAll, hmem, List.eraseDups_cons]

/-- Each name has the value of the last entry of that name. -/
theorem lookup_ofList (entries : List (String × α)) (name : String) :
    (ofList entries).lookup name = entries.reverse.lookup name := by
  rw [ofList]
  induction entries using List.reverseRecOn with
  | nil => rfl
  | append_singleton entries e ih =>
      rw [List.foldl_concat, lookup_put, ih, List.reverse_concat, lookup_cons_eq]

theorem lookup_ofList_of_last {before after : List (String × α)} {name : String} (a : α)
    (h : name ∉ names after) :
    (ofList (before ++ (name, a) :: after)).lookup name = some a := by
  have hafter : after.reverse.lookup name = none := by
    rw [lookup_eq_none_iff, names, List.map_reverse, List.mem_reverse]
    exact h
  rw [lookup_ofList, List.reverse_append, List.reverse_cons, List.append_assoc,
    List.lookup_append, hafter, Option.none_or, List.singleton_append, List.lookup_cons_self]

/-- Dropping and rewriting entries, but not their marks, leaves the order of the marks. -/
theorem map_filterMap_sublist {γ δ ε : Type} {g : γ → Option δ} {mark : γ → ε} {mark' : δ → ε}
    (hg : ∀ f e, g f = some e → mark' e = mark f) (entries : List γ) :
    ((entries.filterMap g).map mark').Sublist (entries.map mark) := by
  induction entries with
  | nil => exact List.Sublist.refl _
  | cons f rest ih =>
      cases hf : g f with
      | none =>
          rw [List.filterMap_cons_none hf]
          exact ih.cons (mark f)
      | some e =>
          rw [List.filterMap_cons_some hf, List.map_cons, hg f e hf]
          exact ih.cons_cons (mark f)

/-- Of what is made of distinct entries, at most one thing is about a given name. -/
theorem countP_filterMap {γ : Type} {fields : List (String × α)} (h : (names fields).Nodup)
    {g : String × α → Option γ} {about : γ → Bool} {name : String}
    (hg : ∀ f c, g f = some c → (about c = true ↔ f.1 = name)) :
    (fields.filterMap g).countP about =
      if ((fields.lookup name).bind fun a => g (name, a)).isSome then 1 else 0 := by
  induction fields with
  | nil => rfl
  | cons f rest ih =>
      obtain ⟨n, a⟩ := f
      have hnot : n ∉ names rest := (List.nodup_cons.mp h).1
      have hrest := ih (List.nodup_cons.mp h).2
      by_cases hname : name = n
      · subst hname
        rw [lookup_eq_none_iff.mpr hnot] at hrest
        rw [List.lookup_cons_self]
        cases ha : g (name, a) with
        | none => simpa [List.filterMap_cons_none ha, ha] using hrest
        | some c =>
            have hc : about c = true := (hg _ c ha).mpr rfl
            simpa [List.filterMap_cons_some ha, ha, hc] using hrest
      · rw [List.lookup_cons, beq_false_of_ne hname]
        cases ha : g (n, a) with
        | none => rwa [List.filterMap_cons_none ha]
        | some c =>
            have hc : ¬ about c = true := fun hc => hname ((hg _ c ha).mp hc).symm
            rwa [List.filterMap_cons_some ha, List.countP_cons_of_neg hc]

end RowTypings.Fields
