import RowTypings.Proofs.Files.Path

/-!
Where paths lead. Following names from a directory is told by a relation with a case for each kind
of entry, which counts the links on the way; whatever holds of resolved paths is shown by induction
on it.
-/

namespace RowTypings.FileTree

/-- A name of an entry, no point or double point and not too long. -/
structure IsName (name : String) : Prop where
  ne_here : name ≠ "."
  ne_up : name ≠ ".."
  short : name.utf8ByteSize ≤ longestName

/-- From `l`, the names lead to a target over `n` links, all links followed. -/
inductive Reaches (t : FileTree) : Nat → Location → List String → Target → Prop where
  | stay {l : Location} : t.Reaches 0 l [] (.present l)
  | here {n : Nat} {l : Location} {rest : List String} {target : Target}
      (h : t.Reaches n l rest target) : t.Reaches n l ("." :: rest) target
  | up {n : Nat} {l : Location} {rest : List String} {target : Target}
      (h : t.Reaches n l.dropLast rest target) : t.Reaches n l (".." :: rest) target
  | enter {n : Nat} {l : Location} {name : String} {rest : List String} {target : Target}
      (hname : IsName name) (hentry : t.lookup (l ++ [name]) = some .directory)
      (h : t.Reaches n (l ++ [name]) rest target) : t.Reaches n l (name :: rest) target
  | file {l : Location} {name : String} {content : ByteArray} (hname : IsName name)
      (hentry : t.lookup (l ++ [name]) = some (.file content)) :
      t.Reaches 0 l [name] (.present (l ++ [name]))
  | free {l : Location} {name : String} (hname : IsName name)
      (hentry : t.lookup (l ++ [name]) = none) : t.Reaches 0 l [name] (.free l name)
  | link {n : Nat} {l : Location} {name text : String} {rest : List String} {target : Target}
      (hname : IsName name) (hentry : t.lookup (l ++ [name]) = some (.link text))
      (h : t.Reaches n (start l text) (names text ++ rest) target) :
      t.Reaches (n + 1) l (name :: rest) target

/-- The location of a target, taken or free. -/
def Target.location : Target → Location
  | .present l => l
  | .free directory name => directory ++ [name]

/-! ### Following, name by name -/

section

variable (t : FileTree) (last : Bool) (links : Nat) (l : Location)

theorem follow_nil : t.follow last links l [] = .ok (.present l) := by
  unfold follow walk
  rfl

theorem follow_here (rest : List String) :
    t.follow last links l ("." :: rest) = t.follow last links l rest := by
  rw [follow, follow, walk]

theorem follow_up (rest : List String) :
    t.follow last links l (".." :: rest) = t.follow last links l.dropLast rest := by
  rw [follow, follow, walk]

theorem follow_long {name : String} (rest : List String) (hhere : name ≠ ".") (hup : name ≠ "..")
    (h : longestName < name.utf8ByteSize) :
    t.follow last links l (name :: rest) = .error .nameTooLong := by
  rw [follow, walk.eq_4 _ _ _ _ _ hhere hup, if_pos h]

theorem follow_name {name : String} (h : IsName name) (rest : List String) :
    t.follow last links l (name :: rest) =
      match t.lookup (l ++ [name]) with
      | none => if rest.isEmpty then .ok (.free l name) else .error .notFound
      | some .directory => t.follow last links (l ++ [name]) rest
      | some (.file _) =>
        if rest.isEmpty then .ok (.present (l ++ [name])) else .error .notDirectory
      | some (.link text) =>
        if rest.isEmpty && !last then .ok (.present (l ++ [name]))
        else
          match links with
          | 0 => .error .tooManyLinks
          | links + 1 => t.follow last links (start l text) (names text ++ rest) := by
  rw [follow, walk.eq_4 _ _ _ _ _ h.ne_here h.ne_up, if_neg (Nat.not_lt.mpr h.short)]
  cases t.lookup (l ++ [name]) with
  | none => cases rest <;> rfl
  | some entry =>
      cases entry with
      | directory => dsimp only; rw [follow]
      | file content => cases rest <;> rfl
      | link text => cases rest <;> cases last <;> cases links <;> rfl

end

variable {t : FileTree}

/-- Following all links is reaching, over as many links as are allowed; and a free name is reached
without following a link at the end. -/
theorem Reaches.of_follow {last : Bool} {links : Nat} {l : Location} {ns : List String}
    {target : Target} (h : t.follow last links l ns = .ok target)
    (hlast : last = true ∨ ∃ d name, target = .free d name) :
    ∃ n ≤ links, t.Reaches n l ns target := by
  -- a link uses up one of the links that are left; anything else, one of the names
  induction links using Nat.strongRecOn generalizing l ns with
  | ind links ihlinks =>
      induction ns generalizing l with
      | nil =>
          rw [follow_nil] at h
          obtain rfl := Except.ok.inj h
          exact ⟨0, Nat.zero_le _, .stay⟩
      | cons name rest ih =>
          by_cases hhere : name = "."
          · rw [hhere, follow_here] at h
            obtain ⟨n, hn, hreach⟩ := ih h
            exact ⟨n, hn, hhere ▸ hreach.here⟩
          by_cases hup : name = ".."
          · rw [hup, follow_up] at h
            obtain ⟨n, hn, hreach⟩ := ih h
            exact ⟨n, hn, hup ▸ hreach.up⟩
          by_cases hlong : longestName < name.utf8ByteSize
          · rw [t.follow_long last links l rest hhere hup hlong] at h
            cases h
          have hname : IsName name := ⟨hhere, hup, Nat.not_lt.mp hlong⟩
          rw [t.follow_name last links l hname] at h
          split at h <;> rename_i hentry
          · split at h <;> rename_i hrest
            · obtain rfl := Except.ok.inj h
              rw [List.isEmpty_iff.mp hrest]
              exact ⟨0, Nat.zero_le _, .free hname hentry⟩
            · cases h
          · obtain ⟨n, hn, hreach⟩ := ih h
            exact ⟨n, hn, .enter hname hentry hreach⟩
          · split at h <;> rename_i hrest
            · obtain rfl := Except.ok.inj h
              rw [List.isEmpty_iff.mp hrest]
              exact ⟨0, Nat.zero_le _, .file hname hentry⟩
            · cases h
          · split at h <;> rename_i hstop
            · -- a link that is not followed is no free name
              obtain rfl := Except.ok.inj h
              rcases hlast with rfl | ⟨d, name, hfree⟩
              · simp at hstop
              · cases hfree
            · split at h
              · cases h
              · obtain ⟨n, hn, hreach⟩ := ihlinks _ (Nat.lt_succ_self _) h
                exact ⟨n + 1, Nat.succ_le_succ hn, .link hname hentry hreach⟩

theorem Reaches.follow {n : Nat} {l : Location} {ns : List String} {target : Target}
    (h : t.Reaches n l ns target) {links : Nat} (hlinks : n ≤ links) :
    t.follow true links l ns = .ok target := by
  induction h generalizing links with
  | stay => exact t.follow_nil true links _
  | here _ ih => rw [follow_here, ih hlinks]
  | up _ ih => rw [follow_up, ih hlinks]
  | enter hname hentry _ ih => rw [t.follow_name _ _ _ hname, hentry]; exact ih hlinks
  | file hname hentry => rw [t.follow_name _ _ _ hname, hentry]; rfl
  | free hname hentry => rw [t.follow_name _ _ _ hname, hentry]; rfl
  | link hname hentry _ ih =>
      obtain ⟨links, rfl⟩ := Nat.exists_eq_add_of_le' (Nat.lt_of_lt_of_le (Nat.succ_pos _) hlinks)
      rw [t.follow_name _ _ _ hname, hentry]
      simp only [Bool.not_true, Bool.and_false, Bool.false_eq_true, if_false]
      exact ih (Nat.le_of_succ_le_succ hlinks)

/-! ### Ways -/

/-- Names lead to one target at most. -/
theorem Reaches.unique {n n' : Nat} {l : Location} {ns : List String} {target target' : Target}
    (h : t.Reaches n l ns target) (h' : t.Reaches n' l ns target') : target = target' :=
  Except.ok.inj ((h.follow (Nat.le_max_left n n')).symm.trans (h'.follow (Nat.le_max_right n n')))

/-- A way leads through the place that its first names lead to. -/
theorem Reaches.split {n : Nat} {l : Location} {ns ms : List String} {target : Target}
    (h : t.Reaches n l (ns ++ ms) target) (hms : ms ≠ []) :
    ∃ m, (∃ k ≤ n, t.Reaches k l ns (.present m)) ∧ ∃ k ≤ n, t.Reaches k m ms target := by
  have hwhole : ∀ {n l target}, t.Reaches n l ms target →
      ∃ m, (∃ k ≤ n, t.Reaches k l [] (.present m)) ∧ ∃ k ≤ n, t.Reaches k m ms target :=
    fun h => ⟨_, ⟨0, Nat.zero_le _, .stay⟩, _, Nat.le_refl _, h⟩
  -- the induction is on the whole way; the first part may be used up in any of its steps
  generalize hall : ns ++ ms = all at h
  induction h generalizing ns with
  | stay => exact absurd (List.append_eq_nil_iff.mp hall).2 hms
  | here h ih =>
      rcases ns with _ | ⟨name, ns⟩
      · obtain rfl : ms = _ := hall
        exact hwhole h.here
      · obtain ⟨rfl, hrest⟩ := List.cons.inj hall
        obtain ⟨m, ⟨k, hk, hfirst⟩, hlast⟩ := ih hrest
        exact ⟨m, ⟨k, hk, hfirst.here⟩, hlast⟩
  | up h ih =>
      rcases ns with _ | ⟨name, ns⟩
      · obtain rfl : ms = _ := hall
        exact hwhole h.up
      · obtain ⟨rfl, hrest⟩ := List.cons.inj hall
        obtain ⟨m, ⟨k, hk, hfirst⟩, hlast⟩ := ih hrest
        exact ⟨m, ⟨k, hk, hfirst.up⟩, hlast⟩
  | enter hname hentry h ih =>
      rcases ns with _ | ⟨name, ns⟩
      · obtain rfl : ms = _ := hall
        exact hwhole (h.enter hname hentry)
      · obtain ⟨rfl, hrest⟩ := List.cons.inj hall
        obtain ⟨m, ⟨k, hk, hfirst⟩, hlast⟩ := ih hrest
        exact ⟨m, ⟨k, hk, hfirst.enter hname hentry⟩, hlast⟩
  | file hname hentry =>
      rcases ns with _ | ⟨name, ns⟩
      · obtain rfl : ms = _ := hall
        exact hwhole (.file hname hentry)
      · exact absurd (List.append_eq_nil_iff.mp (List.cons.inj hall).2).2 hms
  | free hname hentry =>
      rcases ns with _ | ⟨name, ns⟩
      · obtain rfl : ms = _ := hall
        exact hwhole (.free hname hentry)
      · exact absurd (List.append_eq_nil_iff.mp (List.cons.inj hall).2).2 hms
  | @link _ _ _ text rest _ hname hentry h ih =>
      rcases ns with _ | ⟨name, ns⟩
      · obtain rfl : ms = _ := hall
        exact hwhole (h.link hname hentry)
      · obtain ⟨rfl, hrest⟩ := List.cons.inj hall
        -- the names of the link are walked before the rest of the first part
        have hboth : (names text ++ ns) ++ ms = names text ++ rest :=
          (List.append_assoc ..).trans (congrArg (names text ++ ·) hrest)
        obtain ⟨m, ⟨k, hk, hfirst⟩, j, hj, hlast⟩ := ih hboth
        exact ⟨m, ⟨k + 1, Nat.succ_le_succ hk, hfirst.link hname hentry⟩, j, Nat.le_succ_of_le hj,
          hlast⟩

/-- What is known of the first names may be left out. -/
theorem Reaches.after {n k : Nat} {l m : Location} {ns ms : List String} {target : Target}
    (h : t.Reaches n l (ns ++ ms) target) (hfirst : t.Reaches k l ns (.present m)) :
    ∃ j ≤ n, t.Reaches j m ms target := by
  cases ms with
  | nil =>
      rw [List.append_nil] at h
      rw [h.unique hfirst]
      exact ⟨0, Nat.zero_le _, .stay⟩
  | cons name ms =>
      obtain ⟨m', ⟨_, -, hfirst'⟩, hlast⟩ := h.split (List.cons_ne_nil name ms)
      obtain rfl := Target.present.inj (hfirst'.unique hfirst)
      exact hlast

/-- On the way to something that is there, nothing is missing. -/
theorem Reaches.not_free_of_prefix {n k : Nat} {l m d : Location} {ns ms : List String}
    {name : String} (h : t.Reaches n l ms (.present m)) (hfront : ns <+: ms) :
    ¬t.Reaches k l ns (.free d name) := by
  intro hfree
  obtain ⟨rest, rfl⟩ := hfront
  cases rest with
  | nil =>
      rw [List.append_nil] at h
      cases h.unique hfree
  | cons first rest =>
      obtain ⟨_, ⟨_, -, hfirst⟩, -⟩ := h.split (List.cons_ne_nil first rest)
      cases hfirst.unique hfree

/-- A symbolic link stands somewhere on the way along the names from `l`. -/
def LinkOn (t : FileTree) (l : Location) (way : List String) : Prop :=
  ∃ part text, part ≠ [] ∧ part <+: way ∧ t.lookup (l ++ part) = some (.link text)

theorem LinkOn.of_prefix {l : Location} {way way' : List String} (h : t.LinkOn l way)
    (hway : way <+: way') : t.LinkOn l way' := by
  obtain ⟨part, text, hpart, hfront, hentry⟩ := h
  exact ⟨part, text, hpart, hfront.trans hway, hentry⟩

/-- Without steps up and without links, a way leads along its own names. -/
theorem Reaches.location_eq {n : Nat} {l : Location} {ns : List String} {target : Target}
    (h : t.Reaches n l ns target) (hup : ".." ∉ ns)
    (hlinks : ¬t.LinkOn l (ns.filter (· != "."))) :
    target.location = l ++ ns.filter (· != ".") := by
  have hcons : ∀ {name : String} (rest : List String), IsName name →
      ((name :: rest).filter (· != ".")) = name :: rest.filter (· != ".") :=
    fun rest hname => List.filter_cons_of_pos (by simpa using hname.ne_here)
  induction h with
  | stay => exact (List.append_nil _).symm
  | here _ ih => exact ih (fun hmem => hup (List.mem_cons_of_mem _ hmem)) hlinks
  | up => exact absurd List.mem_cons_self hup
  | @enter _ l name rest _ hname _ _ ih =>
      rw [hcons rest hname] at hlinks ⊢
      rw [ih (fun hmem => hup (List.mem_cons_of_mem _ hmem)) ?_, List.append_assoc]
      · rfl
      · rintro ⟨part, text, -, hfront, hentry⟩
        have hpart : name :: part <+: name :: rest.filter (· != ".") :=
          List.cons_prefix_cons.mpr ⟨rfl, hfront⟩
        rw [List.append_assoc] at hentry
        exact hlinks ⟨name :: part, text, List.cons_ne_nil _ _, hpart, hentry⟩
  | @file _ name _ hname => rw [hcons [] hname]; rfl
  | @free _ name hname => rw [hcons [] hname]; rfl
  | @link _ l name text rest _ hname hentry =>
      rw [hcons rest hname] at hlinks
      exact absurd ⟨[name], text, List.cons_ne_nil _ _, ⟨_, rfl⟩, hentry⟩ hlinks

end RowTypings.FileTree
