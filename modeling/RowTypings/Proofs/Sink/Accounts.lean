import RowTypings.Proofs.Sink.Requests
import RowTypings.Proofs.TypeScript.History

/-!
The account of an emission. A bundle makes one request for each of its modules, and goes on whatever
the sink answers; what was accepted and what was refused are the names of the modules, in order. To
refuse a module is to leave it out.
-/

namespace RowTypings.Sink

open TypeScript

/-- What a bundle asks of a sink. -/
def requestsOf (b : Bundle) (mode : EmitMode) : List Request :=
  b.modules.map fun m => ⟨m.artifactName, m.write b.indent, mode⟩

section

variable {σ : Type} (sink : Sink σ) (mode : EmitMode) (b : Bundle)

/-- A bundle is emitted by its requests, and the emission is the answers to them. -/
theorem emit_eq (s : σ) :
    b.emit sink mode s =
      let out := sink.persistAll s (requestsOf b mode)
      (out.1, (((requestsOf b mode).map Request.name).zip out.2).foldl
        (fun e answer => recorded e answer.1 answer.2) {}) := by
  unfold Bundle.emit requestsOf
  generalize ({} : Emission) = e
  induction b.modules generalizing s e with
  | nil => rfl
  | cons m ms ih =>
      rw [List.foldl_cons, emitModule_eq]
      exact ih _ _

theorem names_requestsOf : (requestsOf b mode).map Request.name = b.names.map (· ++ ".ts") := by
  simp [requestsOf, Bundle.names, Module.artifactName, Function.comp_def]

end

/-! ### Refusals by name -/

section

variable {σ : Type} {sink inner : Sink σ} {refused : String → Bool}

/-- The accepted and the refused names, in the order of the requests. -/
theorem recorded_persistAll
    (h : ∀ s name text mode, (sink.persist s name text mode).2.isOk = !refused name) (s : σ)
    (rs : List Request) (e : Emission) :
    let after := ((rs.map Request.name).zip (sink.persistAll s rs).2).foldl
      (fun e answer => recorded e answer.1 answer.2) e
    after.persisted = e.persisted ++ (rs.map Request.name).filter (!refused ·) ∧
      after.failures.map Prod.fst =
        e.failures.map Prod.fst ++ (rs.map Request.name).filter refused := by
  induction rs generalizing s e with
  | nil => simp
  | cons r rs ih =>
      have hanswer := h s r.name r.text r.mode
      simp only [persistAll, List.map_cons, List.zip_cons_cons, List.foldl_cons]
      obtain ⟨hpersisted, hfailures⟩ := ih (sink.persist s r.name r.text r.mode).1
        (recorded e r.name (sink.persist s r.name r.text r.mode).2)
      rw [hpersisted, hfailures]
      cases hout : (sink.persist s r.name r.text r.mode).2 with
      | ok u =>
          have haccepted : (!refused r.name) = true := by
            rw [← hanswer, hout]
            rfl
          rw [Bool.not_eq_true'] at haccepted
          simp [recorded, haccepted]
      | error cause =>
          have hrefused : (!refused r.name) = false := by
            rw [← hanswer, hout]
            rfl
          rw [Bool.not_eq_false'] at hrefused
          simp [recorded, hrefused]

/-- The sink refuses some names, whatever it holds, and does with all others what `inner` does. -/
structure Refuses (sink inner : Sink σ) (refused : String → Bool) : Prop where
  refuses : ∀ s name text mode, refused name = true →
    ∃ e, sink.persist s name text mode = (s, .error e)
  accepts : ∀ s name text mode, refused name = false →
    sink.persist s name text mode = ((inner.persist s name text mode).1, .ok ())

theorem Refuses.isOk (h : Refuses sink inner refused) (s : σ) (name text : String)
    (mode : EmitMode) : (sink.persist s name text mode).2.isOk = !refused name := by
  cases hname : refused name with
  | true =>
      obtain ⟨e, he⟩ := h.refuses s name text mode hname
      rw [he]
      rfl
  | false =>
      rw [h.accepts s name text mode hname]
      rfl

/-- What is refused might as well not have been asked for. -/
theorem Refuses.persistAll (h : Refuses sink inner refused) (s : σ) (rs : List Request) :
    (sink.persistAll s rs).1 = (inner.persistAll s (rs.filter fun r => !refused r.name)).1 := by
  induction rs generalizing s with
  | nil => rfl
  | cons r rs ih =>
      simp only [Sink.persistAll]
      cases hname : refused r.name with
      | true =>
          obtain ⟨e, he⟩ := h.refuses s r.name r.text r.mode hname
          rw [he, List.filter_cons_of_neg (by simp [hname]), ih]
      | false =>
          rw [h.accepts s r.name r.text r.mode hname, List.filter_cons_of_pos (by simp [hname]), ih]
          rfl

theorem refusing_refuses (inner : Sink σ)
    (hinner : ∀ s name text mode, (inner.persist s name text mode).2 = .ok ())
    (names : List String) : Refuses (inner.refusing names) inner names.contains where
  refuses s name text mode hname := ⟨.readOnly name, if_pos hname⟩
  accepts s name text mode hname := by
    show (if names.contains name = true then _ else _) = _
    rw [hname, if_neg Bool.false_ne_true, ← hinner s name text mode]

end

/-- Names that come once each have the texts they came with, in the order they came. -/
theorem persistAll_memory_of_nodup {rs : List Request} (h : (rs.map Request.name).Nodup) :
    (memory.persistAll [] rs).1 = rs.map fun r => (r.name, r.text) := by
  induction rs using List.reverseRecOn with
  | nil => rfl
  | append_singleton rs r ih =>
      rw [List.map_append, List.map_singleton] at h
      obtain ⟨hrs, -, hdisjoint⟩ := List.nodup_append.mp h
      have hnew : r.name ∉ Fields.names (rs.map fun r => (r.name, r.text)) := by
        rw [Fields.names, List.map_map]
        exact fun hmem => hdisjoint r.name hmem r.name (List.mem_singleton_self _) rfl
      have hnone : Shelf.text? (rs.map fun r => (r.name, r.text)) r.name = none :=
        Fields.lookup_eq_none_iff.mpr hnew
      rw [persistAll_concat, ih hrs]
      show Shelf.persist _ r.name r.text r.mode = _
      rw [Shelf.persist_eq, hnone, Fields.put_of_not_mem hnew, List.map_append]
      cases r.mode <;> simp [keptBy]

/-! ### Bundles -/

theorem nodup_names_requestsOf {b : Bundle} (h : b.names.Nodup) (mode : EmitMode) :
    ((requestsOf b mode).map Request.name).Nodup := by
  rw [names_requestsOf]
  exact h.map fun _ _ => (String.append_left_inj ".ts").mp

/-- A shelf that was empty holds the text of every module. -/
theorem emit_memory {b : Bundle} (h : b.names.Nodup) (mode : EmitMode) :
    (b.emit memory mode []).1 = b.modules.map fun m => (m.artifactName, m.write b.indent) := by
  rw [emit_eq]
  show (memory.persistAll [] (requestsOf b mode)).1 = _
  rw [persistAll_memory_of_nodup (nodup_names_requestsOf h mode), requestsOf, List.map_map]
  rfl

/-- The requests for the modules that are kept are those of a bundle without the others. -/
theorem requestsOf_ofHistory_filter (indent : String) (ds : List Declaration) (mode : EmitMode)
    (keep : String → Bool) :
    requestsOf (Bundle.ofHistory indent (ds.filter fun d => keep (d.moduleName ++ ".ts"))) mode =
      (requestsOf (Bundle.ofHistory indent ds) mode).filter fun r => keep r.name := by
  unfold requestsOf
  rw [Bundle.modules_ofHistory_filter indent ds fun n => keep (n ++ ".ts"),
    Bundle.indent_ofHistory, Bundle.indent_ofHistory, List.filter_map]
  rfl

/-- An emission accounts for every module. Each is offered once, in the order they were declared,
under names of their own, whatever the sink. What is persisted and what failed are the accepted and
the refused names, in that order, and together they are all. A shelf that was empty holds the
accepted artifacts in the end, each with the text of its module, as if the other modules had never
been declared. -/
theorem emission_accounts_for_every_module (indent : String) (ds : List Declaration)
    (mode : EmitMode) :
    let b := Bundle.ofHistory indent ds
    let rs := requestsOf b mode
    let names := rs.map Request.name
    (names = (ds.map Declaration.moduleName).eraseDups.map (· ++ ".ts") ∧ names.Nodup) ∧
    (∀ (σ : Type) (sink : Sink σ) (s : σ),
      b.emit sink mode s =
        let out := sink.persistAll s rs
        (out.1, (names.zip out.2).foldl (fun e answer => recorded e answer.1 answer.2) {})) ∧
    (∀ (σ : Type) (sink : Sink σ) (refused : String → Bool),
      (∀ s name text mode, (sink.persist s name text mode).2.isOk = !refused name) → ∀ s,
      let after := (b.emit sink mode s).2
      after.persisted = names.filter (!refused ·) ∧
      after.failures.map Prod.fst = names.filter refused ∧
      (after.persisted ++ after.failures.map Prod.fst).Perm names) ∧
    ∀ (sink : Sink Shelf) (refused : String → Bool), Refuses sink memory refused →
      let shelf := (b.emit sink mode []).1
      shelf = (b.modules.filter fun m => !refused m.artifactName).map
        (fun m => (m.artifactName, m.write indent)) ∧
      shelf = ((Bundle.ofHistory indent
        (ds.filter fun d => !refused (d.moduleName ++ ".ts"))).emit memory mode []).1 := by
  intro b rs names
  have hnames : names = b.names.map (· ++ ".ts") := names_requestsOf mode b
  have hnodup : names.Nodup := nodup_names_requestsOf (Bundle.nodup_names_ofHistory indent ds) mode
  have hemit : ∀ (σ : Type) (sink : Sink σ) (s : σ), b.emit sink mode s = _ :=
    fun σ sink s => emit_eq sink mode b s
  refine ⟨⟨?_, hnodup⟩, hemit, ?_, ?_⟩
  · rw [hnames, Bundle.names_ofHistory]
  · intro σ sink refused h s after
    obtain ⟨hpersisted, hfailures⟩ := recorded_persistAll h s rs {}
    have hafter : after = _ := congrArg Prod.snd (hemit σ sink s)
    rw [hafter, hpersisted, hfailures]
    refine ⟨rfl, rfl, ?_⟩
    exact List.perm_append_comm.trans (List.filter_append_perm refused names)
  · intro sink refused h shelf
    let kept := Bundle.ofHistory indent (ds.filter fun d => !refused (d.moduleName ++ ".ts"))
    have hshelf : shelf = (kept.emit memory mode []).1 := by
      rw [emit_eq, requestsOf_ofHistory_filter indent ds mode fun n => !refused n]
      exact (congrArg Prod.fst (hemit Shelf sink [])).trans (h.persistAll [] rs)
    refine ⟨?_, hshelf⟩
    rw [hshelf, emit_memory (Bundle.nodup_names_ofHistory indent _), Bundle.indent_ofHistory,
      Bundle.modules_ofHistory_filter indent ds fun n => !refused (n ++ ".ts")]
    rfl

/-- The first of two modules is refused, and the second is persisted all the same. -/
theorem emission_accounts_for_every_module_first_refused :
    let ds : List Declaration := [.module "first", .origin "second" "b.csv", .module "first"]
    let b := Bundle.ofHistory "  " ds
    let after := b.emit (memory.refusing ["first.ts"]) .append []
    after.2.persisted = ["second.ts"] ∧ after.2.failures.map Prod.fst = ["first.ts"] ∧
      after.1 = [("second.ts", "// Generated from b.csv. Do not edit.\n")] ∧
      after.1 = ((Bundle.ofHistory "  " [.origin "second" "b.csv"]).emit memory .append []).1 := by
  intro ds b after
  have hrefuses := refusing_refuses memory (fun _ _ _ _ => rfl) ["first.ts"]
  obtain ⟨-, -, haccount, hshelf⟩ := emission_accounts_for_every_module "  " ds .append
  obtain ⟨hpersisted, hfailures, -⟩ := haccount Shelf (memory.refusing ["first.ts"])
    ["first.ts"].contains hrefuses.isOk []
  obtain ⟨hheld, hleft⟩ := hshelf (memory.refusing ["first.ts"]) ["first.ts"].contains hrefuses
  exact ⟨hpersisted.trans (by decide +kernel), hfailures.trans (by decide +kernel),
    hheld.trans (by decide +kernel), hleft⟩

end RowTypings.Sink
