import Mathlib.Data.List.Forall2
import RowTypings.Proofs.Run.Batch
import RowTypings.Run.Session

/-!
A run as a sequence of calls. Each call transforms one source or skips it, and each adds one report.
A call that fails adds nothing else, so a run that never makes it ends in the same state but for
that report, and emits the same artifacts.
-/

namespace RowTypings

/-- One call on a session. The files are those there are when the call is made. -/
inductive Call where
  | transform (t : FileTree) (source : Source)
  | skip (identity message : String)

def Call.identity : Call → String
  | transform _ source => source.identity
  | skip identity _ => identity

/-- The call that is made for a configured source. -/
def Call.ofEntry (t : FileTree) (entry : SourceEntry) : Call :=
  match entry.source with
  | .ok source => transform t source
  | .error e => skip entry.identity e.message

namespace Session

def perform (s : Session) : Call → Session
  | .transform t source => (s.transform t source).session
  | .skip identity message => (s.skip identity message).1

/-- The call fails when it is made in this session. To skip a source is to fail. -/
def rejects (s : Session) : Call → Bool
  | .transform t source =>
    match (s.transform t source).result with
    | .ok _ => false
    | .error _ => true
  | .skip .. => true

def performAll (s : Session) (calls : List Call) : Session := calls.foldl perform s

/-- The session without the reports of what failed. -/
def successful (s : Session) : Session :=
  { s with reports := s.reports.filter SourceReport.isSuccess }

/-! ### Declaring -/

variable (s : Session)

theorem declareInterface_settings (module : String) (source : Source) (compiled : Compiled) :
    (s.declareInterface module source compiled).1.settings = s.settings := by
  unfold declareInterface
  dsimp only
  split <;> rfl

theorem declareConstant_settings (module : String) (source : Source) (compiled : Compiled) :
    (s.declareConstant module source compiled).1.settings = s.settings := by
  unfold declareConstant
  dsimp only
  cases s.settings.layout <;> dsimp only <;> split <;> rfl

theorem declare_settings (module : String) (source : Source) (compiled : Compiled) :
    (s.declare module source compiled).1.settings = s.settings := by
  change ((s.declareInterface ..).1.declareConstant ..).1.settings = _
  rw [declareConstant_settings, declareInterface_settings]

variable (reports : List SourceReport)

theorem declareInterface_with_reports (module : String) (source : Source) (compiled : Compiled) :
    ({ s with reports }.declareInterface module source compiled).1 =
      { (s.declareInterface module source compiled).1 with reports } := by
  unfold declareInterface
  dsimp only
  split <;> rfl

theorem declareConstant_with_reports (module : String) (source : Source) (compiled : Compiled) :
    ({ s with reports }.declareConstant module source compiled).1 =
      { (s.declareConstant module source compiled).1 with reports } := by
  unfold declareConstant
  dsimp only
  cases s.settings.layout <;> dsimp only <;> split <;> rfl

/-- What is declared does not depend on earlier reports, and leaves them as they are. -/
theorem declare_with_reports (module : String) (source : Source) (compiled : Compiled) :
    ({ s with reports }.declare module source compiled).1 =
      { (s.declare module source compiled).1 with reports } := by
  change (({ s with reports }.declareInterface ..).1.declareConstant ..).1 = _
  rw [declareInterface_with_reports, declareConstant_with_reports]
  rfl

theorem declare_reports (module : String) (source : Source) (compiled : Compiled) :
    (s.declare module source compiled).1.reports = s.reports := by
  have h : (s.declare module source compiled).1 =
      { (s.declare module source compiled).1 with reports := s.reports } :=
    s.declare_with_reports s.reports module source compiled
  rw [h]

/-! ### One call -/

theorem transform_of_ok {t : FileTree} {source : Source} {reported : List Diagnostic}
    {compiled : Compiled} (h : compileSource s.settings t source = (reported, .ok compiled)) :
    let module := s.moduleFor source.moduleName
    let report := successReport source module compiled reported
    s.transform t source =
      ⟨(s.declare module source compiled).1.addReport report,
        reported ++ (s.declare module source compiled).2, .ok report⟩ := by
  simp only [transform, h]

theorem transform_of_error {t : FileTree} {source : Source} {reported : List Diagnostic}
    {e : SourceError} (h : compileSource s.settings t source = (reported, .error e)) :
    let module := s.moduleFor source.moduleName
    s.transform t source =
      ⟨s.addReport (failureReport source.identity module e.message), reported, .error e⟩ := by
  simp only [transform, h]

/-- All that a call does: it fails and only adds a report that says so, or it is about a source that
compiles, and then declares what was compiled and reports that. -/
theorem perform_cases (c : Call) :
    (s.rejects c = true ∧
      ∃ module message, s.perform c = s.addReport (failureReport c.identity module message)) ∨
    ∃ t source reported compiled, c = .transform t source ∧ s.rejects c = false ∧
      compileSource s.settings t source = (reported, .ok compiled) ∧
      s.perform c =
        (s.declare (s.moduleFor source.moduleName) source compiled).1.addReport
          (successReport source (s.moduleFor source.moduleName) compiled reported) := by
  cases c with
  | skip identity message => exact .inl ⟨rfl, _, message, rfl⟩
  | transform t source =>
      rcases hcompile : compileSource s.settings t source with ⟨reported, e | compiled⟩
      · have hstep := s.transform_of_error hcompile
        refine .inl ⟨?_, s.moduleFor source.moduleName, e.message, ?_⟩
        · rw [rejects, hstep]
        · rw [perform, hstep]
          rfl
      · have hstep := s.transform_of_ok hcompile
        refine .inr ⟨t, source, reported, compiled, rfl, ?_, hcompile, ?_⟩
        · rw [rejects, hstep]
        · rw [perform, hstep]

/-- Whether a call fails is decided by the settings. -/
theorem rejects_congr {s s' : Session} (h : s.settings = s'.settings) (c : Call) :
    s.rejects c = s'.rejects c := by
  cases c with
  | skip identity message => rfl
  | transform t source =>
      rcases hcompile : compileSource s.settings t source with ⟨reported, e | compiled⟩
      · rw [rejects, rejects, s.transform_of_error hcompile, s'.transform_of_error (h ▸ hcompile)]
      · rw [rejects, rejects, s.transform_of_ok hcompile, s'.transform_of_ok (h ▸ hcompile)]

/-- A source is transformed unless it cannot be opened or one of its rows cannot be had. -/
theorem rejects_transform_eq_false_iff (t : FileTree) (source : Source) :
    s.rejects (.transform t source) = false ↔
      ∃ rows : List Row, source.rows t = .ok (rows.map .ok) := by
  rcases hcompile : compileSource s.settings t source with ⟨reported, e | compiled⟩
  · rw [rejects, s.transform_of_error hcompile]
    refine iff_of_false (by simp) ?_
    rintro ⟨rows, hrows⟩
    rw [compileSource, hrows] at hcompile
    dsimp only at hcompile
    rw [compileRows_map_ok] at hcompile
    cases hcompile
  · rw [rejects, s.transform_of_ok hcompile]
    refine iff_of_true rfl ?_
    rw [compileSource] at hcompile
    split at hcompile
    · cases hcompile
    · rename_i rows hrows
      rcases rows.all_or_first_error with ⟨given, rfl⟩ | ⟨before, e, after, rfl⟩
      · exact ⟨given, hrows⟩
      · have herror := compileRows_first_error s.settings
          { identity := source.identity, encoding := source.encoding } before e after
        rw [hcompile] at herror
        cases herror

theorem perform_settings (c : Call) : (s.perform c).settings = s.settings := by
  rcases s.perform_cases c with ⟨-, _, _, h⟩ | ⟨_, _, _, _, -, -, -, h⟩
  · rw [h]
    rfl
  · rw [h]
    exact s.declare_settings ..

/-- Every call adds one report, of its own source, which says whether it failed. -/
theorem perform_reports (c : Call) :
    ∃ r, (s.perform c).reports = s.reports ++ [r] ∧ r.identity = c.identity ∧
      r.error?.isSome = s.rejects c := by
  rcases s.perform_cases c with
    ⟨hfails, module, message, h⟩ | ⟨t, source, reported, compiled, rfl, hsucceeds, -, h⟩
  · refine ⟨_, congrArg Session.reports h, rfl, ?_⟩
    rw [hfails]
    rfl
  · rw [h, hsucceeds]
    exact ⟨_, congrArg (· ++ [_]) (s.declare_reports ..), rfl, rfl⟩

/-! ### Sequences of calls -/

theorem performAll_settings (calls : List Call) : (s.performAll calls).settings = s.settings := by
  induction calls generalizing s with
  | nil => rfl
  | cons c calls ih => exact (ih (s.perform c)).trans (s.perform_settings c)

theorem successful_addReport_of_isSuccess {r : SourceReport} (h : r.isSuccess = true) :
    (s.addReport r).successful = s.successful.addReport r := by
  simp [successful, addReport, h]

theorem successful_addReport_of_failure {r : SourceReport} (h : r.isSuccess = false) :
    (s.addReport r).successful = s.successful := by
  simp [successful, addReport, h]

theorem successful_declare (module : String) (source : Source) (compiled : Compiled) :
    (s.declare module source compiled).1.successful =
      (s.successful.declare module source compiled).1 := by
  rw [successful, declare_reports]
  exact (s.declare_with_reports (s.reports.filter SourceReport.isSuccess) ..).symm

/-- A failing call leaves the session as it was, but for its report. -/
theorem successful_perform_of_rejects {c : Call} (h : s.rejects c = true) :
    (s.perform c).successful = s.successful := by
  rcases s.perform_cases c with ⟨-, module, message, hstep⟩ | ⟨_, _, _, _, -, hsucceeds, -⟩
  · rw [hstep]
    exact s.successful_addReport_of_failure rfl
  · rw [h] at hsucceeds
    cases hsucceeds

/-- A call that does not fail does the same whatever has failed before. -/
theorem successful_perform_of_accepts {c : Call} (h : s.rejects c = false) :
    (s.perform c).successful = s.successful.perform c := by
  rcases s.perform_cases c with
    ⟨hfails, -⟩ | ⟨t, source, reported, compiled, rfl, -, hcompile, hstep⟩
  · rw [h] at hfails
    cases hfails
  · let module := s.moduleFor source.moduleName
    let report := successReport source module compiled reported
    calc (s.perform (.transform t source)).successful
      _ = ((s.declare module source compiled).1.addReport report).successful := by rw [hstep]
      _ = (s.declare module source compiled).1.successful.addReport report :=
        successful_addReport_of_isSuccess _ rfl
      _ = (s.successful.declare module source compiled).1.addReport report := by
        rw [successful_declare]
      _ = s.successful.perform (.transform t source) :=
        (congrArg Step.session (s.successful.transform_of_ok hcompile)).symm

/-- Without the calls that fail, a run ends as it does with them, but for their reports. -/
theorem performAll_filter (calls : List Call) :
    s.successful.performAll (calls.filter fun c => !s.rejects c) =
      (s.performAll calls).successful := by
  induction calls generalizing s with
  | nil => rfl
  | cons c calls ih =>
      have hrest : (s.perform c).rejects = s.rejects :=
        funext (rejects_congr (s.perform_settings c))
      have ih := ih (s.perform c)
      rw [hrest] at ih
      cases hc : s.rejects c with
      | true =>
          rw [List.filter_cons_of_neg (by simp [hc]), ← s.successful_perform_of_rejects hc]
          exact ih
      | false =>
          rw [List.filter_cons_of_pos (by simp [hc])]
          rw [s.successful_perform_of_accepts hc] at ih
          exact ih

/-- Call by call, in order, every report is of its call and says whether the call failed. -/
theorem performAll_reports (calls : List Call) :
    ∃ reports, (s.performAll calls).reports = s.reports ++ reports ∧
      List.Forall₂ (fun c r => r.identity = c.identity ∧ r.error?.isSome = s.rejects c)
        calls reports := by
  induction calls generalizing s with
  | nil => exact ⟨[], (List.append_nil _).symm, .nil⟩
  | cons c calls ih =>
      obtain ⟨r, hr, hidentity, herror⟩ := s.perform_reports c
      obtain ⟨reports, hreports, hrest⟩ := ih (s.perform c)
      rw [funext (rejects_congr (s.perform_settings c))] at hrest
      refine ⟨r :: reports, ?_, .cons ⟨hidentity, herror⟩ hrest⟩
      change ((s.perform c).performAll calls).reports = _
      rw [hreports, hr, List.append_assoc]
      rfl

/-- Trying the configured sources is such a sequence of calls. -/
theorem ofSettings_eq_performAll (settings : Settings) (t : FileTree) :
    ofSettings settings t =
      (start settings).performAll (settings.sources.map (Call.ofEntry t)) := by
  rw [performAll, List.foldl_map, ofSettings]
  congr 1
  funext s entry
  unfold addEntry Call.ofEntry
  cases entry.source with
  | error e => rfl
  | ok source =>
      change (s.attempt t source).1 = (s.transform t source).session
      unfold attempt
      dsimp only
      split <;> rfl

/-- Calls that fail leave their reports and nothing else. Whether a call fails does not depend on
the calls before it: a source fails if it cannot be opened or one of its rows cannot be had. Made
without the failing ones, a sequence of calls gathers the same declarations and emits the same
artifacts through any sink; every call has one report, in its place, and the reports that say no
error are those of the other run. The configured sources are tried by such a sequence. -/
theorem failed_calls_leave_only_reports {σ : Type} (settings : Settings) (calls : List Call)
    (sink : Sink σ) (state : σ) :
    let initial := start settings
    let full := initial.performAll calls
    let clean := initial.performAll (calls.filter fun c => !initial.rejects c)
    let finish := full.finalize sink state
    (∀ earlier c, (initial.performAll earlier).rejects c = initial.rejects c) ∧
    (∀ t source, initial.rejects (.transform t source) = false ↔
      ∃ rows : List Row, source.rows t = .ok (rows.map .ok)) ∧
    (clean.bundle = full.bundle ∧ clean.combined = full.combined ∧
      clean.finalBundle = full.finalBundle) ∧
    clean.finalize sink state =
      { finish with report := { finish.report with sources := clean.reports } } ∧
    List.Forall₂ (fun c r => r.identity = c.identity ∧ r.error?.isSome = initial.rejects c)
      calls full.reports ∧
    clean.reports = full.reports.filter SourceReport.isSuccess ∧
    ∀ t, ofSettings settings t =
      initial.performAll (settings.sources.map (Call.ofEntry t)) := by
  intro initial full clean finish
  have hclean : clean = full.successful := initial.performAll_filter calls
  obtain ⟨reports, hreports, hcalls⟩ := initial.performAll_reports calls
  refine ⟨fun earlier => rejects_congr (initial.performAll_settings earlier),
    initial.rejects_transform_eq_false_iff, ?_, ?_, ?_, ?_, ofSettings_eq_performAll settings⟩
  · rw [hclean]
    exact ⟨rfl, rfl, rfl⟩
  · rw [hclean]
    rfl
  · rw [show full.reports = reports from hreports]
    exact hcalls
  · rw [hclean]
    rfl

end Session

end RowTypings
