import StyleCheck.Command.Run
import StyleCheck.Proofs.Validation.Content

/-!
# How a check ends

A check makes its reports and delivers them. If it does not fail on the way, it ends as clean when
every report is clean, and with errors otherwise (`Completes.exit_eq`). Its reports have one finding
for each error: none was merged with others (`Completes.isUnmerged`).

An action that is done went through its parts one after the other, so from the end of a sequence of
actions one gets the end of each (`ok_of_bind`).
-/

namespace StyleCheck

namespace Command

open CommandLine (CheckArguments Invocation)

variable {α β : Type} {session after : Session}

theorem run_bind (x : Action α) (f : α → Action β) (session : Session) :
    (x >>= f).run session =
      match x.run session with
      | (.ok a, middle) => (f a).run middle
      | (.error failure, middle) => (.error failure, middle) := by
  show ExceptT.bindCont f (x.run session).1 (x.run session).2 = _
  rcases x.run session with ⟨_ | _, middle⟩ <;> rfl

theorem ok_of_bind {x : Action α} {f : α → Action β} {b : β}
    (h : (x >>= f).run session = (.ok b, after)) :
    ∃ a middle, x.run session = (.ok a, middle) ∧ (f a).run middle = (.ok b, after) := by
  rw [run_bind] at h
  split at h
  next a middle hx => exact ⟨a, middle, hx, h⟩
  next => cases h

variable {surroundings : Surroundings} {invocation : Invocation} {log : Output.Log}
  {arguments : CheckArguments} {reports : List Report} {disk : Disk}

/-- Reports that were delivered are told to be clean if all of them are. -/
theorem eq_of_conclude {format : Output.Format} {clean : Bool}
    (h : (conclude surroundings invocation log arguments format reports).run session =
      (.ok clean, after)) : clean = reports.all (·.isClean) := by
  obtain ⟨_, traced, -, h⟩ := ok_of_bind h
  obtain ⟨_, delivered, -, h⟩ := ok_of_bind h
  cases h
  rfl

/-- The command is a check that makes these reports of the files on the disk and does not fail. -/
structure Completes (surroundings : Surroundings) (invocation : Invocation) (disk : Disk)
    (reports : List Report) : Prop where
  validates : ∃ arguments config session, invocation.command = .check arguments ∧
    (validate surroundings invocation (logOf surroundings invocation) arguments).run { disk } =
      (.ok (some (config, reports)), session)
  ends : (run surroundings invocation disk).exit ≠ .failed

/-- **A check that does not fail ends as its reports say.** -/
theorem Completes.exit_eq (h : Completes surroundings invocation disk reports) :
    (run surroundings invocation disk).exit =
      if reports.all (·.isClean) then .clean else .errors := by
  obtain ⟨⟨arguments, config, session, hcommand, hvalidate⟩, hends⟩ := h
  unfold run at hends ⊢
  rcases hrun : (perform surroundings invocation (logOf surroundings invocation)).run { disk }
    with ⟨answer, last⟩
  simp only [hrun] at hends ⊢
  cases answer with
  | error failure => exact absurd rfl hends
  | ok exit =>
    simp only [perform, hcommand] at hrun
    obtain ⟨clean, concluded, hcheck, hrun⟩ := ok_of_bind hrun
    cases hrun
    rw [check, run_bind, hvalidate] at hcheck
    rw [eq_of_conclude hcheck]

/-- The reports of a check are those that the files it selected are given one by one. -/
theorem exists_of_validate {config : Config}
    (h : (validate surroundings invocation log arguments).run session =
      (.ok (some (config, reports)), after)) :
    ∃ (files : List Path) (disk : Disk) (fs : FileSystem),
      reports = (Report.ofPaths (Validation.fileFindings config.checkOptions
        (fun path (resolver : EditorConfig.Resolver) => resolver.settings fs path) disk.read)
        files {}).1 := by
  obtain ⟨loaded, middle, -, h⟩ := ok_of_bind h
  obtain ⟨_, middle, -, h⟩ := ok_of_bind h
  obtain ⟨files, middle, -, h⟩ := ok_of_bind h
  obtain ⟨_, middle, -, h⟩ := ok_of_bind h
  -- Without files nothing is reported, so the files were checked.
  split at h
  · obtain ⟨_, middle, -, h⟩ := ok_of_bind h
    cases h
  · obtain ⟨made, middle, hmade, h⟩ := ok_of_bind h
    cases h
    obtain ⟨disk, middle, -, hmade⟩ := ok_of_bind hmade
    obtain ⟨fs, middle, -, hmade⟩ := ok_of_bind hmade
    cases hmade
    exact ⟨files, disk, fs, rfl⟩

end Command

/-! ## The reports of a check -/

namespace Validation

variable {σ : Type} {finding : Finding} {findings : List Finding}

theorem further_of_mem_contentFindings {content : List Char} {settings : EditorSettings}
    {options : CheckOptions} (h : finding ∈ contentFindings content settings options) :
    finding.further = 0 := by
  obtain ⟨line, violation, rfl⟩ := exists_of_mem_contentFindings h
  rfl

theorem further_of_mem_fileFindings {options : CheckOptions} {lookup : SettingsLookup σ}
    {read : Path → Except IoError (List UInt8)} {path : Path} {state : σ}
    (h : (fileFindings options lookup read path state).1 = .ok findings)
    (hfinding : finding ∈ findings) : finding.further = 0 := by
  unfold fileFindings bytesFindings at h
  cases hread : read path with
  | error cause => simp [hread] at h
  | ok bytes =>
    cases htext : textToCheck bytes with
    | error error => simp [hread, htext] at h
    | ok text =>
      cases text with
      | none =>
        simp only [hread, htext, Except.ok.injEq] at h
        rw [← h] at hfinding
        cases hfinding
      | some text =>
        rcases hlookup : lookup path state with ⟨_ | settings, after⟩
        · simp [hread, htext, hlookup] at h
        · simp only [hread, htext, hlookup, Except.ok.injEq] at h
          rw [← h] at hfinding
          exact further_of_mem_contentFindings hfinding

end Validation

namespace Report

/-- No finding of the report was merged with others. -/
def IsUnmerged (report : Report) : Prop := ∀ finding ∈ report.findings, finding.further = 0

variable {σ : Type} {path : Path} {paths : List Path} {report : Report}
  {outcome : Except Validation.FileFailure (List Finding)}

theorem isUnmerged_ofOutcome
    (h : ∀ findings, outcome = .ok findings → ∀ finding ∈ findings, finding.further = 0) :
    (ofOutcome path outcome).IsUnmerged := by
  intro finding hfinding
  cases outcome with
  | error failure =>
    rw [List.mem_singleton.1 hfinding]
    rfl
  | ok findings => exact h findings rfl finding hfinding

theorem isUnmerged_of_mem_ofPaths
    {check : Path → σ → Except Validation.FileFailure (List Finding) × σ} {state : σ}
    (hcheck : ∀ path state findings, (check path state).1 = .ok findings →
      ∀ finding ∈ findings, finding.further = 0)
    (h : report ∈ (ofPaths check paths state).1) : report.IsUnmerged := by
  induction paths generalizing state with
  | nil => cases h
  | cons path paths ih =>
    rcases List.mem_cons.1 h with rfl | h
    · exact isUnmerged_ofOutcome (hcheck path state)
    · exact ih h

end Report

/-- **The reports of a check are not merged.** -/
theorem Command.Completes.isUnmerged {surroundings : Command.Surroundings}
    {invocation : CommandLine.Invocation} {disk : Disk} {reports : List Report}
    (h : Command.Completes surroundings invocation disk reports) :
    ∀ report ∈ reports, report.IsUnmerged := by
  obtain ⟨⟨arguments, config, session, -, hvalidate⟩, -⟩ := h
  obtain ⟨files, disk, fs, rfl⟩ := Command.exists_of_validate hvalidate
  intro report hreport
  refine Report.isUnmerged_of_mem_ofPaths (fun path state findings hok finding hfinding => ?_)
    hreport
  exact Validation.further_of_mem_fileFindings hok hfinding

end StyleCheck
