/-
The path of the log file.  Settings are refused for want of a home directory
just where the path refers to a variable that is not set.  A home directory that
is missing itself goes unnoticed: the tilde that stands for it is kept.
-/
import Stencil.Proofs.Settings.PathReference
import Stencil.Settings

namespace Stencil

namespace Environment

open PathPiece

variable {environment : Environment}

theorem expandTilde_of_homeless (hhome : environment.home? = none)
    (cs : List Char) :
    environment.expandTilde cs = cs := by
  unfold expandTilde
  split
  · rw [hhome]
    split <;> rfl
  · rfl

theorem expandPath?_eq_none_iff {path : String} {pieces : List PathPiece}
    (hcut : Cut pieces path.toList) :
    environment.expandPath? path = none ↔ Unset environment pieces := by
  rw [expandPath?, Option.map_eq_none_iff, hcut.substitute?_eq le_rfl,
    expansion?_eq_none_iff]

/-- Without a home directory a path is the text of its pieces, a tilde
included. -/
theorem expandPath?_of_homeless (hhome : environment.home? = none)
    {path : String} {pieces : List PathPiece} (hcut : Cut pieces path.toList) :
    environment.expandPath? path =
      (expansion? environment pieces).map String.ofList := by
  rw [expandPath?, hcut.substitute?_eq le_rfl]
  refine congrArg (Option.map · (expansion? environment pieces))
    (funext fun expanded => ?_)
  rw [expandTilde_of_homeless hhome, ite_self]

end Environment

namespace Settings

open PathPiece

variable {refusal : String → String} {environment : Environment}
  {path text file : String}

/-- A settings text of the version that is understood, in which a log file is
given. -/
def LogsTo (text file : String) : Prop :=
  ∃ mode log, content? text = some (supportedVersion, mode, log) ∧
    log.file = some file

/-- The only thing that can still fail is the expansion of the path. -/
theorem ofText_of_logsTo (refusal : String → String) (environment : Environment)
    (path : String) (h : LogsTo text file) :
    (environment.expandPath? file = none →
      ofText refusal environment path text = .error .noHome) ∧
      ∀ expanded, environment.expandPath? file = some expanded →
        ∃ settings, ofText refusal environment path text = .ok settings ∧
          settings.log.file = some expanded := by
  obtain ⟨mode, log, hcontent, hfile⟩ := h
  simp only [ofText, hcontent, ne_eq, not_true_eq_false, if_false,
    expandLog, hfile]
  constructor
  · intro hnone
    rw [hnone]
    rfl
  · intro expanded hexpanded
    rw [hexpanded]
    exact ⟨_, rfl, rfl⟩

/-- A text that is refused for want of a home directory has no other fault. -/
theorem logsTo_of_noHome
    (h : ofText refusal environment path text = .error .noHome) :
    ∃ file, LogsTo text file := by
  rw [ofText] at h
  split at h
  next => cases h
  next version mode log hcontent =>
      split at h
      next => cases h
      next hversion =>
          obtain rfl : version = supportedVersion := not_not.1 hversion
          cases hfile : log.file with
          | none =>
              simp only [expandLog, hfile] at h
              cases h
          | some file => exact ⟨file, mode, log, hcontent, hfile⟩

/-- Settings are refused for want of a home directory just where the path of the
log file has a reference to a variable that is not set and that nothing stands
in for; a home directory makes no difference to that.  Where there is none, a
path whose references have values is accepted and left as these make it, also
with a tilde at its head. -/
theorem ofText_noHome_iff (refusal : String → String)
    (environment : Environment) (path text : String) :
    (ofText refusal environment path text = .error .noHome ↔
      ∃ file, LogsTo text file ∧
        ∃ pieces, Cut pieces file.toList ∧ Unset environment pieces) ∧
    ∀ file, LogsTo text file → ∀ pieces, Cut pieces file.toList →
      (ofText refusal environment path text = .error .noHome ↔
        Unset environment pieces) ∧
      (environment.home? = none → ∀ expanded,
        expansion? environment pieces = some expanded →
        ∃ settings, ofText refusal environment path text = .ok settings ∧
          settings.log.file = some (String.ofList expanded)) := by
  have hfails : ∀ file, LogsTo text file → ∀ pieces, Cut pieces file.toList →
      (ofText refusal environment path text = .error .noHome ↔
        Unset environment pieces) := by
    intro file hlog pieces hcut
    have hresult := ofText_of_logsTo refusal environment path hlog
    rw [← Environment.expandPath?_eq_none_iff hcut]
    constructor
    · intro hfault
      cases hexpanded : environment.expandPath? file with
      | none => rfl
      | some expanded =>
          obtain ⟨settings, hok, -⟩ := hresult.2 expanded hexpanded
          rw [hok] at hfault
          cases hfault
    · exact hresult.1
  refine ⟨⟨?_, ?_⟩, ?_⟩
  · intro hfault
    obtain ⟨file, hlog⟩ := logsTo_of_noHome hfault
    obtain ⟨pieces, hcut⟩ := exists_cut file.toList
    exact ⟨file, hlog, pieces, hcut, (hfails file hlog pieces hcut).1 hfault⟩
  · rintro ⟨file, hlog, pieces, hcut, hunset⟩
    exact (hfails file hlog pieces hcut).2 hunset
  · intro file hlog pieces hcut
    refine ⟨hfails file hlog pieces hcut, fun hhome expanded hexpanded => ?_⟩
    apply (ofText_of_logsTo refusal environment path hlog).2
    rw [Environment.expandPath?_of_homeless hhome hcut, hexpanded]
    rfl

/-- A settings text with a log file that is named by a variable. -/
def variableText : String := "version = 1\n[logging]\nfile = '$LOGS/t.log'\n"

/-- A settings text with a log file in the home directory. -/
def homeText : String := "version = 1\n[logging]\nfile = '~/t.log'\n"

/-- An environment with a home directory and nothing else. -/
def homeEnvironment : Environment := { bindings := [("HOME", "/home/tester")] }

theorem logsTo_variableText : LogsTo variableText "$LOGS/t.log" :=
  ⟨.lenient, { file := some "$LOGS/t.log" }, by decide +kernel, rfl⟩

theorem logsTo_homeText : LogsTo homeText "~/t.log" :=
  ⟨.lenient, { file := some "~/t.log" }, by decide +kernel, rfl⟩

/-- Both ways round: with a home directory at hand a variable is missing, and
without one the tilde of a path is kept. -/
theorem ofText_noHome_iff_texts :
    LogsTo variableText "$LOGS/t.log" ∧
      homeEnvironment.home? = some "/home/tester" ∧
      ofText default homeEnvironment "c.toml" variableText = .error .noHome ∧
      LogsTo homeText "~/t.log" ∧ Environment.bare.home? = none ∧
      ∃ settings, ofText default .bare "c.toml" homeText = .ok settings ∧
        settings.log.file = some "~/t.log" := by
  refine ⟨logsTo_variableText, by decide +kernel, ?_,
    logsTo_homeText, by decide +kernel, ?_⟩
  · obtain ⟨pieces, hcut⟩ := exists_cut "$LOGS/t.log".toList
    apply ((ofText_noHome_iff default homeEnvironment "c.toml" variableText).2 _
      logsTo_variableText
      pieces hcut).1.2
    rw [← Environment.expandPath?_eq_none_iff hcut]
    decide +kernel
  · obtain ⟨pieces, hcut⟩ := exists_cut "~/t.log".toList
    have hhome : Environment.bare.home? = none := by decide +kernel
    have hexpanded : expansion? .bare pieces = some "~/t.log".toList := by
      rw [← hcut.substitute?_eq le_rfl]
      decide +kernel
    exact ((ofText_noHome_iff default .bare "c.toml" homeText).2 _
      logsTo_homeText pieces hcut).2 hhome
      _ hexpanded

/-- The file is refused for want of a home directory just where it needs one: it
begins with a tilde, alone or before a slash, and there is no home directory. -/
def NoHomeMeansHomeless (refusal : String → String) (environment : Environment)
    (path text file : String) : Prop :=
  ofText refusal environment path text = .error .noHome ↔
    (∃ rest, file.toList = '~' :: rest ∧ (rest = [] ∨ rest.head? = some '/')) ∧
      environment.home? = none

/-- This fails both ways: a variable that is missing is taken for a missing home
directory, and a home directory that is missing is not noticed. -/
theorem not_noHomeMeansHomeless :
    (LogsTo variableText "$LOGS/t.log" ∧
      homeEnvironment.home? = some "/home/tester" ∧
      ¬ NoHomeMeansHomeless default homeEnvironment "c.toml" variableText
        "$LOGS/t.log") ∧
    LogsTo homeText "~/t.log" ∧
    ¬ NoHomeMeansHomeless default .bare "c.toml" homeText "~/t.log" := by
  have hhome : homeEnvironment.home? = some "/home/tester" := by decide +kernel
  refine ⟨⟨logsTo_variableText, hhome, ?_⟩, logsTo_homeText, ?_⟩
  · intro hmeans
    have hunset : homeEnvironment.expandPath? "$LOGS/t.log" = none := by
      decide +kernel
    have hhomeless :=
      (hmeans.1 ((ofText_of_logsTo _ _ _ logsTo_variableText).1 hunset)).2
    rw [hhome] at hhomeless
    cases hhomeless
  · intro hmeans
    have hkept : Environment.bare.expandPath? "~/t.log" = some "~/t.log" := by
      decide +kernel
    obtain ⟨settings, hok, -⟩ :=
      (ofText_of_logsTo _ _ _ logsTo_homeText).2 _ hkept
    have hfault : ofText default .bare "c.toml" homeText = .error .noHome := by
      apply hmeans.2
      exact ⟨⟨"/t.log".toList, by decide +kernel,
        Or.inr (by decide +kernel)⟩, by decide +kernel⟩
    rw [hok] at hfault
    cases hfault

end Settings

end Stencil
