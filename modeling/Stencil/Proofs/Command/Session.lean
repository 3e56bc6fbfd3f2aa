/-
How the steps of a command follow one another in a session.  A step has an
outcome and leaves a session behind; a failure ends the command, and reading a
file or loading settings leaves the session as it was.
-/
import Stencil.Command.Run

namespace Stencil

/-- The text that a file holds. -/
def Files.readText (files : Files) (path : String) : Except FileFault String :=
  (files.read path).bind textOfBytes

theorem textOfBytes_toUTF8 (text : String) :
    textOfBytes text.toUTF8 = .ok text := by
  have hbytes : String.fromUTF8? text.toUTF8 = some text := by
    simp only [String.fromUTF8?, String.toUTF8_eq_toByteArray,
      Option.dite_none_right_eq_some, Option.some.injEq]
    exact ⟨text.isValidUTF8, rfl⟩
  rw [textOfBytes, hbytes]

theorem Files.readText_of_locate {files : Files} {path text : String}
    {location : Location} (hlocation : files.locate path = .ok location)
    (hfile : files.root.get? location = some (.file text.toUTF8)) :
    files.readText path = .ok text := by
  rw [readText, read, hlocation]
  simp only [bind, Except.bind]
  rw [hfile]
  exact textOfBytes_toUTF8 text

namespace Host

section Steps

variable {σ α β ε : Type} {session next : σ}
  {step : ExceptT CommandFailure (StateM σ) α} {action : StateM σ (Except ε α)}

theorem run_bind_ok {value : α} (h : step.run.run session = (.ok value, next))
    (more : α → ExceptT CommandFailure (StateM σ) β) :
    (step >>= more).run.run session = (more value).run.run next := by
  rw [ExceptT.run_bind, StateT.run_bind, h]
  rfl

theorem run_bind_error {failure : CommandFailure}
    (h : step.run.run session = (.error failure, next))
    (more : α → ExceptT CommandFailure (StateM σ) β) :
    (step >>= more).run.run session = (.error failure, next) := by
  rw [ExceptT.run_bind, StateT.run_bind, h]
  rfl

/-- Steps that end well do so one after the other. -/
theorem run_bind_eq_ok_iff {result : β} {after : σ}
    {more : α → ExceptT CommandFailure (StateM σ) β} :
    (step >>= more).run.run session = (.ok result, after) ↔
      ∃ value next, step.run.run session = (.ok value, next) ∧
        (more value).run.run next = (.ok result, after) := by
  constructor
  · intro h
    rcases hstep : step.run.run session with ⟨failure | value, next⟩
    · cases (run_bind_error hstep more).symm.trans h
    · exact ⟨value, next, rfl, (run_bind_ok hstep more).symm.trans h⟩
  · rintro ⟨value, next, hstep, hmore⟩
    exact (run_bind_ok hstep more).trans hmore

theorem run_pure_eq_ok_iff {value result : α} {after : σ} :
    (pure value : ExceptT CommandFailure (StateM σ) α).run.run session =
      (.ok result, after) ↔
      result = value ∧ after = session := by
  constructor
  · intro h
    cases h
    exact ⟨rfl, rfl⟩
  · rintro ⟨rfl, rfl⟩
    rfl

theorem run_attempt_ok {value : α} (h : action.run session = (.ok value, next))
    (failure : ε → CommandFailure) :
    (attempt action failure).run.run session = (.ok value, next) := by
  rw [attempt, ExceptT.run_mk, StateT.run_bind, h]
  rfl

theorem run_attempt_error {cause : ε}
    (h : action.run session = (.error cause, next))
    (failure : ε → CommandFailure) :
    (attempt action failure).run.run session =
      (.error (failure cause), next) := by
  rw [attempt, ExceptT.run_mk, StateT.run_bind, h]
  rfl

theorem run_attempt_eq_ok_iff {value : α} {failure : ε → CommandFailure} :
    (attempt action failure).run.run session = (.ok value, next) ↔
      action.run session = (.ok value, next) := by
  constructor
  · intro h
    rcases haction : action.run session with ⟨cause | result, after⟩
    · cases (run_attempt_error haction failure).symm.trans h
    · cases (run_attempt_ok haction failure).symm.trans h
      rfl
  · intro h
    exact run_attempt_ok h failure

end Steps

variable (environment : Environment) (wording : Wording) (now : DateTime)
  (session : Session)

theorem run_readText (path : String) :
    ((Session.host environment wording now).readText path).run session =
      (session.files.readText path, session) := rfl

/-- What is said besides the output leaves the session. -/
theorem run_complaint (failure : CommandFailure) :
    (failure.complaint?.forM
      (Session.host environment wording now).complain).run session =
      ((), session) := by
  cases failure.complaint? <;> rfl

/-- Loading settings leaves the session. -/
theorem run_loadSettings (path? : Option String) :
    (((Session.host environment wording now).loadSettings path?).run
      session).2 = session := by
  rw [loadSettings, StateT.run_bind, run_readText]
  generalize session.files.readText _ = content
  cases content with
  | ok text => rfl
  | error fault => cases fault <;> rfl

/-- Where nothing stands at the default path, built-in settings are loaded. -/
theorem run_loadSettings_of_absent {fault : FileFault}
    (hfault : session.files.readText (Settings.defaultPath environment) =
      .error fault) (habsent : fault.isAbsence = true) :
    ((Session.host environment wording now).loadSettings none).run session =
      (.ok {}, session) := by
  have henvironment : (Session.host environment wording now).environment =
      environment := rfl
  rw [loadSettings, StateT.run_bind, run_readText, henvironment,
    Option.getD_none, hfault]
  change (if fault.isAbsence = true then pure _ else _ :
    StateM Session (Except SettingsError Settings)).run session = _
  rw [if_pos habsent]
  rfl

end Host

end Stencil
