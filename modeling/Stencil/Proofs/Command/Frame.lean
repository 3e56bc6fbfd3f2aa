/-
What a command that fails leaves alone.  The host may be any on which nothing
but a write changes the files, and a write that fails, for whatever cause,
changes none.
-/
import Stencil.Proofs.Command.Rendering
import Stencil.Proofs.Prompt.Collection

namespace Stencil

variable {σ φ α β ε : Type} {files : σ → φ}

/-- The files of a state are after the action what they were before it. -/
def Keeps (files : σ → φ) (action : StateM σ α) : Prop :=
  ∀ state, files (action.run state).2 = files state

/-- If the step fails, the files are what they were before it. -/
def KeepsOnFailure (files : σ → φ)
    (step : ExceptT CommandFailure (StateM σ) α) : Prop :=
  ∀ state failure after, step.run.run state = (.error failure, after) →
    files after = files state

/-- A host on which files change by writes that succeed and by nothing else.
One on which a write may stop in the middle of a file is no such host. -/
structure Host.WritesOrLeaves (host : Host (StateM σ)) (files : σ → φ) :
    Prop where
  now : Keeps files host.now
  read : ∀ path, Keeps files (host.read path)
  isInteractive : Keeps files host.isInteractive
  ask : ∀ v, Keeps files (host.ask v)
  complain : ∀ line, Keeps files (host.complain line)
  write : ∀ path content state fault after,
    (host.write path content).run state = (.error fault, after) →
      files after = files state

theorem Keeps.pure (value : α) : Keeps files (Pure.pure value : StateM σ α) :=
  fun _ => rfl

theorem Keeps.eq_of_run {action : StateM σ α} (h : Keeps files action)
    {state after : σ} {value : α} (hrun : action.run state = (value, after)) :
    files after = files state := by
  rw [← h state, hrun]

theorem Keeps.bind {action : StateM σ α} {more : α → StateM σ β}
    (h : Keeps files action) (hmore : ∀ value, Keeps files (more value)) :
    Keeps files (action >>= more) := by
  intro state
  rw [StateT.run_bind]
  exact (hmore _ _).trans (h state)

namespace Host

variable {step : ExceptT CommandFailure (StateM σ) α}
  {more : α → ExceptT CommandFailure (StateM σ) β}

theorem keeps_bind_run (h : Keeps files step.run)
    (hmore : ∀ value, Keeps files (more value).run) :
    Keeps files (step >>= more).run := by
  rw [ExceptT.run_bind]
  refine h.bind fun outcome => ?_
  cases outcome with
  | ok value => exact hmore value
  | error failure => exact Keeps.pure _

theorem keeps_attempt {action : StateM σ (Except ε α)} (h : Keeps files action)
    (failure : ε → CommandFailure) :
    Keeps files (attempt action failure).run := by
  refine h.bind fun outcome => ?_
  cases outcome <;> exact Keeps.pure _

theorem keepsOnFailure_of_keeps (h : Keeps files step.run) :
    KeepsOnFailure files step := by
  intro state failure after hfails
  exact h.eq_of_run hfails

/-- A step that never touches files may stand in front of one that fails
cleanly. -/
theorem keepsOnFailure_bind (h : Keeps files step.run)
    (hmore : ∀ value, KeepsOnFailure files (more value)) :
    KeepsOnFailure files (step >>= more) := by
  intro state failure after hfails
  rcases hstep : step.run.run state with ⟨cause | value, next⟩
  · cases (run_bind_error hstep more).symm.trans hfails
    exact h.eq_of_run hstep
  · rw [run_bind_ok hstep] at hfails
    exact (hmore value next failure after hfails).trans (h.eq_of_run hstep)

theorem keepsOnFailure_attempt {action : StateM σ (Except ε α)}
    (h : ∀ state cause after, action.run state = (.error cause, after) →
      files after = files state)
    (failure : ε → CommandFailure) :
    KeepsOnFailure files (attempt action failure) := by
  intro state shown after hfails
  rcases haction : action.run state with ⟨cause | value, next⟩
  · cases (run_attempt_error haction failure).symm.trans hfails
    exact h state cause _ haction
  · cases (run_attempt_ok haction failure).symm.trans hfails

/-- What is printed after a step cannot make it fail. -/
theorem keepsOnFailure_bind_pure (h : KeepsOnFailure files step)
    (result : α → β) :
    KeepsOnFailure files (step >>= fun value => pure (result value)) := by
  intro state failure after hfails
  rcases hstep : step.run.run state with ⟨cause | value, next⟩
  · cases (run_bind_error hstep _).symm.trans hfails
    exact h state _ _ hstep
  · cases (run_bind_ok hstep _).symm.trans hfails

namespace WritesOrLeaves

variable {host : Host (StateM σ)} (h : host.WritesOrLeaves files)
include h

theorem keeps_readText (path : String) : Keeps files (host.readText path) :=
  (h.read path).bind fun _ => Keeps.pure _

theorem keeps_loadSettings (path? : Option String) :
    Keeps files (host.loadSettings path?) := by
  refine (h.keeps_readText _).bind fun content => ?_
  cases content with
  | ok text => exact Keeps.pure _
  | error fault =>
      change Keeps files (if fault.isAbsence = true then _ else _)
      split <;> exact Keeps.pure _

theorem keeps_givenInputs (path? : Option String) :
    Keeps files (host.givenInputs path?).run := by
  cases path? with
  | none => exact Keeps.pure _
  | some path =>
      refine keeps_bind_run
        (keeps_attempt (h.keeps_readText path) _) fun text => ?_
      split <;> exact Keeps.pure _

theorem keeps_collectAsking (schema : Schema) (collected : RawInputs) :
    Keeps files (schema.collectAsking host.askFor collected).run := by
  induction schema generalizing collected with
  | nil => exact Keeps.pure _
  | cons v rest ih =>
      rw [Schema.collectAsking]
      split
      · exact ih collected
      · exact keeps_bind_run (keeps_attempt (h.ask v) _) fun value => ih _

theorem keeps_collect (batch : Bool) (schema : Schema) (provided : RawInputs) :
    Keeps files (host.collect batch schema provided).run := by
  refine keeps_bind_run
    (h.isInteractive.bind fun _ => Keeps.pure _) fun interactive => ?_
  split
  · exact h.keeps_collectAsking schema provided
  · exact keeps_attempt (Keeps.pure _) _

/-- The last stage writes its file or fails and leaves all files. -/
theorem keepsOnFailure_deliver (options : RenderOptions)
    (rendering : Rendering) :
    KeepsOnFailure files (host.deliver options rendering) := by
  unfold deliver
  cases options.output with
  | none => exact keepsOnFailure_of_keeps (Keeps.pure _)
  | some path =>
      have hwrite := h.write path rendering.result.toUTF8
      exact keepsOnFailure_bind_pure
        (keepsOnFailure_attempt hwrite (.output path)) _

theorem keepsOnFailure_runRender (settings : Settings)
    (options : RenderOptions) :
    KeepsOnFailure files (host.runRender settings options) := by
  rw [runRender_eq]
  refine keepsOnFailure_bind
    (keeps_attempt (h.keeps_readText _) _) fun text => ?_
  refine keepsOnFailure_bind (h.keeps_givenInputs _) fun inputs => ?_
  refine keepsOnFailure_bind (h.keeps_collect _ _ _) fun raw => ?_
  refine keepsOnFailure_bind (h.now.bind fun _ => Keeps.pure _) fun now => ?_
  refine keepsOnFailure_bind
    (keeps_attempt (Keeps.pure _) _) fun rendering => ?_
  exact h.keepsOnFailure_deliver options rendering

theorem keepsOnFailure_runVars (path : String) (json : Bool) :
    KeepsOnFailure files (host.runVars path json) :=
  keepsOnFailure_of_keeps
    (keeps_bind_run (keeps_attempt (h.keeps_readText path) _) fun _ =>
      Keeps.pure _)

/-- A command that fails leaves the files, unless a log file was made for it. -/
theorem run_failure_leaves {invocation : Invocation} {state after : σ}
    {failure : CommandFailure}
    (hlog : ∀ settings next,
      (host.loadSettings invocation.config).run state = (.ok settings, next) →
        settings.log.file = none)
    (hfails : (host.run invocation).run.run state = (.error failure, after)) :
    files after = files state := by
  unfold run at hfails
  rcases hload : (host.loadSettings invocation.config).run state with
    ⟨cause | settings, next⟩
  · rw [run_bind_error (run_attempt_error hload _)] at hfails
    cases hfails
    exact (h.keeps_loadSettings invocation.config).eq_of_run hload
  · rw [run_bind_ok (run_attempt_ok hload _),
      hlog settings next hload] at hfails
    refine Eq.trans ?_
      ((h.keeps_loadSettings invocation.config).eq_of_run hload)
    cases hcommand : invocation.command with
    | doctor =>
        rw [hcommand] at hfails
        cases hfails
    | vars path json =>
        rw [hcommand] at hfails
        exact h.keepsOnFailure_runVars path json next failure after hfails
    | render options =>
        rw [hcommand] at hfails
        exact h.keepsOnFailure_runRender settings options next failure
          after hfails

theorem keeps_complaint (failure : CommandFailure) :
    Keeps files (failure.complaint?.forM host.complain) := by
  cases failure.complaint? with
  | none => exact Keeps.pure _
  | some line => exact h.complain line

end WritesOrLeaves

/-- A run that does not end with code 0 leaves the files as they were, whatever
stopped it: on any host that writes a file or leaves all files, where settings
name no log file. -/
theorem respond_failure_leaves {host : Host (StateM σ)}
    (h : host.WritesOrLeaves files) {arguments : List String} {state after : σ}
    {outcome : Outcome}
    (hlog : ∀ path? settings next,
      (host.loadSettings path?).run state = (.ok settings, next) →
        settings.log.file = none)
    (hrun : (host.respond arguments).run state = (outcome, after))
    (hfails : ∀ output, outcome ≠ .finished 0 output) :
    files after = files state := by
  unfold respond at hrun
  split at hrun
  next cause _ =>
      exact ((h.complain cause.message).bind fun _ =>
        Keeps.pure _).eq_of_run hrun
  next =>
      cases hrun
      exact absurd rfl (hfails _)
  next =>
      cases hrun
      exact absurd rfl (hfails _)
  next invocation _ =>
      rw [StateT.run_bind] at hrun
      rcases hcommand : (host.run invocation).run.run state with
        ⟨failure | lines, next⟩
      · rw [hcommand] at hrun
        have hsaid := (h.keeps_complaint failure).bind fun _ =>
          Keeps.pure failure.outcome
        exact (hsaid.eq_of_run hrun).trans
          (h.run_failure_leaves (hlog invocation.config) hcommand)
      · rw [hcommand] at hrun
        cases hrun
        exact absurd rfl (hfails _)

end Host

/-- A session is such a host. -/
theorem Session.host_writesOrLeaves (environment : Environment)
    (wording : Wording) (now : DateTime) :
    (Session.host environment wording now).WritesOrLeaves Session.files where
  now _ := rfl
  read _ _ := rfl
  isInteractive _ := rfl
  ask v session := by
    obtain ⟨files, keys, screen⟩ := session
    cases keys with
    | none => rfl
    | some keys =>
        change ((Session.ask v).run ⟨files, some keys, screen⟩).2.files = files
        rw [Host.run_ask]
        split
        · cases v.question.ask keys <;> rfl
        · rfl
  complain _ _ := rfl
  write path content session fault after hfails := by
    rw [Host.run_write] at hfails
    split at hfails <;> cases hfails
    rfl

end Stencil
