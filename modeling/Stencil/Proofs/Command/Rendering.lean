/-
Rendering from the command line.  A rendering goes through six stages, each of
which may fail.  It succeeds if all of them do, and a failure is reported with
the files as they were.
-/
import Stencil.Proofs.Command.ArgumentList
import Stencil.Proofs.Command.Session
import Stencil.Proofs.Files.Writing
import Stencil.Proofs.Input.Collection

namespace Stencil

/-- The raw inputs that a file holds as an object, if a file is named. -/
def Files.GivesInputs (files : Files) : Option String → RawInputs → Prop
  | none, inputs => inputs = []
  | some path, inputs =>
      ∃ text, files.readText path = .ok text ∧
        Json.objectOfText? text = some inputs

/-- The text of the template, and the inputs of the file overwritten by the
assignments. -/
structure Supplies (options : RenderOptions) (files : Files) (text : String)
    (provided : RawInputs) : Prop where
  template : files.readText options.template = .ok text
  provided : ∃ inputs, files.GivesInputs options.inputs inputs ∧
    provided = Host.assign inputs options.assignments

/-- All stages of a rendering succeed. -/
structure RendersTo (now : DateTime) (mode : CoercionMode)
    (options : RenderOptions) (files : Files) (text : String)
    (provided : RawInputs) (rendering : Rendering) : Prop where
  supplied : Supplies options files text provided
  collected : ∃ raw, (Schema.ofTemplate text).collectBatch provided = .ok raw
  rendered : renderTemplate now mode text provided = .ok rendering
  writable : ∀ path ∈ options.output, ∃ after,
    files.write path rendering.result.toUTF8 = .ok after

/-- A stage of a rendering fails with a message, while those before it
succeed. -/
inductive RenderFails (wording : Wording) (now : DateTime) (mode : CoercionMode)
    (options : RenderOptions) (files : Files) : String → Prop
  | template {fault : FileFault}
      (failed : files.readText options.template = .error fault) :
      RenderFails wording now mode options files
        ("failed to read template " ++ options.template ++ ": " ++
          fault.message)
  | unreadable {text path : String} {fault : FileFault}
      (template : files.readText options.template = .ok text)
      (named : options.inputs = some path)
      (failed : files.readText path = .error fault) :
      RenderFails wording now mode options files
        ("failed to read inputs " ++ path ++ ": " ++ fault.message)
  | noObject {text path content : String}
      (template : files.readText options.template = .ok text)
      (named : options.inputs = some path)
      (readable : files.readText path = .ok content)
      (failed : Json.objectOfText? content = none) :
      RenderFails wording now mode options files
        ("inputs file " ++ path ++ " must be a JSON object: " ++
          wording.inputs content)
  | collection {text : String} {provided : RawInputs} {cause : CollectionError}
      (supplied : Supplies options files text provided)
      (failed : (Schema.ofTemplate text).collectBatch provided = .error cause) :
      RenderFails wording now mode options files cause.message
  | rendering {text : String} {provided raw : RawInputs}
      {cause : RenderingError}
      (supplied : Supplies options files text provided)
      (collected : (Schema.ofTemplate text).collectBatch provided = .ok raw)
      (failed : renderTemplate now mode text provided = .error cause) :
      RenderFails wording now mode options files
        (cause.message (wording.template text))
  | output {text path : String} {provided raw : RawInputs}
      {rendering : Rendering}
      {fault : FileFault} (supplied : Supplies options files text provided)
      (collected : (Schema.ofTemplate text).collectBatch provided = .ok raw)
      (rendered : renderTemplate now mode text provided = .ok rendering)
      (named : options.output = some path)
      (failed : files.write path rendering.result.toUTF8 = .error fault) :
      RenderFails wording now mode options files
        ("failed to write " ++ path ++ ": " ++ fault.message)

/-- What a rendering that succeeds prints and leaves behind.  Text that goes to
a file is confirmed only, also where JSON is asked for. -/
def RenderOptions.Completes (options : RenderOptions) (session : Session)
    (rendering : Rendering) (result : Outcome × Session) : Prop :=
  match options.output with
  | some path =>
      ∃ files, session.files.Wrote files path rendering.result.toUTF8 ∧
        result =
          (.finished 0 ("OK   templator render\nwrote: " ++ path ++ "\n"),
            { session with files })
  | none =>
      result = (.finished 0 ((if options.json then rendering.toJson.indented
        else rendering.result) ++ "\n"), session)

namespace Host

/-- The last assignment of a name wins over earlier ones and over the inputs. -/
theorem get?_assign (inputs : RawInputs) (assignments : List (String × String))
    (key : String) :
    (assign inputs assignments).get? key =
      ((assignments.reverse.lookup key).map Json.string).or
        (inputs.get? key) := by
  induction assignments generalizing inputs with
  | nil => rfl
  | cons pair rest ih =>
      obtain ⟨name, value⟩ := pair
      refine (ih (inputs.insert name (.string value))).trans ?_
      rw [Entries.get?_insert, List.reverse_cons, List.lookup_append,
        List.lookup_cons]
      by_cases heq : key = name
      · subst heq
        simp
      · have hne : (key == name) = false := by simpa using heq
        simp [heq, hne]

end Host

section Stages

variable {now : DateTime} {mode : CoercionMode} {options : RenderOptions}
  {files : Files} {text other message : String}
  {inputs given provided another : RawInputs} {rendering : Rendering}
  {wording : Wording}

theorem Files.GivesInputs.unique {path? : Option String}
    (h : files.GivesInputs path? inputs)
    (hgiven : files.GivesInputs path? given) : given = inputs := by
  cases path? with
  | none => exact hgiven.trans h.symm
  | some path =>
      obtain ⟨text, htext, hobject⟩ := h
      obtain ⟨content, hcontent, hother⟩ := hgiven
      cases htext.symm.trans hcontent
      exact Option.some.inj (hother.symm.trans hobject)

theorem Supplies.unique (h : Supplies options files text provided)
    (hother : Supplies options files other another) :
    other = text ∧ another = provided := by
  obtain ⟨inputs, hinputs, hprovided⟩ := h.provided
  obtain ⟨given, hgiven, hanother⟩ := hother.provided
  obtain rfl := hinputs.unique hgiven
  exact ⟨Except.ok.inj (hother.template.symm.trans h.template),
    hanother.trans hprovided.symm⟩

theorem RendersTo.unique {last : Rendering}
    (h : RendersTo now mode options files text provided rendering)
    (hother : RendersTo now mode options files other another last) :
    last = rendering := by
  obtain ⟨rfl, rfl⟩ := h.supplied.unique hother.supplied
  exact Except.ok.inj (hother.rendered.symm.trans h.rendered)

/-- A rendering that succeeds fails in no stage. -/
theorem RendersTo.not_fails
    (h : RendersTo now mode options files text provided rendering) :
    ¬ RenderFails wording now mode options files message := by
  intro hfails
  obtain ⟨inputs, hinputs, -⟩ := h.supplied.provided
  cases hfails with
  | template failed => cases h.supplied.template.symm.trans failed
  | unreadable template named failed =>
      rw [named] at hinputs
      obtain ⟨content, hcontent, -⟩ := hinputs
      cases hcontent.symm.trans failed
  | noObject template named readable failed =>
      rw [named] at hinputs
      obtain ⟨content, hcontent, hobject⟩ := hinputs
      cases hcontent.symm.trans readable
      cases hobject.symm.trans failed
  | collection supplied failed =>
      obtain ⟨rfl, rfl⟩ := h.supplied.unique supplied
      obtain ⟨raw, hcollected⟩ := h.collected
      cases hcollected.symm.trans failed
  | rendering supplied collected failed =>
      obtain ⟨rfl, rfl⟩ := h.supplied.unique supplied
      cases h.rendered.symm.trans failed
  | output supplied collected rendered named failed =>
      obtain ⟨rfl, rfl⟩ := h.supplied.unique supplied
      cases h.rendered.symm.trans rendered
      obtain ⟨after, hwrite⟩ := h.writable _ named
      cases hwrite.symm.trans failed

end Stages

theorem outputLines_single (line : String) :
    outputLines [line] = line ++ "\n" := by
  simp [outputLines, String.join]

theorem outputLines_pair (first second : String) :
    outputLines [first, second] = first ++ "\n" ++ second ++ "\n" := by
  simp [outputLines, String.join, String.append_assoc]

namespace CommandFailure

/-- What is printed of a failure to render, which ends the run with code 1. -/
def Reports (failure : CommandFailure) (message : String) : Prop :=
  failure.outcome = .finished 1 ("FAIL templator render\n" ++ message ++ "\n")

theorem reports_of_outcome {failure : CommandFailure} {message : String}
    (h : failure.outcome =
      .finished 1 (outputLines [title " render", message])) :
    failure.Reports message := by
  have htitle : title " render" = "FAIL templator render" := by decide
  rw [Reports, h, htitle, outputLines_pair]
  rfl

end CommandFailure

namespace Host

section Stages

variable {m : Type → Type} [Monad m] (host : Host m)

/-- The stage of the inputs file. -/
def givenInputs : Option String → ExceptT CommandFailure m RawInputs
  | some path => host.readInputs path
  | none => pure []

/-- The last stage: the text goes to a file if one is named, and is printed
otherwise. -/
def deliver (options : RenderOptions) (rendering : Rendering) :
    ExceptT CommandFailure m (List String) :=
  match options.output with
  | some path => do
      attempt (host.write path rendering.result.toUTF8) (.output path)
      pure ["OK   " ++ programName ++ " render", "wrote: " ++ path]
  | none =>
      pure [if options.json then rendering.toJson.indented
        else rendering.result]

/-- A rendering stage by stage. -/
theorem runRender_eq (settings : Settings) (options : RenderOptions) :
    host.runRender settings options =
      attempt (host.readText options.template)
        (.template "render" options.template) >>=
      fun text => host.givenInputs options.inputs >>=
      fun inputs => host.collect options.batch (Schema.ofTemplate text)
        (assign inputs options.assignments) >>=
      fun raw => (host.now : ExceptT CommandFailure m DateTime) >>=
      fun now => attempt (pure (renderTemplate now
        (if options.strict then .strict else settings.mode) text raw))
        (.rendering · (host.wording.template text)) >>=
      fun rendering => host.deliver options rendering := by
  unfold runRender givenInputs
  cases options.inputs <;> rfl

end Stages

variable (environment : Environment) (wording : Wording) (now : DateTime)
  {mode : CoercionMode} {options : RenderOptions} {session : Session}
  {text : String} {inputs : RawInputs}

theorem run_givenInputs_cases (mode : CoercionMode) (options : RenderOptions)
    (htemplate : session.files.readText options.template = .ok text) :
    (∃ inputs, session.files.GivesInputs options.inputs inputs ∧
      ((Session.host environment wording now).givenInputs
        options.inputs).run.run session =
        (.ok inputs, session)) ∨
    ∃ message failure,
      RenderFails wording now mode options session.files message ∧
      failure.Reports message ∧
      ((Session.host environment wording now).givenInputs
        options.inputs).run.run session =
        (.error failure, session) := by
  cases hnamed : options.inputs with
  | none => exact Or.inl ⟨[], rfl, rfl⟩
  | some path =>
      have hread := run_readText environment wording now session path
      cases hcontent : session.files.readText path with
      | error fault =>
          rw [hcontent] at hread
          exact Or.inr ⟨_, _, .unreadable htemplate hnamed hcontent,
            CommandFailure.reports_of_outcome rfl,
            run_bind_error (run_attempt_error hread _) _⟩
      | ok content =>
          rw [hcontent] at hread
          cases hobject : Json.objectOfText? content with
          | none =>
              refine Or.inr
                ⟨_, .inputsNotAnObject path (wording.inputs content),
                .noObject htemplate hnamed hcontent hobject,
                CommandFailure.reports_of_outcome rfl,
                (run_bind_ok (run_attempt_ok hread _) _).trans ?_⟩
              rw [hobject]
              rfl
          | some inputs =>
              refine Or.inl ⟨inputs, ⟨content, hcontent, hobject⟩,
                (run_bind_ok (run_attempt_ok hread _) _).trans ?_⟩
              rw [hobject]
              rfl

theorem run_write (session : Session) (path : String) (content : ByteArray) :
    ((Session.host environment wording now).write path content).run session =
      match session.files.write path content with
      | .ok files => (.ok (), { session with files })
      | .error fault => (.error fault, session) := by
  change (match session.files.write path content with
    | .ok files => _
    | .error fault =>
        _ : StateM Session (Except FileFault Unit)).run session = _
  cases session.files.write path content <;> rfl

theorem run_deliver_cases {rendering : Rendering} {provided raw : RawInputs}
    (hsupplied : Supplies options session.files text provided)
    (hcollected : (Schema.ofTemplate text).collectBatch provided = .ok raw)
    (hrendered : renderTemplate now mode text provided = .ok rendering) :
    ((∀ path ∈ options.output, ∃ after,
        session.files.write path rendering.result.toUTF8 = .ok after) ∧
      ∃ lines after,
        ((Session.host environment wording now).deliver options
          rendering).run.run session =
          (.ok lines, after) ∧
        options.Completes session rendering
          (.finished 0 (outputLines lines), after)) ∨
    ∃ message failure,
      RenderFails wording now mode options session.files message ∧
      failure.Reports message ∧
      ((Session.host environment wording now).deliver options rendering).run.run
        session =
        (.error failure, session) := by
  unfold deliver RenderOptions.Completes
  cases hnamed : options.output with
  | none =>
      refine Or.inl ⟨nofun, _, session, rfl, ?_⟩
      rw [outputLines_single]
  | some path =>
      have hwrite :=
        run_write environment wording now session path rendering.result.toUTF8
      cases hafter : session.files.write path rendering.result.toUTF8 with
      | error fault =>
          rw [hafter] at hwrite
          exact Or.inr
            ⟨_, _, .output hsupplied hcollected hrendered hnamed hafter,
              CommandFailure.reports_of_outcome rfl,
              run_bind_error (run_attempt_error hwrite _) _⟩
      | ok files =>
          rw [hafter] at hwrite
          refine Or.inl ⟨?_, _, { session with files },
            run_bind_ok (run_attempt_ok hwrite _) _,
            files, Files.wrote_of_write hafter, ?_⟩
          · intro other hother
            cases hother
            exact ⟨files, hafter⟩
          · have hlines : "OK   " ++ programName ++ " render" ++ "\n" ++
                "wrote: " =
                "OK   templator render\nwrote: " := by decide
            rw [outputLines_pair, ← String.append_assoc, hlines]

/-- Where nobody is asked, a rendering goes through all its stages or fails in
one of them. -/
theorem runRender_cases (settings : Settings)
    (hunasked : options.batch = true ∨ session.keys = none)
    (hmode : mode = if options.strict then .strict else settings.mode) :
    (∃ text provided rendering,
      RendersTo now mode options session.files text provided rendering ∧
      ∃ lines after,
        ((Session.host environment wording now).runRender settings
          options).run.run session =
          (.ok lines, after) ∧
        options.Completes session rendering
          (.finished 0 (outputLines lines), after)) ∨
    ∃ message failure,
      RenderFails wording now mode options session.files message ∧
      failure.Reports message ∧
      ((Session.host environment wording now).runRender settings
        options).run.run session =
        (.error failure, session) := by
  have hread := run_readText environment wording now session options.template
  cases htemplate : session.files.readText options.template with
  | error fault =>
      rw [htemplate] at hread
      exact Or.inr ⟨_, _, .template htemplate,
        CommandFailure.reports_of_outcome rfl,
        run_bind_error (run_attempt_error hread _) _⟩
  | ok text =>
      rw [htemplate] at hread
      rw [runRender_eq, run_bind_ok (run_attempt_ok hread _), ← hmode]
      rcases run_givenInputs_cases environment wording now mode options
        htemplate with
        ⟨inputs, hgiven, hinputs⟩ |
        ⟨message, failure, hfails, hreports, hinputs⟩
      · rw [run_bind_ok hinputs]
        have hsupplied : Supplies options session.files text
            (assign inputs options.assignments) :=
              ⟨htemplate, inputs, hgiven, rfl⟩
        have hcollect :=
          collect_unasked environment wording now (Schema.ofTemplate text)
            (assign inputs options.assignments) hunasked
        cases hcollected : (Schema.ofTemplate text).collectBatch
            (assign inputs options.assignments) with
        | error cause =>
            rw [hcollected] at hcollect
            exact Or.inr ⟨_, _, .collection hsupplied hcollected,
              CommandFailure.reports_of_outcome rfl, run_bind_error hcollect _⟩
        | ok raw =>
            rw [hcollected] at hcollect
            obtain rfl := Schema.eq_of_collectBatch hcollected
            have hnow : ((Session.host environment wording now).now :
                ExceptT CommandFailure (StateM Session) DateTime).run.run
                  session = (.ok now, session) := rfl
            rw [run_bind_ok hcollect, run_bind_ok hnow]
            cases hrendered : renderTemplate now mode text
              (assign inputs options.assignments) with
            | error cause =>
                have hattempt : (pure (.error cause) :
                    StateM Session (Except RenderingError Rendering)).run
                      session = (.error cause, session) := rfl
                exact Or.inr ⟨_, _, .rendering hsupplied hcollected hrendered,
                  CommandFailure.reports_of_outcome rfl,
                  run_bind_error (run_attempt_error hattempt _) _⟩
            | ok rendering =>
                have hattempt : (pure (.ok rendering) :
                    StateM Session (Except RenderingError Rendering)).run
                      session = (.ok rendering, session) := rfl
                rw [run_bind_ok (run_attempt_ok hattempt _)]
                rcases run_deliver_cases environment wording now hsupplied
                  hcollected hrendered with
                  ⟨hwritable, hdelivers⟩ | hfails
                · exact Or.inl ⟨text, _, rendering,
                    ⟨hsupplied, ⟨_, hcollected⟩, hrendered, hwritable⟩,
                    hdelivers⟩
                · exact Or.inr hfails
      · exact Or.inr ⟨message, failure, hfails, hreports,
          run_bind_error hinputs _⟩

/-- With settings that name no log file, the answer to a command line that asks
for a rendering is that of the rendering. -/
theorem run_respond {arguments : List String} {config : Option String}
    {settings : Settings}
    (harguments : Request.ofArguments arguments =
      .ok (.run ⟨config, .render options⟩))
    (hsettings :
      (((Session.host environment wording now).loadSettings config).run
        session).1 = .ok settings)
    (hlog : settings.log.file = none) :
    ((Session.host environment wording now).respond arguments).run session =
      match ((Session.host environment wording now).runRender settings
        options).run.run session with
      | (.ok lines, after) => (.finished 0 (outputLines lines), after)
      | (.error failure, after) => (failure.outcome, after) := by
  have hload :
      ((Session.host environment wording now).loadSettings config).run session =
      (.ok settings, session) :=
    Prod.ext hsettings (run_loadSettings environment wording now session config)
  have hrun :
      ((Session.host environment wording now).run
        ⟨config, .render options⟩).run.run session =
      ((Session.host environment wording now).runRender settings
        options).run.run session := by
    refine (run_bind_ok (run_attempt_ok hload _) _).trans ?_
    rw [hlog]
  rw [respond, harguments]
  simp only
  rw [StateT.run_bind, hrun]
  generalize
    ((Session.host environment wording now).runRender settings options).run.run
    session = result
  obtain ⟨outcome, after⟩ := result
  cases outcome with
  | ok lines => rfl
  | error failure =>
      change (failure.complaint?.forM
        (Session.host environment wording now).complain >>=
        fun _ => pure failure.outcome).run after = (failure.outcome, after)
      rw [StateT.run_bind, run_complaint]
      rfl

end Host

/-- Rendering from the command line, where settings name no log file and nobody
is asked.  The options are those that the command line spells, and assignments
win over the inputs file.  The run ends with code 0 if all stages succeed, and
then the text is printed, alone or with the inputs as JSON, or is the content of
the output file, and no other file changes.  Otherwise the run ends with code 1
and the message of the stage that failed, and nothing changes. -/
theorem respond_render {environment : Environment} {wording : Wording}
    {now : DateTime} {session : Session} {arguments : List String}
    {config : Option String} {options : RenderOptions} {settings : Settings}
    {mode : CoercionMode}
    (harguments : Request.ofArguments arguments =
      .ok (.run ⟨config, .render options⟩))
    (hsettings :
      (((Session.host environment wording now).loadSettings config).run
        session).1 = .ok settings)
    (hlog : settings.log.file = none)
    (hunasked : options.batch = true ∨ session.keys = none)
    (hmode : mode = if options.strict then .strict else settings.mode) :
    options.SpelledBy config arguments ∧
    (∀ inputs key, (Host.assign inputs options.assignments).get? key =
      ((options.assignments.reverse.lookup key).map Json.string).or
        (inputs.get? key)) ∧
    ((∃ output,
      (((Session.host environment wording now).respond arguments).run
        session).1 =
        .finished 0 output) ↔
      ∃ text provided rendering,
        RendersTo now mode options session.files text provided rendering) ∧
    (∀ text provided rendering,
      RendersTo now mode options session.files text provided rendering →
      options.Completes session rendering
        (((Session.host environment wording now).respond arguments).run
          session)) ∧
    ((¬ ∃ text provided rendering,
        RendersTo now mode options session.files text provided rendering) →
      ∃ message, RenderFails wording now mode options session.files message ∧
        ((Session.host environment wording now).respond arguments).run session =
          (.finished 1 ("FAIL templator render\n" ++ message ++ "\n"),
            session)) := by
  refine ⟨Request.spelledBy_of_ofArguments harguments,
    fun inputs key => Host.get?_assign inputs options.assignments key, ?_⟩
  rw [Host.run_respond environment wording now harguments hsettings hlog]
  rcases Host.runRender_cases environment wording now settings hunasked
    hmode with
    ⟨text, provided, rendering, hrenders, lines, after, hrun, hcompletes⟩ |
      ⟨message, failure, hfails, hreports, hrun⟩
  · rw [hrun]
    refine ⟨⟨fun _ => ⟨text, provided, rendering, hrenders⟩, fun _ => ⟨_, rfl⟩⟩,
      ?_, ?_⟩
    · intro other another last hother
      obtain rfl := hrenders.unique hother
      exact hcompletes
    · intro hnone
      exact absurd ⟨text, provided, rendering, hrenders⟩ hnone
  · rw [hrun]
    have hnone : ¬ ∃ text provided rendering,
        RendersTo now mode options session.files text provided rendering := by
      rintro ⟨text, provided, rendering, hrenders⟩
      exact hrenders.not_fails hfails
    simp only
    rw [hreports]
    refine ⟨⟨?_, fun hsome => absurd hsome hnone⟩, ?_, ?_⟩
    · rintro ⟨output, houtcome⟩
      cases houtcome
    · intro text provided rendering hrenders
      exact absurd ⟨text, provided, rendering, hrenders⟩ hnone
    · intro _
      exact ⟨message, hfails, rfl⟩

def greeting : String :=
  "\x7b#- @variable name: default=\"World\" -#\x7dHi \x7b\x7b name \x7d\x7d!"

/-- A template, an object of inputs and a directory without files. -/
def deskFiles : Files :=
  ⟨.directory [("in.json", .file "\x7b\"name\": \"file\"\x7d".toUTF8),
    ("out", .directory []), ("t.md", .file greeting.toUTF8)], []⟩

def greetingOptions : RenderOptions :=
  { template := "t.md", assignments := [("name", "a=1"), ("name", "b")],
    inputs := some "in.json",
    batch := true, output := some "out/o.txt", json := true }

theorem read_deskFiles :
    deskFiles.readText "t.md" = .ok greeting ∧
      deskFiles.readText "in.json" = .ok "\x7b\"name\": \"file\"\x7d" := by
  have htemplate : deskFiles.locate "t.md" = .ok ["t.md"] := by
    have hpath : Files.checkPath "t.md" = .ok () := by
      simp [Files.checkPath]; decide
    rw [Files.locate, hpath]
    decide +kernel
  have hinputs : deskFiles.locate "in.json" = .ok ["in.json"] := by
    have hpath : Files.checkPath "in.json" = .ok () := by
      simp [Files.checkPath]; decide
    rw [Files.locate, hpath]
    decide +kernel
  exact ⟨Files.readText_of_locate htemplate rfl,
    Files.readText_of_locate hinputs rfl⟩

theorem load_deskFiles :
    ((Session.host .bare default default).loadSettings none).run
        ⟨deskFiles, some [], true⟩ = (.ok {}, ⟨deskFiles, some [], true⟩) := by
  have hdefault : Settings.defaultPath .bare =
      "~/.config/templator/config.toml" := by
    decide +kernel
  have hlocate : deskFiles.locate "~/.config/templator/config.toml" =
      .error .missing := by
    have hpath : Files.checkPath "~/.config/templator/config.toml" =
        .ok () := by
      simp [Files.checkPath]
      decide
    rw [Files.locate, hpath]
    decide +kernel
  have hmissing : deskFiles.readText (Settings.defaultPath .bare) =
      .error .missing := by
    rw [hdefault, Files.readText, Files.read, hlocate]
    rfl
  exact Host.run_loadSettings_of_absent .bare default default
    ⟨deskFiles, some [], true⟩
    hmissing rfl

/-- The last assignment comes before the first one and the file; the output file
is made, and no JSON is printed. -/
theorem respond_render_greeting :
    ∃ files, deskFiles.Wrote files "out/o.txt" "Hi b!".toUTF8 ∧
      ((Session.host .bare default default).respond ["render", "t.md",
          "--batch", "--json", "--var=name=a=1", "--var", "name=b",
          "--inputs=in.json", "--output", "out/o.txt"]).run
          ⟨deskFiles, some [], true⟩ =
        (.finished 0 "OK   templator render\nwrote: out/o.txt\n",
          ⟨files, some [], true⟩) := by
  have harguments : Request.ofArguments ["render", "t.md", "--batch", "--json",
      "--var=name=a=1", "--var", "name=b", "--inputs=in.json", "--output",
      "out/o.txt"] =
        .ok (.run ⟨none, .render greetingOptions⟩) := by decide +kernel
  have hprovided :
      Host.assign [("name", .string "file")] greetingOptions.assignments =
      [("name", .string "b")] := rfl
  have hschema : Schema.ofTemplate greeting =
      [{ name := "name", default := some "World" }] := by
    decide +kernel
  have hcoerced : (Schema.ofTemplate greeting).coerce default .lenient
      [("name", .string "b")] =
      .ok [("name", .string "b")] := by
    rw [hschema]
    rfl
  have htext : Template.render greeting [("name", .string "b")] =
      .ok "Hi b!" := by
    decide +kernel
  have hlocation : deskFiles.locateNew "out/o.txt" = .ok ["out", "o.txt"] := by
    have hpath : Files.checkPath "out/o.txt" = .ok () := by
      simp [Files.checkPath]; decide
    rw [Files.locateNew, hpath]
    decide +kernel
  have hrenders : RendersTo default .lenient greetingOptions deskFiles greeting
      [("name", .string "b")] ⟨"Hi b!", [("name", .string "b")]⟩ := by
    refine ⟨⟨read_deskFiles.1, [("name", .string "file")],
      ⟨_, read_deskFiles.2, by cbv⟩, hprovided.symm⟩, ?_, ?_, ?_⟩
    · rw [hschema]
      exact ⟨_, rfl⟩
    · rw [renderTemplate, hcoerced]
      simp only
      rw [htext]
    · intro path hpath
      cases hpath
      rw [Files.write, hlocation]
      exact ⟨_, rfl⟩
  have hmode : CoercionMode.lenient =
      if greetingOptions.strict then .strict else .lenient := rfl
  have hsettings := congrArg Prod.fst load_deskFiles
  obtain ⟨-, -, -, hcompletes, -⟩ :=
    respond_render harguments hsettings rfl (Or.inl rfl) hmode
  obtain ⟨files, hwrote, hresult⟩ := hcompletes _ _ _ hrenders
  exact ⟨files, hwrote, hresult⟩

end Stencil
