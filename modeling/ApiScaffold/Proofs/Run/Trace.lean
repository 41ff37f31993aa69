import ApiScaffold.Proofs.Outcome
import ApiScaffold.Proofs.Stateful
import ApiScaffold.Run.Generate
/-!
# What a run asks for

Once the description is loaded, a run has three ways to reach outside: it makes sure of a directory,
writes artifacts, and executes commands. Surroundings that record what is asked of them, with their
answers, behave as before. A run asks for nothing before all artifacts are there, goes on to the
next thing only after an answer that allows it, and executes every command.
-/
namespace ApiScaffold

/-- What a run asks of its surroundings once it has loaded, with the answer. -/
inductive Effect where
  | ensure (directory : String) (answer : Except OutputFault Unit)
  | write (root : String) (artifacts : List Artifact) (answer : Except OutputFault Unit)
  | execute (command directory : String) (answer : Except Failure CommandResult)

/-! ## Recording -/

section

variable {σ ε α β : Type}

namespace Logged

def forget (s : Logged (σ × List Effect)) : Logged σ := ⟨s.state.1, s.warnings⟩

def effects (s : Logged (σ × List Effect)) : List Effect := s.state.2

end Logged

namespace Acting

/-- Does something and records it with the answer. -/
def recorded (action : Acting σ ε α) (effect : Except ε α → Effect) :
    Acting (σ × List Effect) ε α :=
  ExceptT.mk fun s =>
    let (answer, t) := action.run.run s.forget
    (answer, ⟨(t.state, s.effects ++ [effect answer]), t.warnings⟩)

/-- An action on a state with records does what another does on the state alone. -/
def Tracks (x : Acting (σ × List Effect) ε α) (y : Acting σ ε α) : Prop :=
  Stateful.Tracks Logged.forget x y

private theorem tracks_recorded (action : Acting σ ε α) (effect : Except ε α → Effect) :
    (action.recorded effect).Tracks action := fun _ => rfl

private theorem tracks_pure (a : α) : Tracks (σ := σ) (ε := ε) (pure a) (pure a) :=
  Stateful.tracks_pure a

private theorem Tracks.bind {x : Acting (σ × List Effect) ε α} {y : Acting σ ε α}
    {f : α → Acting (σ × List Effect) ε β} {g : α → Acting σ ε β}
    (first : x.Tracks y) (rest : ∀ a, (f a).Tracks (g a)) : (x >>= f).Tracks (y >>= g) :=
  Stateful.Tracks.bind first rest

end Acting

namespace Surroundings

/-- The same surroundings, which record what they are asked for after loading. -/
def recording (around : Surroundings σ) : Surroundings (σ × List Effect) where
  load source s := (((around.load source).run s.1).1, ((around.load source).run s.1).2, s.2)
  ensure directory := (around.ensure directory).recorded (.ensure directory)
  write root artifacts := (around.write root artifacts).recorded (.write root artifacts)
  execute command directory s :=
    let (answer, t) := (around.execute command directory).run s.1
    (answer, t, s.2 ++ [.execute command directory answer])

end Surroundings

end

namespace Run

variable {σ : Type}

/-! ## Steps -/

private theorem run_ofDiagnosed {α : Type} (x : Diagnosed α) (s : Logged σ) :
    (ofDiagnosed x).run.run s =
      (x.result.mapError .generation, ⟨s.state, s.warnings ++ x.warnings⟩) := by
  rcases x with ⟨warnings, _ | a⟩ <;> rfl

private theorem run_loaded (around : Surroundings σ) (source : String) (s : Logged σ) :
    (loaded around source).run.run s =
      (((around.load source).run s.state).1.mapError .generation,
        ⟨((around.load source).run s.state).2, s.warnings⟩) := by
  have step : (loaded around source).run.run s =
      (ofDiagnosed (.ofExcept ((around.load source).run s.state).1)).run.run
        ⟨((around.load source).run s.state).2, s.warnings⟩ := rfl
  rw [step, run_ofDiagnosed, Diagnosed.ofExcept, List.append_nil]

private theorem run_output {α : Type} (action : Acting σ OutputFault α) (s : Logged σ) :
    (output action).run.run s =
      ((action.run.run s).1.mapError .output, (action.run.run s).2) := rfl

private theorem run_ofCommands_cons {ε : Type}
    (execute : String → StateM σ (Except Failure CommandResult)) {command : String}
    {answer : Except Failure CommandResult} {s : Logged σ} {state : σ}
    (h : (execute command).run s.state = (answer, state)) (rest : List String) :
    (CommandOutcome.ofCommands (ε := ε) execute (command :: rest)).run.run s =
      (do return CommandOutcome.ofResult command answer ::
        (← CommandOutcome.ofCommands (ε := ε) execute rest)).run.run
          ⟨state, s.warnings ++ (CommandOutcome.warning? command answer).toList⟩ := by
  rw [CommandOutcome.ofCommands, Stateful.run_bind_ok (Stateful.run_get s)]
  simp only [h]
  rw [Stateful.run_bind_ok (Stateful.run_set ..)]
  cases CommandOutcome.warning? command answer with
  | none => rw [Option.toList_none, List.append_nil]
  | some warning => rfl

private theorem run_execute_recording {around : Surroundings σ} {command directory : String}
    {s : σ × List Effect} {answer : Except Failure CommandResult} {state : σ}
    (h : (around.execute command directory).run s.1 = (answer, state)) :
    (around.recording.execute command directory).run s =
      (answer, state, s.2 ++ [.execute command directory answer]) := by
  show (let (answer, t) := (around.execute command directory).run s.1
    (answer, t, s.2 ++ [Effect.execute command directory answer])) = _
  rw [h]

private theorem run_ofCommands_recording {ε : Type} (around : Surroundings σ) (directory : String)
    (commands : List String) (s : Logged (σ × List Effect)) :
    ∃ answers : List (Except Failure CommandResult), ∃ t : Logged (σ × List Effect),
      answers.length = commands.length ∧
      t.effects = s.effects ++ (commands.zip answers).map (fun (command, answer) =>
        Effect.execute command directory answer) ∧
      (CommandOutcome.ofCommands (ε := ε) (around.recording.execute · directory)
        commands).run.run s =
          (.ok ((commands.zip answers).map fun (command, answer) =>
            CommandOutcome.ofResult command answer), t) := by
  induction commands generalizing s with
  | nil => exact ⟨[], s, rfl, by simp, rfl⟩
  | cons command rest ih =>
    rcases asked : (around.execute command directory).run s.state.1 with ⟨answer, state⟩
    obtain ⟨answers, t, length, later, outcomes⟩ :=
      ih ⟨(state, s.effects ++ [.execute command directory answer]),
        s.warnings ++ (CommandOutcome.warning? command answer).toList⟩
    refine ⟨answer :: answers, t, congrArg Nat.succ length, later.trans ?_, ?_⟩
    · exact List.append_assoc ..
    · have first := run_ofCommands_cons (ε := ε) (around.recording.execute · directory)
        (run_execute_recording asked) rest
      exact first.trans (Stateful.run_bind_ok outcomes)

/-! ## Courses of runs -/

/-- What a run is to write, with the metadata of its report, or why it ends before it asks for
anything. -/
def planned (around : Surroundings σ) (r : Request) (s : σ) :
    Except RunFailure (List Artifact × Metadata) := do
  r.validate.mapError .request
  let d ← ((around.load r.source).run s).1.mapError .generation
  let context ← (Context.ofDocument d r.language r.module).mapError .generation
  let context := context.skipping r.skipped
  let artifacts ← (Generation.generate d context).result.mapError .generation
  return (artifacts, context.metadata)

private theorem result_generated (r : Request) (d : Document) :
    (generated r d).result.mapError RunFailure.generation = (do
      let context ← (Context.ofDocument d r.language r.module).mapError .generation
      let context := context.skipping r.skipped
      let artifacts ← (Generation.generate d context).result.mapError .generation
      return (artifacts, context.metadata)) := by
  unfold generated
  rw [Diagnosed.result_bind]
  cases Context.ofDocument d r.language r.module with
  | error failure => rfl
  | ok context =>
    show ((Generation.generate d (context.skipping r.skipped) >>= fun artifacts =>
      pure (artifacts, (context.skipping r.skipped).metadata)).result).mapError _ = _
    rw [Diagnosed.result_bind]
    show _ = ((Generation.generate d (context.skipping r.skipped)).result.mapError _ >>= _)
    cases (Generation.generate d (context.skipping r.skipped)).result <;> rfl

def failed : Except Failure CommandResult → Bool
  | .ok result => result.exitCode ≠ 0
  | .error _ => true

def report (r : Request) (artifacts : List Artifact) (metadata : Metadata) (written : Bool)
    (failedCommands : List String) : Report :=
  ⟨artifacts.map Artifact.path, r.directory, written, failedCommands, metadata⟩

/-- The courses that a run can take, by what was planned: its result and what it asks for. -/
inductive Course (r : Request) :
    Except RunFailure (List Artifact × Metadata) → Except RunFailure Report → List Effect → Prop
  | refused {failure : RunFailure} : Course r (.error failure) (.error failure) []
  | dry {artifacts : List Artifact} {metadata : Metadata} : r.dryRun = true →
      Course r (.ok (artifacts, metadata)) (.ok (report r artifacts metadata false [])) []
  | notEnsured {artifacts : List Artifact} {metadata : Metadata} {fault : OutputFault} :
      r.dryRun = false →
      Course r (.ok (artifacts, metadata)) (.error (.output fault))
        [.ensure r.directory (.error fault)]
  | notWritten {artifacts : List Artifact} {metadata : Metadata} {fault : OutputFault} :
      r.dryRun = false →
      Course r (.ok (artifacts, metadata)) (.error (.output fault))
        [.ensure r.directory (.ok ()), .write r.directory artifacts (.error fault)]
  | written {artifacts : List Artifact} {metadata : Metadata}
      {answers : List (Except Failure CommandResult)} :
      r.dryRun = false → answers.length = r.commands.length →
      Course r (.ok (artifacts, metadata))
        (.ok (report r artifacts metadata true
          (((r.commands.zip answers).filter (failed ·.2)).map Prod.fst)))
        ([.ensure r.directory (.ok ()), .write r.directory artifacts (.ok ())] ++
          (r.commands.zip answers).map fun (command, answer) =>
            .execute command r.directory answer)

/-! ## Every run takes its course -/

private theorem failed_outcomes (answered : List (String × Except Failure CommandResult)) :
    ((answered.map fun (command, answer) => CommandOutcome.ofResult command answer).filter
      (!·.succeeded)).map CommandOutcome.command = (answered.filter (failed ·.2)).map Prod.fst := by
  have same (command : String) (answer : Except Failure CommandResult) :
      (!(CommandOutcome.ofResult command answer).succeeded) = failed answer ∧
        (CommandOutcome.ofResult command answer).command = command := by
    cases answer with
    | ok result => simp [CommandOutcome.ofResult, CommandResult.succeeded, failed]
    | error => exact ⟨rfl, rfl⟩
  induction answered with
  | nil => rfl
  | cons first rest ih =>
    obtain ⟨fails, named⟩ := same first.1 first.2
    rw [List.map_cons, List.filter_cons, List.filter_cons, fails]
    cases failed first.2 with
    | true => exact congrArg₂ List.cons named ih
    | false => exact ih

def finish (around : Surroundings σ) (r : Request) (artifacts : List Artifact)
    (metadata : Metadata) : Running σ Report := do
  if r.dryRun then return report r artifacts metadata false []
  output (around.ensure r.directory)
  output (around.write r.directory artifacts)
  let outcomes ← CommandOutcome.ofCommands (around.execute · r.directory) r.commands
  let failed := (outcomes.filter (!·.succeeded)).map CommandOutcome.command
  return report r artifacts metadata true failed

/-- A run fails with its plan or finishes it, and until then has at most loaded. -/
theorem run_generate (around : Surroundings σ) (r : Request) (s : Logged σ) :
    ∃ t : Logged σ,
      (t.state = s.state ∨ t.state = ((around.load r.source).run s.state).2) ∧
      (generate around r).run.run s =
        match planned around r s.state with
        | .error failure => (.error failure, t)
        | .ok (artifacts, metadata) => (finish around r artifacts metadata).run.run t := by
  cases valid : r.validate with
  | error fault =>
    have refused : planned around r s.state = .error (.request fault) := by
      rw [planned, valid]
      rfl
    rw [refused, generate, valid]
    exact ⟨s, .inl rfl, rfl⟩
  | ok =>
    let state := ((around.load r.source).run s.state).2
    have came := run_loaded around r.source s
    cases answer : ((around.load r.source).run s.state).1 with
    | error failure =>
      have missed : planned around r s.state = .error (.generation failure) := by
        rw [planned, valid, answer]
        rfl
      rw [answer] at came
      rw [missed, generate, valid]
      exact ⟨⟨state, s.warnings⟩, .inr rfl, Stateful.run_bind_error came⟩
    | ok d =>
      have plan : planned around r s.state = (generated r d).result.mapError .generation := by
        rw [planned, valid, answer, result_generated]
        rfl
      have made := run_ofDiagnosed (generated r d) ⟨state, s.warnings⟩
      rw [answer] at came
      rw [plan, generate, valid]
      refine ⟨⟨state, s.warnings ++ (generated r d).warnings⟩, .inr rfl, ?_⟩
      refine (Stateful.run_bind_ok came).trans ?_
      cases result : (generated r d).result with
      | error failure =>
        rw [result] at made
        exact Stateful.run_bind_error made
      | ok parts =>
        rw [result] at made
        exact Stateful.run_bind_ok made

private theorem course_of_finish (around : Surroundings σ) (r : Request) (artifacts : List Artifact)
    (metadata : Metadata) (s : Logged (σ × List Effect)) (start : s.effects = []) :
    Course r (.ok (artifacts, metadata))
      ((finish around.recording r artifacts metadata).run.run s).1
      ((finish around.recording r artifacts metadata).run.run s).2.effects := by
  unfold finish
  cases mode : r.dryRun with
  | true =>
    rw [if_pos rfl]
    show Course _ _ _ s.effects
    rw [start]
    exact .dry mode
  | false =>
    rw [if_neg Bool.false_ne_true]
    obtain ⟨ensured, t, ensures, afterEnsure⟩ : ∃ answer t,
        (output (around.recording.ensure r.directory)).run.run s =
          (answer.mapError .output, t) ∧ t.effects = [.ensure r.directory answer] :=
      ⟨_, _, rfl, congrArg (· ++ _) start⟩
    cases ensured with
    | error fault =>
      rw [Stateful.run_bind_error ensures, afterEnsure]
      exact .notEnsured mode
    | ok =>
      rw [Stateful.run_bind_ok ensures]
      obtain ⟨wrote, u, writes, afterWrite⟩ : ∃ answer u,
          (output (around.recording.write r.directory artifacts)).run.run t =
            (answer.mapError .output, u) ∧
          u.effects = [.ensure r.directory (.ok ()), .write r.directory artifacts answer] :=
        ⟨_, _, rfl, congrArg (· ++ _) afterEnsure⟩
      cases wrote with
      | error fault =>
        rw [Stateful.run_bind_error writes, afterWrite]
        exact .notWritten mode
      | ok =>
        rw [Stateful.run_bind_ok writes]
        obtain ⟨answers, v, length, executed, outcomes⟩ :=
          run_ofCommands_recording around r.directory r.commands u
        rw [Stateful.run_bind_ok outcomes]
        show Course _ _ (.ok _) v.effects
        rw [executed, afterWrite]
        rw [failed_outcomes]
        exact .written mode length

private theorem Course.written_iff {r : Request}
    {plan : Except RunFailure (List Artifact × Metadata)}
    {report : Report} {effects : List Effect} (h : Course r plan (.ok report) effects) :
    report.written = true ↔
      ∃ artifacts, Effect.write r.directory artifacts (.ok ()) ∈ effects := by
  cases h with
  | dry => simp [Run.report]
  | written => simp [Run.report]

private theorem Course.result_of_dry {r : Request} {artifacts : List Artifact} {metadata : Metadata}
    {result : Except RunFailure Report} {effects : List Effect} (mode : r.dryRun = true)
    (h : Course r (.ok (artifacts, metadata)) result effects) :
    result = .ok (Run.report r artifacts metadata false []) := by
  cases h with
  | dry => rfl
  | notEnsured wet => cases mode.symm.trans wet
  | notWritten wet => cases mode.symm.trans wet
  | written wet => cases mode.symm.trans wet

private theorem Course.exists_plan {r : Request}
    {plan : Except RunFailure (List Artifact × Metadata)}
    {report : Report} {effects : List Effect} (h : Course r plan (.ok report) effects) :
    ∃ artifacts metadata, plan = .ok (artifacts, metadata) ∧
      report.artifacts = artifacts.map Artifact.path := by
  cases h with
  | dry => exact ⟨_, _, rfl, rfl⟩
  | written => exact ⟨_, _, rfl, rfl⟩

private theorem tracks_ofDiagnosed {α : Type} (x : Diagnosed α) :
    Acting.Tracks (σ := σ) (ofDiagnosed x) (ofDiagnosed x) := by
  intro s
  rw [run_ofDiagnosed, run_ofDiagnosed]
  rfl

private theorem tracks_loaded (around : Surroundings σ) (source : String) :
    (loaded around.recording source).Tracks (loaded around source) := by
  intro s
  rw [run_loaded, run_loaded]
  rfl

private theorem tracks_output {α : Type} {x : Acting (σ × List Effect) OutputFault α}
    {y : Acting σ OutputFault α} (h : x.Tracks y) : (output x).Tracks (output y) := by
  intro s
  rw [run_output, run_output, h s]

private theorem tracks_ofCommands {ε : Type} (around : Surroundings σ) (directory : String)
    (commands : List String) :
    Acting.Tracks (ε := ε)
      (CommandOutcome.ofCommands (around.recording.execute · directory) commands)
      (CommandOutcome.ofCommands (around.execute · directory) commands) := by
  induction commands with
  | nil => exact Acting.tracks_pure _
  | cons command rest ih =>
    intro s
    rcases asked : (around.execute command directory).run s.state.1 with ⟨answer, state⟩
    have plain := run_ofCommands_cons (ε := ε) (around.execute · directory) (s := s.forget)
      asked rest
    have recording := run_ofCommands_cons (ε := ε) (around.recording.execute · directory)
      (run_execute_recording asked) rest
    rw [plain, recording]
    have later := ih.bind fun outcomes =>
      Acting.tracks_pure (CommandOutcome.ofResult command answer :: outcomes)
    exact later ⟨(state, s.effects ++ [.execute command directory answer]), _⟩

private theorem tracks_generate (around : Surroundings σ) (r : Request) :
    (generate around.recording r).Tracks (generate around r) := by
  unfold generate
  cases r.validate with
  | error fault => exact fun _ => rfl
  | ok =>
    refine (tracks_loaded around r.source).bind fun d => ?_
    refine (tracks_ofDiagnosed (generated r d)).bind fun (artifacts, metadata) => ?_
    cases r.dryRun with
    | true => exact Acting.tracks_pure _
    | false =>
      have ensure := Acting.tracks_recorded (around.ensure r.directory) (.ensure r.directory)
      have write := Acting.tracks_recorded (around.write r.directory artifacts)
        (.write r.directory artifacts)
      refine (tracks_output ensure).bind fun _ => (tracks_output write).bind fun _ => ?_
      exact (tracks_ofCommands around r.directory r.commands).bind fun _ => Acting.tracks_pure _

private theorem course_of_generate (around : Surroundings σ) (r : Request)
    (s : Logged (σ × List Effect)) (start : s.effects = []) :
    Course r (planned around r s.state.1) ((generate around.recording r).run.run s).1
      ((generate around.recording r).run.run s).2.effects := by
  obtain ⟨t, loads, ran⟩ := run_generate around.recording r s
  -- Loading is not recorded, so nothing is before the artifacts are there.
  have quiet : t.effects = [] := by
    rcases loads with same | same
    · exact (congrArg Prod.snd same).trans start
    · exact (congrArg Prod.snd same).trans start
  have same : planned around.recording r s.state = planned around r s.state.1 := rfl
  rw [ran, same]
  cases planned around r s.state.1 with
  | error failure =>
    show Course _ _ _ t.effects
    rw [quiet]
    exact .refused
  | ok plan => exact course_of_finish around r plan.1 plan.2 t quiet

/-- A run takes the course that its plan and the answers to what it asks for set. Its report says
that something was written exactly if it was, and lists what a dry run lists. -/
theorem generate_takes_course (around : Surroundings σ) (r : Request) (s : Logged σ) :
    ∃ result t effects,
      (generate around r).run.run s = (result, t) ∧
      (generate around.recording r).run.run ⟨(s.state, []), s.warnings⟩ =
        (result, ⟨(t.state, effects), t.warnings⟩) ∧
      Course r (planned around r s.state) result effects ∧
      ∀ report, result = .ok report →
        (report.written = true ↔
          ∃ artifacts, Effect.write r.directory artifacts (.ok ()) ∈ effects) ∧
        ∃ dry, ((generate around { r with dryRun := true }).run.run s).1 = .ok dry ∧
          dry.artifacts = report.artifacts ∧ dry.written = false := by
  let start : Logged (σ × List Effect) := ⟨(s.state, []), s.warnings⟩
  have course := course_of_generate around r start rfl
  refine ⟨_, _, _, tracks_generate around r start, rfl, course, ?_⟩
  intro report ended
  rw [ended] at course
  refine ⟨course.written_iff, ?_⟩
  obtain ⟨artifacts, metadata, plan, listed⟩ := course.exists_plan
  have dry := course_of_generate around { r with dryRun := true } start rfl
  have same : planned around { r with dryRun := true } s.state = .ok (artifacts, metadata) := plan
  rw [same] at dry
  have result := dry.result_of_dry rfl
  have ran := tracks_generate around { r with dryRun := true } start
  exact ⟨_, (congrArg Prod.fst ran).trans result, listed.symm, rfl⟩

/-- Surroundings that do all they are asked for, but find fault with what they are to vet. -/
def vettingSurroundings (d : Document) : Surroundings Unit where
  load _ := return .ok d
  ensure _ := return
  write _ _ := return
  execute command _ := return .ok (if command = "go vet" then ⟨1, "", "vet: no"⟩ else ⟨0, "", ""⟩)

def emptyDocument : Document := ⟨"3.0.3", ⟨"Queue", "1.0.0", none⟩, [], [], []⟩

/-- Two commands are to be run, and the first of them fails. -/
def vettedRequest : Request :=
  ⟨"open-api.yaml", "out", .go, some "example.com/queue", [], ["go vet", "gofmt"], false⟩

theorem generate_takes_course_vetted :
    ∃ artifacts metadata t,
      planned (vettingSurroundings emptyDocument) vettedRequest () = .ok (artifacts, metadata) ∧
      (generate (vettingSurroundings emptyDocument) vettedRequest).run.run ⟨(), []⟩ =
        (.ok (report vettedRequest artifacts metadata true ["go vet"]), t) ∧
      (generate (vettingSurroundings emptyDocument).recording vettedRequest).run.run
          ⟨((), []), []⟩ =
        (.ok (report vettedRequest artifacts metadata true ["go vet"]), ⟨(t.state, [
          .ensure "out" (.ok ()), .write "out" artifacts (.ok ()),
          .execute "go vet" "out" (.ok ⟨1, "", "vet: no"⟩),
          .execute "gofmt" "out" (.ok ⟨0, "", ""⟩)]), t.warnings⟩) := by
  obtain ⟨result, t, effects, ran, recorded, course, -⟩ :=
    generate_takes_course (vettingSurroundings emptyDocument) vettedRequest ⟨(), []⟩
  dsimp only at recorded
  have generates :
      (planned (vettingSurroundings emptyDocument) vettedRequest ()).isOk = true := by
    decide +kernel
  have last : ((generate (vettingSurroundings emptyDocument).recording vettedRequest).run.run
      ⟨((), []), []⟩).2.effects.drop 2 = [
        .execute "go vet" "out" (.ok ⟨1, "", "vet: no"⟩),
        .execute "gofmt" "out" (.ok ⟨0, "", ""⟩)] := rfl
  rw [recorded] at last
  cases plan : planned (vettingSurroundings emptyDocument) vettedRequest () with
  | error failure =>
    rw [plan] at generates
    cases generates
  | ok made =>
    obtain ⟨artifacts, metadata⟩ := made
    rw [plan] at course
    -- Of the courses only the last one comes to commands.
    cases course with
    | dry mode => cases mode
    | notEnsured => cases last
    | notWritten => cases last
    | @written _ _ answers _ length =>
      obtain ⟨first, second, rfl⟩ := List.length_eq_two.mp length
      cases last
      exact ⟨artifacts, metadata, t, rfl, ran, recorded⟩

end Run

end ApiScaffold
