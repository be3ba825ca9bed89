import Wikidown.Session

/-!
# Runs of jobs

A job is run on a session, an operation on files on a tree of files. What a run gives is read off step by
step: one lemma for each way to put steps together, and one for each step of a job.
-/

namespace Wikidown

set_option autoImplicit false

section Steps

variable {Error State Value Result : Type}

theorem run_bind (job : ExceptT Error (StateM State) Value)
    (next : Value → ExceptT Error (StateM State) Result) (state : State) :
    ((job >>= next).run state).run =
      match (job.run state).run with
      | (.ok value, after) => ((next value).run after).run
      | (.error error, after) => (.error error, after) := by
  change (match (job.run state).run with
    | (result, after) => (ExceptT.bindCont next result after).run) = _
  rcases (job.run state).run with ⟨_ | _, after⟩ <;> rfl

theorem run_try_catch (job : ExceptT Error (StateM State) Value)
    (handle : Error → ExceptT Error (StateM State) Value) (state : State) :
    ((tryCatch job handle).run state).run =
      match (job.run state).run with
      | (.ok value, after) => (.ok value, after)
      | (.error error, after) => ((handle error).run after).run := by
  simp only [tryCatch, tryCatchThe, MonadExceptOf.tryCatch, ExceptT.tryCatch, ExceptT.run, ExceptT.mk,
    bind, StateT.bind]
  rcases job state with ⟨_ | _, after⟩ <;> rfl

end Steps

namespace Job

variable {Value Result : Type}

theorem perform_bind (job : Job Value) (next : Value → Job Result) (session : Session) :
    (job >>= next).perform session =
      match job.perform session with
      | (.ok value, after) => (next value).perform after
      | (.error fault, after) => (.error fault, after) := by
  rw [perform, run_bind, ← perform]
  rcases job.perform session with ⟨_ | _, after⟩ <;> rfl

theorem perform_of_result {job : Job Value} {session : Session} {result : Except Fault Value}
    (known : (job.perform session).1 = result) : job.perform session = (result, (job.perform session).2) :=
  Prod.ext known rfl

theorem perform_bind_ok {job : Job Value} {next : Value → Job Result} {session after : Session}
    {result : Result} :
    (job >>= next).perform session = (.ok result, after) ↔
      ∃ value between, job.perform session = (.ok value, between) ∧
        (next value).perform between = (.ok result, after) := by
  rw [perform_bind]
  rcases job.perform session with ⟨fault | value, between⟩
  · simp
  · constructor
    · exact fun done => ⟨value, between, rfl, done⟩
    · rintro ⟨_, _, same, done⟩
      obtain ⟨values, rfl⟩ := Prod.mk.inj same
      rwa [← Except.ok.inj values] at done

theorem perform_bind_error {job : Job Value} {next : Value → Job Result} {session after : Session}
    {fault : Fault} :
    (job >>= next).perform session = (.error fault, after) ↔
      job.perform session = (.error fault, after) ∨
        ∃ value between, job.perform session = (.ok value, between) ∧
          (next value).perform between = (.error fault, after) := by
  rw [perform_bind]
  rcases job.perform session with ⟨other | value, between⟩
  · simp
  · constructor
    · exact fun failed => .inr ⟨value, between, rfl, failed⟩
    · rintro (same | ⟨_, _, same, failed⟩)
      · simp at same
      · obtain ⟨values, rfl⟩ := Prod.mk.inj same
        rwa [← Except.ok.inj values] at failed

theorem perform_try_catch (job : Job Value) (handle : Fault → Job Value) (session : Session) :
    (tryCatch job handle).perform session =
      match job.perform session with
      | (.ok value, after) => (.ok value, after)
      | (.error fault, after) => (handle fault).perform after := by
  rw [perform, run_try_catch, ← perform]
  rcases job.perform session with ⟨_ | _, after⟩ <;> rfl

@[simp]
theorem perform_pure (value : Value) (session : Session) :
    (pure value : Job Value).perform session = (.ok value, session) := rfl

theorem perform_map (change : Value → Result) (job : Job Value) (session : Session) :
    (change <$> job).perform session =
      match job.perform session with
      | (.ok value, after) => (.ok (change value), after)
      | (.error fault, after) => (.error fault, after) := by
  rw [map_eq_pure_bind, perform_bind]
  rcases job.perform session with ⟨_ | _, after⟩ <;> rfl

@[simp]
theorem perform_throw (fault : Fault) (session : Session) :
    (throw fault : Job Value).perform session = (.error fault, session) := rfl

theorem perform_get (session : Session) : (get : Job Session).perform session = (.ok session, session) := rfl

@[simp]
theorem perform_log (level : Level) (text : Text) (session : Session) :
    (Job.log level text).perform session =
      (.ok (), { session with records := session.records ++ [⟨level, text⟩] }) := rfl

@[simp]
theorem perform_say (message : Text) (session : Session) :
    (Job.say message).perform session =
      (.ok (), { session with messages := session.messages ++ [Markup.shown message] }) := rfl

@[simp]
theorem perform_print (text : Text) (session : Session) :
    (Job.print text).perform session =
      (.ok (), { session with printed := session.printed ++ text ++ ['\n'] }) := rfl

@[simp]
theorem perform_tree (session : Session) : Job.tree.perform session = (.ok session.tree, session) := rfl

@[simp]
theorem perform_taken (session : Session) : Job.taken.perform session = (.ok session.taken, session) := rfl

@[simp]
theorem perform_set_taken (slugs : List Text) (session : Session) :
    (Job.setTaken slugs).perform session = (.ok (), { session with taken := slugs }) := rfl

@[simp]
theorem perform_of_except (result : Except Fault Value) (session : Session) :
    (Job.ofExcept result).perform session = (result, session) := by
  cases result <;> rfl

theorem perform_files (toFault : FileError → Fault) (operation : FileJob Unit) (session : Session) :
    (Job.files toFault operation).perform session =
      ((operation.run session.tree).run.1.mapError (Fault.ofFileError toFault),
        { session with tree := (operation.run session.tree).run.2 }) := by
  rw [Job.files, perform_bind, perform_get]
  dsimp only
  rcases (operation.run session.tree).run with ⟨error | _, tree⟩ <;> rfl

theorem perform_of_except_ok {result : Except Fault Value} {value : Value} {session after : Session} :
    (Job.ofExcept result).perform session = (.ok value, after) ↔ result = .ok value ∧ session = after := by
  rw [perform_of_except, Prod.mk.injEq]

theorem perform_files_ok {toFault : FileError → Fault} {operation : FileJob Unit} {value : Unit}
    {session after : Session} :
    (Job.files toFault operation).perform session = (.ok value, after) ↔
      ∃ tree, (operation.run session.tree).run = (.ok (), tree) ∧ { session with tree := tree } = after := by
  rw [perform_files]
  rcases (operation.run session.tree).run with ⟨error | _, tree⟩
  · constructor
    · exact fun same => absurd (Prod.mk.inj same).1 (fun failed => by cases failed)
    · rintro ⟨_, same, _⟩
      cases same
  · constructor
    · exact fun same => ⟨tree, rfl, (Prod.mk.inj same).2⟩
    · rintro ⟨_, same, rfl⟩
      cases same
      rfl

end Job

end Wikidown
