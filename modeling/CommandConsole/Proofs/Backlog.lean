import CommandConsole.Proofs.Failure

namespace CommandConsole

/-!
# Lines that wait behind others

What a line does cannot depend on the lines that wait behind it, and what it
queues goes ahead of them. So a read loop works off the lines in front, with
all that they queue, as if there were none behind them, and then the lines
behind are left as they were. Only a stop reaches them: it discards all lines.
-/

/-- The event as a session logs it that has a count of further lines behind its pending ones. -/
def Event.withBehind (count : Nat) : Event → Event
  | .batchQueued added pending =>
      .batchQueued added (pending + count)
  | .discarded pending =>
      .discarded (pending + count)
  | event =>
      event

theorem Event.Unaware.withBehind
    {event : Event}
    (unaware : event.Unaware)
    (count : Nat) :
    event.withBehind count = event := by
  cases event with
  | batchQueued added pending
  | discarded pending =>
      exact unaware.elim
  | _ =>
      rfl

/-- With no further line, the event is as it would be without them. -/
theorem Event.withBehind_zero (event : Event) : event.withBehind 0 = event := by
  cases event <;> rfl

namespace Session

/-- Two sessions that differ in their pending lines and in their logs at most. -/
structure Alike (front whole : Session) : Prop where
  limit : whole.queue.limit = front.queue.limit
  registry : whole.registry = front.registry
  store : whole.store = front.store
  stop : whole.stop = front.stop
  alarm : whole.alarm = front.alarm
  exits : whole.exits = front.exits

/-- Of two sessions that are alike, the second has further lines behind all pending ones. -/
structure Backed (behind : List String) (front whole : Session) : Prop
    extends Alike front whole where
  pending : whole.queue.lines = front.queue.lines ++ behind

/-- Two sessions have logged the same events, but for a count of lines behind the pending ones. -/
def LoggedAlike (count : Nat) (front whole frontAfter wholeAfter : Session) : Prop :=
  ∃ events : List Event,
    frontAfter.log = front.log ++ events.toArray ∧
      wholeAfter.log = whole.log ++ (events.map (Event.withBehind count)).toArray

/--
The same attempt in two sessions of which the second has further lines behind
all pending ones. They stay there, or a stop leaves no line in either session.
-/
structure InStep
    (behind : List String)
    (front whole : Session)
    (frontRan wholeRan : Attempt Session α) :
    Prop where
  outcome : wholeRan.outcome = frontRan.outcome
  alike : frontRan.state.Alike wholeRan.state
  logged : LoggedAlike behind.length front whole frontRan.state wholeRan.state
  pending :
    wholeRan.state.queue.lines = frontRan.state.queue.lines ++ behind ∨
      (frontRan.outcome = .error .stopped ∧
        frontRan.state.queue.lines = [] ∧ wholeRan.state.queue.lines = [])

section Lockstep

variable {behind : List String} {count : Nat}
variable {front whole first second third fourth : Session}

theorem loggedAlike_of_same_logs
    (frontSame : first.log = front.log)
    (wholeSame : second.log = whole.log) :
    LoggedAlike count front whole first second :=
  ⟨[], by simp [frontSame], by simp [wholeSame]⟩

theorem LoggedAlike.trans
    (earlier : LoggedAlike count front whole first second)
    (later : LoggedAlike count first second third fourth) :
    LoggedAlike count front whole third fourth := by
  obtain ⟨early, frontEarly, wholeEarly⟩ := earlier
  obtain ⟨late, frontLate, wholeLate⟩ := later
  refine ⟨early ++ late, ?_, ?_⟩
  · rw [frontLate, frontEarly]
    simp [Array.append_assoc]
  · rw [wholeLate, wholeEarly]
    simp [Array.append_assoc]

theorem loggedAlike_record (count : Nat) (front whole : Session) (event : Event) :
    LoggedAlike count front whole (front.record event)
      (whole.record (event.withBehind count)) :=
  ⟨[event], by simp [record], by simp [record]⟩

theorem loggedAlike_record_of_unaware
    (count : Nat)
    (front whole : Session)
    {event : Event}
    (unaware : event.Unaware) :
    LoggedAlike count front whole (front.record event) (whole.record event) := by
  have recorded : LoggedAlike count front whole (front.record event)
      (whole.record (event.withBehind count)) :=
    loggedAlike_record count front whole event
  rwa [unaware.withBehind] at recorded

theorem Alike.scope (alike : front.Alike whole) : whole.scope = front.scope := by
  rw [Session.scope, alike.registry, alike.store]
  rfl

/-- The same session with further lines behind its pending ones. -/
theorem backed_of_queue
    {queue : Queue}
    (sameLimit : queue.limit = front.queue.limit)
    (pending : queue.lines = front.queue.lines ++ behind) :
    front.Backed behind { front with queue := queue } :=
  ⟨⟨sameLimit, rfl, rfl, rfl, rfl, rfl⟩, pending⟩

theorem Backed.record
    (backed : front.Backed behind whole)
    (event other : Event) :
    (front.record event).Backed behind (whole.record other) :=
  ⟨⟨backed.limit, backed.registry, backed.store, backed.stop, backed.alarm, backed.exits⟩,
    backed.pending⟩

/-- The line that waits in front is the same with further lines behind it. -/
theorem Backed.pop
    (backed : front.Backed behind whole)
    {line : String}
    {rest : List String}
    (waiting : front.queue.lines = line :: rest) :
    front.queue.pop = .ok (line, front.queue.tail) ∧
      whole.queue.pop = .ok (line, whole.queue.tail) ∧
      ({ front with queue := front.queue.tail }).Backed behind
        { whole with queue := whole.queue.tail } := by
  refine ⟨by simp [Queue.pop, waiting], by simp [Queue.pop, backed.pending, waiting], ?_⟩
  refine ⟨⟨backed.limit, backed.registry, backed.store, backed.stop, backed.alarm,
    backed.exits⟩, ?_⟩
  simp [Queue.tail, backed.pending, waiting]

/-- What has been logged before an attempt does not matter to it. -/
theorem InStep.after
    {frontRan wholeRan : Attempt Session α}
    (later : InStep behind first second frontRan wholeRan)
    (earlier : LoggedAlike behind.length front whole first second) :
    InStep behind front whole frontRan wholeRan :=
  ⟨later.outcome, later.alike, earlier.trans later.logged, later.pending⟩

theorem InStep.backed
    {frontRan wholeRan : Attempt Session α}
    (inStep : InStep behind front whole frontRan wholeRan)
    (goesOn : frontRan.outcome ≠ .error .stopped) :
    frontRan.state.Backed behind wholeRan.state := by
  rcases inStep.pending with pending | ⟨stopped, _⟩
  · exact ⟨inStep.alike, pending⟩
  · exact absurd stopped goesOn

/-- What fails or is stopped in step does so as a part of anything else. -/
theorem InStep.of_error
    {frontRan wholeRan : Attempt Session α}
    {fault : Fault}
    (inStep : InStep behind front whole frontRan wholeRan)
    (failed : frontRan.outcome = .error fault) :
    InStep behind front whole
      ⟨frontRan.state, (.error fault : Except Fault β)⟩ ⟨wholeRan.state, .error fault⟩ := by
  obtain ⟨_, alike, logged, pending⟩ := inStep
  rw [failed] at pending
  refine ⟨rfl, alike, logged, pending.imp_right ?_⟩
  rintro ⟨stopped, noLines⟩
  exact ⟨by rw [Except.error.inj stopped], noLines⟩

theorem Backed.inStep
    (backed : first.Backed behind second)
    (logged : LoggedAlike behind.length front whole first second)
    (outcome : Except Fault α) :
    InStep behind front whole ⟨first, outcome⟩ ⟨second, outcome⟩ :=
  ⟨rfl, backed.toAlike, logged, .inl backed.pending⟩

/-- A stop discards the lines behind with all others. -/
theorem Backed.inStep_discardPending (backed : front.Backed behind whole) :
    InStep behind front whole
      ⟨front.discardPending, (.error .stopped : Except Fault α)⟩
      ⟨whole.discardPending, .error .stopped⟩ := by
  refine ⟨rfl, ⟨backed.limit, backed.registry, backed.store, backed.stop, backed.alarm,
    backed.exits⟩, ⟨[.discarded front.queue.size], by simp [discardPending, Session.record], ?_⟩,
    .inr ⟨rfl, rfl, rfl⟩⟩
  simp [discardPending, Session.record, Event.withBehind, Queue.size, backed.pending]

theorem Backed.poll (backed : front.Backed behind whole) :
    InStep behind front whole front.poll whole.poll := by
  have advanced : front.advanceAlarm.Backed behind whole.advanceAlarm := by
    obtain ⟨⟨limit, registry, store, stop, alarm, exits⟩, pending⟩ := backed
    unfold advanceAlarm
    rw [alarm]
    split
    · exact ⟨⟨limit, registry, store, stop, alarm, exits⟩, pending⟩
    · exact ⟨⟨limit, registry, store, rfl, rfl, exits⟩, pending⟩
    · exact ⟨⟨limit, registry, store, stop, rfl, exits⟩, pending⟩
  have sameLog (session : Session) : session.advanceAlarm.log = session.log := by
    unfold advanceAlarm
    split <;> rfl
  have quiet : LoggedAlike behind.length front whole front.advanceAlarm whole.advanceAlarm :=
    loggedAlike_of_same_logs (sameLog front) (sameLog whole)
  have sameFlag := advanced.stop
  cases flag : front.advanceAlarm.stop with
  | mk requested =>
      rw [flag] at sameFlag
      cases requested with
      | true =>
          have lowered :
              ({ front.advanceAlarm with stop := .lowered }).Backed behind
                { whole.advanceAlarm with stop := .lowered } :=
            ⟨⟨advanced.limit, advanced.registry, advanced.store, rfl, advanced.alarm,
              advanced.exits⟩, advanced.pending⟩
          simp only [Session.poll, flag, sameFlag, StopFlag.consume, if_true]
          exact lowered.inStep_discardPending.after quiet
      | false =>
          simp only [Session.poll, flag, sameFlag, StopFlag.consume, Bool.false_eq_true, if_false]
          exact advanced.inStep quiet (.ok ())

/-- Acts that do not say how many lines are pending are played alike. -/
theorem Backed.play
    (backed : front.Backed behind whole)
    {acts : List Act}
    (unaware : ∀ event ∈ Act.events acts, event.Unaware) :
    InStep behind front whole (front.play acts) (whole.play acts) := by
  induction acts generalizing front whole with
  | nil =>
      exact backed.inStep (loggedAlike_of_same_logs rfl rfl) _
  | cons act acts inductionHypothesis =>
      cases act with
      | log event =>
          rw [Act.events_log_cons, List.forall_mem_cons] at unaware
          have recorded := loggedAlike_record_of_unaware behind.length front whole unaware.1
          exact (inductionHypothesis (backed.record event event) unaware.2).after recorded
      | poll =>
          have polled := backed.poll
          have sameOutcome := polled.outcome
          simp only [Session.play]
          rw [sameOutcome]
          cases outcome : front.poll.outcome with
          | ok _ =>
              have goesOn := polled.backed (by rw [outcome]; simp)
              exact (inductionHypothesis goesOn unaware).after polled.logged
          | error fault =>
              exact polled.of_error outcome

/-- A batch is refused in both sessions, or it goes ahead of the lines behind in both. -/
theorem Backed.enqueueBatch
    (backed : front.Backed behind whole)
    (lines : List String) :
    (∃ fault,
      front.enqueueBatch lines = .error fault ∧ whole.enqueueBatch lines = .error fault) ∨
      ∃ frontNext wholeNext,
        front.enqueueBatch lines = .ok frontNext ∧ whole.enqueueBatch lines = .ok wholeNext ∧
          frontNext.Backed behind wholeNext ∧
          LoggedAlike behind.length front whole frontNext wholeNext := by
  obtain ⟨⟨limit, registry, store, stop, alarm, exits⟩, pending⟩ := backed
  rcases Queue.short_or_exists_long front.queue.limit lines with
    short | ⟨earlier, long, later, rfl, short, tooLong⟩
  · obtain ⟨frontQueue, frontAccepts, frontLimit, frontLines⟩ := Queue.exists_enqueueBatch short
    rw [← limit] at short
    obtain ⟨wholeQueue, wholeAccepts, wholeLimit, wholeLines⟩ := Queue.exists_enqueueBatch short
    have queued :
        ({ front with queue := frontQueue }).Backed behind { whole with queue := wholeQueue } :=
      ⟨⟨by rw [wholeLimit, frontLimit, limit], registry, store, stop, alarm, exits⟩,
        by simp [wholeLines, frontLines, pending]⟩
    have counted :
        (Event.batchQueued lines.length frontQueue.size).withBehind behind.length =
          .batchQueued lines.length wholeQueue.size := by
      simp [Event.withBehind, Queue.size, wholeLines, frontLines, pending, Nat.add_assoc]
    have before : LoggedAlike behind.length front whole
        { front with queue := frontQueue } { whole with queue := wholeQueue } :=
      loggedAlike_of_same_logs rfl rfl
    have logged := before.trans
      (loggedAlike_record behind.length _ _ (.batchQueued lines.length frontQueue.size))
    rw [counted] at logged
    refine .inr ⟨_, _, ?_, ?_, queued.record _ _, logged⟩
    · simp only [Session.enqueueBatch, frontAccepts]
      rfl
    · simp only [Session.enqueueBatch, wholeAccepts]
      rfl
  · have frontRefuses := Queue.enqueueBatch_of_long later short tooLong
    rw [← limit] at short tooLong
    have wholeRefuses := Queue.enqueueBatch_of_long later short tooLong
    refine .inl ⟨.lineTooLong long.length front.queue.limit, ?_, ?_⟩
    · simp only [Session.enqueueBatch, frontRefuses]
      rfl
    · simp only [Session.enqueueBatch, wholeRefuses, limit]
      rfl

/-- The end of a run changes both sessions alike. -/
theorem Backed.conclude
    (backed : front.Backed behind whole)
    (outcome : Except Fault Completion) :
    InStep behind front whole (front.conclude outcome) (whole.conclude outcome) := by
  have unlogged {frontNext wholeNext : Session}
      (frontSame : frontNext.log = front.log)
      (wholeSame : wholeNext.log = whole.log) :
      LoggedAlike behind.length front whole frontNext wholeNext :=
    loggedAlike_of_same_logs frontSame wholeSame
  cases outcome with
  | error fault =>
      exact backed.inStep (unlogged rfl rfl) _
  | ok completion =>
      obtain ⟨effect, reply⟩ := completion
      have ⟨⟨limit, registry, store, stop, alarm, exits⟩, pending⟩ := backed
      cases effect with
      | none =>
          exact backed.inStep (unlogged rfl rfl) _
      | assign key value =>
          have assigned : (front.assign key value).Backed behind (whole.assign key value) :=
            ⟨⟨limit, registry, by simp [assign, store], stop, alarm, exits⟩, pending⟩
          exact assigned.inStep (unlogged rfl rfl) (.ok reply)
      | requestStop =>
          have requested : front.requestStop.Backed behind whole.requestStop :=
            ⟨⟨limit, registry, store, rfl, alarm, exits⟩, pending⟩
          exact requested.inStep (unlogged rfl rfl) (.ok reply)
      | recordExit code =>
          have recorded :
              ({ front with exits := front.exits ++ [code] }).Backed behind
                { whole with exits := whole.exits ++ [code] } :=
            ⟨⟨limit, registry, store, stop, alarm, by simp [exits]⟩, pending⟩
          exact recorded.inStep (unlogged rfl rfl) (.ok reply)
      | queueAhead lines =>
          rcases backed.enqueueBatch lines with
            ⟨fault, frontRefuses, wholeRefuses⟩ | ⟨_, _, frontNext, wholeNext, queued, logged⟩
          · simp only [Session.conclude, apply, frontRefuses, wholeRefuses]
            exact backed.inStep (unlogged rfl rfl) _
          · simp only [Session.conclude, apply, frontNext, wholeNext]
            exact queued.inStep logged (.ok reply)

theorem Backed.run
    (backed : front.Backed behind whole)
    (host : Host)
    (line : String) :
    InStep behind front whole (front.run host line) (whole.run host line) := by
  have played := backed.play fun event logged =>
    ((front.scope.within_interpret host line).logged event logged).unaware
  cases frontPlayed : front.play (front.scope.interpret host line).acts with
  | mk frontState outcome =>
      rw [frontPlayed] at played
      have sameOutcome := played.outcome
      dsimp only at sameOutcome
      have wholePlayed :
          whole.play (whole.scope.interpret host line).acts =
            ⟨(whole.play (front.scope.interpret host line).acts).state, outcome⟩ := by
        rw [backed.scope, ← sameOutcome]
      cases outcome with
      | ok _ =>
          rw [run_of_played frontPlayed, run_of_played wholePlayed, backed.scope]
          exact ((played.backed (by simp)).conclude _).after played.logged
      | error fault =>
          rw [run_of_stopped frontPlayed, run_of_stopped wholePlayed]
          exact played.of_error rfl

theorem Backed.runNext
    (backed : front.Backed behind whole)
    (host : Host)
    (busy : front.queue.lines ≠ []) :
    InStep behind front whole (front.runNext host) (whole.runNext host) := by
  obtain ⟨line, rest, waiting⟩ := List.exists_cons_of_ne_nil busy
  obtain ⟨frontPopped, wholePopped, taken⟩ := backed.pop waiting
  simp only [Session.runNext, frontPopped, wholePopped]
  have running : (Event.running line).Unaware :=
    trivial
  have logged : LoggedAlike behind.length front whole
      (({ front with queue := front.queue.tail }).record (.running line))
      (({ whole with queue := whole.queue.tail }).record (.running line)) :=
    loggedAlike_record_of_unaware _ _ _ running
  exact ((taken.record _ _).run host line).after logged

end Lockstep

end Session

namespace Shell

open Session

/-- A pending line that was run, and what the run came to. -/
structure Execution where
  line : String
  outcome : Except Fault Reply
  deriving Repr, DecidableEq

/-- What a turn of the loop runs: nothing if no line is pending or a poll stops the turn first. -/
def execution? (shell : Shell) (host : Host) : Option Execution :=
  match shell.session.poll.outcome with
  | .ok () =>
      shell.session.queue.lines.head?.map fun line =>
        ⟨line, (pollAndRun shell.session host).outcome⟩
  | .error _ =>
      none

/-- The loop after a count of turns, whatever each of them comes to. -/
def after (shell : Shell) (host : Host) : Nat → Shell
  | 0 =>
      shell
  | turns + 1 =>
      ((shell.after host turns).step host).state

/--
The same turn of two loops of which the second has lines behind all pending
ones: it runs the same line to the same outcome, and the lines behind stay
there unless the turn is stopped.
-/
structure TurnsAlike
    (behind : List String)
    (host : Host)
    (front whole : Shell) :
    Prop where
  executed : whole.execution? host = front.execution? host
  result : (pollAndRun whole.session host).outcome = (pollAndRun front.session host).outcome
  outcome : (whole.step host).outcome = (front.step host).outcome
  alike : (front.step host).state.session.Alike (whole.step host).state.session
  logged :
    LoggedAlike behind.length front.session whole.session
      (front.step host).state.session (whole.step host).state.session
  pending :
    (whole.step host).state.session.queue.lines =
        (front.step host).state.session.queue.lines ++ behind ∨
      ((pollAndRun front.session host).outcome = .error .stopped ∧
        (front.step host).state.session.queue.lines = [] ∧
        (whole.step host).state.session.queue.lines = [])

/-- While a line is pending, a turn runs it. -/
theorem step_of_busy
    {shell : Shell}
    (busy : shell.session.queue.lines ≠ [])
    (host : Host) :
    shell.step host = shell.runPending host := by
  have waiting : shell.session.queue.isEmpty = false := by
    simpa [Queue.isEmpty] using busy
  rw [step, waiting]
  rfl

/-- The session after a run: a fault that the loop handles is logged, and the loop goes on. -/
def settled (ran : Attempt Session Reply) : Attempt Session Bool :=
  match ran.outcome with
  | .ok _ =>
      ⟨ran.state, .ok true⟩
  | .error fault =>
      if fault.isHandled then
        ⟨ran.state.record (.failure fault), .ok true⟩
      else
        ⟨ran.state, .error fault⟩

theorem runPending_eq (shell : Shell) (host : Host) :
    shell.runPending host =
      ⟨{ shell with session := (settled (pollAndRun shell.session host)).state },
        (settled (pollAndRun shell.session host)).outcome⟩ := by
  cases result : (pollAndRun shell.session host).outcome with
  | ok reply =>
      simp only [runPending, settled, result]
  | error fault =>
      simp only [runPending, settled, result]
      split <;> rfl

theorem exists_log_settled (ran : Attempt Session Reply) :
    ∃ log, (settled ran).state = { ran.state with log := log } := by
  unfold settled
  split
  · exact ⟨_, rfl⟩
  · split <;> exact ⟨_, rfl⟩

/-- The loop changes nothing but the log behind a run. -/
theorem kept_settled (ran : Attempt Session Reply) : ran.state.Kept (settled ran).state := by
  obtain ⟨log, after⟩ := exists_log_settled ran
  rw [after]
  exact ⟨rfl, rfl, rfl, rfl, rfl⟩

section Lockstep

variable {behind : List String}

theorem inStep_pollAndRun
    {front whole : Session}
    (backed : front.Backed behind whole)
    (host : Host)
    (busy : front.queue.lines ≠ []) :
    InStep behind front whole (pollAndRun front host) (pollAndRun whole host) := by
  have polled := backed.poll
  have sameOutcome := polled.outcome
  unfold pollAndRun
  dsimp only
  rcases front.poll_cases with ⟨found, kept⟩ | ⟨stopped, _⟩
  · rw [found] at sameOutcome
    rw [found, sameOutcome]
    have busyStill : front.poll.state.queue.lines ≠ [] := by
      rwa [kept.queue]
    have goesOn := polled.backed (by rw [found]; simp)
    exact (goesOn.runNext host busyStill).after polled.logged
  · rw [stopped] at sameOutcome
    rw [stopped, sameOutcome]
    exact polled.of_error stopped

theorem loggedAlike_settled
    {front whole : Session}
    {frontRan wholeRan : Attempt Session Reply}
    (ran : InStep behind front whole frontRan wholeRan) :
    LoggedAlike behind.length front whole (settled frontRan).state (settled wholeRan).state := by
  unfold settled
  rw [ran.outcome]
  split
  · exact ran.logged
  · next fault _ =>
      have failure : (Event.failure fault).Unaware :=
        trivial
      split
      · exact ran.logged.trans (loggedAlike_record_of_unaware _ _ _ failure)
      · exact ran.logged

/-- A turn that runs a pending line does not depend on the lines behind it. -/
theorem turnsAlike_of_busy
    {front whole : Shell}
    (backed : front.session.Backed behind whole.session)
    (busy : front.session.queue.lines ≠ [])
    (host : Host) :
    TurnsAlike behind host front whole := by
  have wholeBusy : whole.session.queue.lines ≠ [] := by
    rw [backed.pending]
    exact List.append_ne_nil_of_left_ne_nil busy behind
  have ran := inStep_pollAndRun backed host busy
  have logged := loggedAlike_settled ran
  have sameGoing :
      (settled (pollAndRun whole.session host)).outcome =
        (settled (pollAndRun front.session host)).outcome := by
    simp only [settled, ran.outcome]
    split
    · rfl
    · split <;> rfl
  have executed : whole.execution? host = front.execution? host := by
    obtain ⟨line, rest, waiting⟩ := List.exists_cons_of_ne_nil busy
    rw [execution?, execution?, backed.pending, waiting, backed.poll.outcome, ran.outcome]
    rfl
  have frontStep := (step_of_busy busy host).trans (front.runPending_eq host)
  have wholeStep := (step_of_busy wholeBusy host).trans (whole.runPending_eq host)
  obtain ⟨frontLog, frontState⟩ := exists_log_settled (pollAndRun front.session host)
  obtain ⟨wholeLog, wholeState⟩ := exists_log_settled (pollAndRun whole.session host)
  rw [frontState] at logged frontStep
  rw [wholeState] at logged wholeStep
  obtain ⟨sameResult, ⟨limit, registry, store, stop, alarm, exits⟩, _, pending⟩ := ran
  refine ⟨executed, sameResult, ?_, ?_, ?_, ?_⟩
  · rw [frontStep, wholeStep]
    exact sameGoing
  · rw [frontStep, wholeStep]
    exact ⟨limit, registry, store, stop, alarm, exits⟩
  · rw [frontStep, wholeStep]
    exact logged
  · rw [frontStep, wholeStep]
    exact pending

/-- As long as the loop in front has lines pending, those behind stay behind them. -/
theorem backed_after
    {front whole : Shell}
    {host : Host}
    (backed : front.session.Backed behind whole.session)
    {turns : Nat}
    (busy : ∀ turn < turns, (front.after host turn).session.queue.lines ≠ [])
    {turn : Nat}
    (inside : turn < turns) :
    (front.after host turn).session.Backed behind (whole.after host turn).session := by
  induction turn with
  | zero =>
      exact backed
  | succ turn inductionHypothesis =>
      have earlier : turn < turns := Nat.lt_of_succ_lt inside
      have turned := turnsAlike_of_busy (inductionHypothesis earlier) (busy turn earlier) host
      rcases turned.pending with pending | ⟨_, noLines, _⟩
      · exact ⟨turned.alike, pending⟩
      · exact absurd noLines (busy (turn + 1) inside)

/--
Lines behind all pending ones never influence those in front of them. As long
as a loop without them has lines pending, both loops take the same turns, and
the lines behind stay as they are unless a stop discards all lines. So when
the loop without them has none left and no turn was stopped, the other has
exactly the lines behind left.
-/
theorem lines_behind_wait
    {front whole : Shell}
    {host : Host}
    (backed : front.session.Backed behind whole.session)
    {turns : Nat}
    (busy : ∀ turn < turns, (front.after host turn).session.queue.lines ≠ []) :
    (∀ turn < turns, TurnsAlike behind host (front.after host turn) (whole.after host turn)) ∧
      ((∀ turn < turns,
          (pollAndRun (front.after host turn).session host).outcome ≠ .error .stopped) →
        (front.after host turns).session.queue.lines = [] →
          (whole.after host turns).session.queue.lines = behind) := by
  have alike (turn : Nat) (inside : turn < turns) :
      TurnsAlike behind host (front.after host turn) (whole.after host turn) :=
    turnsAlike_of_busy (backed_after backed busy inside) (busy turn inside) host
  refine ⟨alike, ?_⟩
  intro neverStopped done
  have pending :
      (whole.after host turns).session.queue.lines =
        (front.after host turns).session.queue.lines ++ behind := by
    cases turns with
    | zero =>
        exact backed.pending
    | succ turns =>
        rcases (alike turns (Nat.lt_succ_self turns)).pending with pending | ⟨stopped, _⟩
        · exact pending
        · exact absurd stopped (neverStopped turns (Nat.lt_succ_self turns))
  rw [pending, done, List.nil_append]

/-- A line that queues two others and both of these are run before the line behind them. -/
theorem queued_lines_run_before_those_behind :
    let host : Host := ⟨fun path => .error (.system (.missing path.text)), "1.0.0", 0, true⟩
    let push : Command :=
      { name := "PUSH", parameters := [{ name := "first" }, { name := "second" }]
        action := .extension .queue }
    let session : Session :=
      { ((offeringBuiltins 32 256).registerAll [push]).state with
        queue := ⟨256, ["PUSH \"SET a 1\" \"GET a\""], by decide⟩ }
    let front : Shell := ⟨session, "> ", [], #[]⟩
    let whole : Shell :=
      ⟨{ session with queue := ⟨256, session.queue.lines ++ ["VERSION"], by decide⟩ },
        "> ", [], #[]⟩
    (front.after host 1).session.queue.lines = ["SET a 1", "GET a"] ∧
      (whole.after host 2).execution? host = some ⟨"GET a", .ok (.valueShown "a" "1")⟩ ∧
      (whole.after host 3).session.queue.lines = ["VERSION"] := by
  intro host push session front whole
  have backed : front.session.Backed ["VERSION"] whole.session :=
    backed_of_queue rfl rfl
  have evaluated :
      (∀ turn < 3, (front.after host turn).session.queue.lines ≠ []) ∧
        (∀ turn < 3,
          (pollAndRun (front.after host turn).session host).outcome ≠ .error .stopped) ∧
        (front.after host 1).session.queue.lines = ["SET a 1", "GET a"] ∧
        (front.after host 2).execution? host = some ⟨"GET a", .ok (.valueShown "a" "1")⟩ ∧
        (front.after host 3).session.queue.lines = [] := by
    decide +kernel
  obtain ⟨busy, neverStopped, queued, executed, done⟩ := evaluated
  obtain ⟨alike, left⟩ := lines_behind_wait backed busy
  exact ⟨queued, (alike 2 (by decide)).executed.trans executed, left neverStopped done⟩

end Lockstep

end Shell

end CommandConsole
