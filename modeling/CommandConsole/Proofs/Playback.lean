import CommandConsole.Proofs.Script
import CommandConsole.Session

namespace CommandConsole

/-!
# Playing acts with and without a stop

A stop flag that is raised before one of the polls cuts a list of acts short
there. Otherwise all acts are played, and all they leave in the session is
their events in the log and the polls that the alarm has counted.
-/

/-- The event that an act logs, if it logs one. -/
def Act.event? : Act → Option Event
  | .poll =>
      none
  | .log event =>
      some event

/-- The events that acts log in order. -/
def Act.events (acts : List Act) : List Event :=
  acts.filterMap Act.event?

@[simp] theorem Act.events_nil : Act.events [] = [] :=
  rfl

@[simp] theorem Act.events_poll_cons (acts : List Act) :
    Act.events (.poll :: acts) = Act.events acts :=
  rfl

@[simp] theorem Act.events_log_cons (event : Event) (acts : List Act) :
    Act.events (.log event :: acts) = event :: Act.events acts :=
  rfl

@[simp] theorem Act.events_append (first second : List Act) :
    Act.events (first ++ second) = Act.events first ++ Act.events second :=
  List.filterMap_append

namespace Session

/-- No stop is requested, and none will be before the next polls of a given count are over. -/
structure Undisturbed (session : Session) (polls : Nat) : Prop where
  lowered : session.stop = .lowered
  alarmLater : ∀ count, session.alarm = some count → polls ≤ count

/-- Fewer polls find no request either. -/
theorem Undisturbed.mono
    {session : Session}
    {fewer polls : Nat}
    (undisturbed : session.Undisturbed polls)
    (atMost : fewer ≤ polls) :
    session.Undisturbed fewer :=
  ⟨undisturbed.lowered, fun count armed => Nat.le_trans atMost (undisturbed.alarmLater count armed)⟩

/-- The session with another count of polls after which the stop flag is raised. -/
def withAlarm (session : Session) (alarm : Option Nat) : Session :=
  { session with alarm := alarm }

/-- The session after acts that no poll has cut short. -/
def afterActs (session : Session) (acts : List Act) : Session :=
  { session with
    alarm := session.alarm.map fun count => count - acts.count .poll
    log := session.log ++ (Act.events acts).toArray }

/-- The session after a stop that let acts with the given events be played. -/
def cutShort (session : Session) (shown : List Event) : Session :=
  { session with
    queue := session.queue.clear
    stop := .lowered
    alarm := none
    log := session.log ++ shown.toArray ++ #[.discarded session.queue.size] }

/-- Without an alarm a lowered flag stays so for any count of polls. -/
theorem undisturbed_of_no_alarm
    {session : Session}
    (lowered : session.stop = .lowered)
    (noAlarm : session.alarm = none)
    (polls : Nat) :
    session.Undisturbed polls where
  lowered :=
    lowered
  alarmLater := by
    intro count armed
    rw [noAlarm] at armed
    exact nomatch armed

theorem undisturbed_withAlarm_none
    {session : Session}
    (lowered : session.stop = .lowered)
    (polls : Nat) :
    (session.withAlarm none).Undisturbed polls := by
  apply undisturbed_of_no_alarm
  · exact lowered
  · rfl

/-- A poll that finds no request counts towards the alarm and changes nothing else. -/
theorem poll_of_undisturbed
    {session : Session}
    {polls : Nat}
    (undisturbed : session.Undisturbed (polls + 1)) :
    session.poll = ⟨session.afterActs [.poll], .ok ()⟩ := by
  have lowered := undisturbed.lowered
  cases alarm : session.alarm with
  | none =>
      simp [poll, advanceAlarm, afterActs, alarm, lowered, StopFlag.consume,
        StopFlag.lowered]
      cases session
      simp_all [StopFlag.lowered]
  | some count =>
      have later := undisturbed.alarmLater count alarm
      obtain ⟨further, rfl⟩ : ∃ further, count = further + 1 :=
        ⟨count - 1, by omega⟩
      simp [poll, advanceAlarm, afterActs, alarm, lowered, StopFlag.consume,
        StopFlag.lowered]

/-- Acts use up their own polls of those for which a session is undisturbed. -/
theorem Undisturbed.afterActs
    {session : Session}
    {acts : List Act}
    {polls : Nat}
    (undisturbed : session.Undisturbed (acts.count .poll + polls)) :
    (session.afterActs acts).Undisturbed polls where
  lowered :=
    undisturbed.lowered
  alarmLater := by
    intro count armed
    simp only [Session.afterActs, Option.map_eq_some_iff] at armed
    obtain ⟨before, alarm, rfl⟩ := armed
    have later := undisturbed.alarmLater before alarm
    omega

theorem afterActs_append (session : Session) (first second : List Act) :
    session.afterActs (first ++ second) = (session.afterActs first).afterActs second := by
  simp [afterActs, Function.comp_def, Nat.sub_add_eq, Array.append_assoc]

/-- Acts are played to their end when no stop comes in between. -/
theorem play_of_undisturbed
    {session : Session}
    {acts : List Act}
    (undisturbed : session.Undisturbed (acts.count .poll)) :
    session.play acts = ⟨session.afterActs acts, .ok ()⟩ := by
  induction acts generalizing session with
  | nil =>
      simp [play, afterActs]
  | cons act rest inductionHypothesis =>
      have split := session.afterActs_append [act] rest
      rw [List.singleton_append] at split
      have later : (session.afterActs [act]).Undisturbed (rest.count .poll) := by
        apply Undisturbed.afterActs
        rwa [← List.count_append, List.singleton_append]
      cases act with
      | log event =>
          have recorded : session.record event = session.afterActs [.log event] := by
            simp [record, Session.afterActs]
          rw [play, recorded, inductionHypothesis later, split]
      | poll =>
          have polled : session.poll = ⟨session.afterActs [.poll], .ok ()⟩ := by
            rw [List.count_cons_self] at undisturbed
            exact poll_of_undisturbed undisturbed
          rw [play, polled]
          simp only
          rw [inductionHypothesis later, split]

/-- Acts with more polls than a given count hold a poll that exactly so many precede. -/
theorem exists_poll_after
    {acts : List Act}
    {polls : Nat}
    (more : polls < acts.count .poll) :
    ∃ earlier later,
      acts = earlier ++ .poll :: later ∧ earlier.count .poll = polls := by
  induction acts generalizing polls with
  | nil =>
      simp at more
  | cons act rest inductionHypothesis =>
      cases act with
      | log event =>
          obtain ⟨earlier, later, shape, count⟩ :=
            inductionHypothesis (by simpa using more)
          exact ⟨.log event :: earlier, later, by simp [shape], by simpa using count⟩
      | poll =>
          cases polls with
          | zero =>
              exact ⟨[], rest, rfl, rfl⟩
          | succ polls =>
              obtain ⟨earlier, later, shape, count⟩ :=
                inductionHypothesis (by simpa using more)
              exact ⟨.poll :: earlier, later, by simp [shape], by simp [count]⟩

theorem poll_of_due
    {session : Session}
    (due : session.alarm = some 0) :
    session.poll = ⟨session.cutShort [], .error .stopped⟩ := by
  simp [poll, advanceAlarm, due, StopFlag.consume, StopFlag.raised, cutShort,
    discardPending, record]

/-- Acts are cut short at the poll that the alarm waits for. -/
theorem play_withAlarm
    {session : Session}
    (lowered : session.stop = .lowered)
    (earlier later : List Act) :
    (session.withAlarm (some (earlier.count .poll))).play (earlier ++ .poll :: later) =
      ⟨session.cutShort (Act.events earlier), .error .stopped⟩ := by
  have undisturbed :
      (session.withAlarm (some (earlier.count .poll))).Undisturbed (earlier.count .poll) := by
    refine ⟨lowered, ?_⟩
    intro count armed
    exact Nat.le_of_eq (Option.some.inj armed)
  have due :
      ((session.withAlarm (some (earlier.count .poll))).afterActs earlier).alarm = some 0 := by
    simp [afterActs, withAlarm]
  rw [play_append, play_of_undisturbed undisturbed]
  simp only [play, poll_of_due due]
  simp [cutShort, afterActs, withAlarm]

/-- A script that no stop disturbs comes to its outcome. -/
theorem playScript_of_undisturbed
    {session : Session}
    {script : Script α}
    (undisturbed : session.Undisturbed script.pollCount) :
    session.playScript script = ⟨session.afterActs script.acts, script.outcome⟩ := by
  simp only [playScript, play_of_undisturbed undisturbed]

/-- Parsing that no stop disturbs comes to what the line says. -/
theorem outcome_parse_of_undisturbed
    {session : Session}
    {line : String}
    (undisturbed : session.Undisturbed
      (Invocation.ofLine? session.registry session.store line).pollCount) :
    (session.parse line).outcome =
      (Invocation.ofLine? session.registry session.store line).outcome := by
  rw [parse, playScript_of_undisturbed undisturbed]

/-- A batch that is accepted changes the queue and is logged. -/
theorem exists_of_enqueueBatch
    {session next : Session}
    {lines : List String}
    (accepted : session.enqueueBatch lines = .ok next) :
    ∃ queue,
      session.queue.enqueueBatch lines = .ok queue ∧
        next = { session with queue := queue }.record (.batchQueued lines.length queue.size) := by
  unfold enqueueBatch at accepted
  cases queued : session.queue.enqueueBatch lines with
  | error fault =>
      rw [queued] at accepted
      exact nomatch accepted
  | ok queue =>
      rw [queued] at accepted
      exact ⟨queue, rfl, (Except.ok.inj accepted).symm⟩

/-- Come to the end of a run whose acts are all played: apply the effect and reply. -/
def conclude (session : Session) : Except Fault Completion → Attempt Session Reply
  | .error fault =>
      ⟨session, .error fault⟩
  | .ok completion =>
      match session.apply completion.effect with
      | .error fault =>
          ⟨session, .error fault⟩
      | .ok session =>
          ⟨session, .ok completion.reply⟩

/-- A run whose acts are all played concludes with the outcome of its script. -/
theorem run_of_played
    {session played : Session}
    {host : Host}
    {line : String}
    (playing :
      session.play (session.scope.interpret host line).acts = ⟨played, .ok ()⟩) :
    session.run host line = played.conclude (session.scope.interpret host line).outcome := by
  simp only [run, playScript, playing]
  cases (session.scope.interpret host line).outcome with
  | error fault =>
      rfl
  | ok completion =>
      cases applied : played.apply completion.effect with
      | error fault =>
          simp only [conclude, applied]
      | ok next =>
          simp only [conclude, applied]

theorem run_of_stopped
    {session stopped : Session}
    {host : Host}
    {line : String}
    {fault : Fault}
    (playing :
      session.play (session.scope.interpret host line).acts = ⟨stopped, .error fault⟩) :
    session.run host line = ⟨stopped, .error fault⟩ := by
  simp only [run, playScript, playing]

/-- A run that no stop disturbs plays all its acts and concludes. -/
theorem run_of_undisturbed
    {session : Session}
    {host : Host}
    {line : String}
    (undisturbed :
      session.Undisturbed (session.scope.interpret host line).pollCount) :
    session.run host line =
      (session.afterActs (session.scope.interpret host line).acts).conclude
        (session.scope.interpret host line).outcome :=
  run_of_played (play_of_undisturbed undisturbed)

end Session

end CommandConsole
