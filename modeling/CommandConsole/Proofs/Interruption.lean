import CommandConsole.Proofs.Logging

namespace CommandConsole

/-!
# Stops between the turns of the loop

A stop may arrive at the start of any turn. Where lines are pending, the turn
discards all of them and does nothing else, and nothing later depends on what
they were. Where none is pending, the stop is forgotten before the next line is
queued, so it makes no difference whether the flag is raised there.
-/

namespace Session

variable {session : Session}

/-- A poll that finds the flag raised discards all pending lines. -/
theorem poll_of_raised (raised : session.stop = .raised) :
    session.poll =
      ⟨({ session with alarm := session.advanceAlarm.alarm, stop := .lowered }).discardPending,
        .error .stopped⟩ := by
  obtain ⟨registry, queue, store, stop, alarm, exits, log⟩ := session
  obtain rfl : stop = .raised := raised
  rcases alarm with _ | _ | polls <;> rfl

/-- A poll that goes on has found the flag lowered. -/
theorem lowered_of_poll (goesOn : session.poll.outcome = .ok ()) : session.stop = .lowered := by
  cases flag : session.stop with
  | mk requested =>
      cases requested with
      | true =>
          rw [poll_of_raised flag] at goesOn
          exact nomatch goesOn
      | false =>
          rfl

end Session

namespace Shell

open Session

/-- What is seen of one turn of the loop. -/
structure TurnRecord where
  /-- The line that the turn runs, with what it comes to. -/
  execution : Option Execution
  outcome : Except Fault Bool
  store : Variables
  exits : List Int
  /-- The prompts that the turn shows. -/
  prompts : List String
  /-- The events that the turn logs. -/
  logged : List Event
  deriving Repr, DecidableEq

/-- The record of the next turn. -/
def turnRecord (shell : Shell) (host : Host) : TurnRecord where
  execution :=
    shell.execution? host
  outcome :=
    (shell.step host).outcome
  store :=
    (shell.step host).state.session.store
  exits :=
    (shell.step host).state.session.exits
  prompts :=
    (shell.step host).state.prompts.toList.drop shell.prompts.size
  logged :=
    (shell.step host).state.session.log.toList.drop shell.session.log.size

/-- The loop at the start of a turn, where a stop may arrive. -/
def arrive (shell : Shell) (arrives : Bool) : Shell :=
  if arrives then { shell with session := shell.session.requestStop } else shell

/-- Lower the stop flag if no line is pending. -/
def dismissIdle (shell : Shell) : Shell :=
  if shell.session.queue.isEmpty then
    { shell with session := shell.session.dismissStop }
  else
    shell

/-- The loop after turns at the start of each of which a stop may arrive. -/
def afterStops (host : Host) : List Bool → Shell → Shell
  | [], shell =>
      shell
  | arrives :: arrivals, shell =>
      afterStops host arrivals ((shell.arrive arrives).step host).state

/-- The records of turns each of which starts from what is made of the loop before it. -/
def records (host : Host) (start : Bool → Shell → Shell) : List Bool → Shell → List TurnRecord
  | [], _ =>
      []
  | arrives :: arrivals, shell =>
      (start arrives shell).turnRecord host ::
        records host start arrivals ((start arrives shell).step host).state

section Turn

variable {shell : Shell} {host : Host}

/-- The record of a turn holds just what is added in the turn. -/
theorem turnRecord_of_added
    {prompts : List String}
    {events : List Event}
    (shows : (shell.step host).state.prompts = shell.prompts ++ prompts.toArray)
    (logs : (shell.step host).state.session.log = shell.session.log ++ events.toArray) :
    shell.turnRecord host =
      ⟨shell.execution? host, (shell.step host).outcome,
        (shell.step host).state.session.store, (shell.step host).state.session.exits,
        prompts, events⟩ := by
  simp [turnRecord, shows, logs]

/-- A turn that runs a pending line reads no input and shows no prompt. -/
theorem step_of_busy_reads_nothing
    (busy : shell.session.queue.lines ≠ [])
    (host : Host) :
    (shell.step host).state.input = shell.input ∧
      (shell.step host).state.prompts = shell.prompts ∧
      (shell.step host).state.prompt = shell.prompt := by
  rw [step_of_busy busy, runPending_eq]
  exact ⟨rfl, rfl, rfl⟩

/-- A turn that starts with the flag raised discards the pending lines and does nothing else. -/
theorem step_of_raised
    (raised : shell.session.stop = .raised)
    (busy : shell.session.queue.lines ≠ []) :
    shell.step host =
      ⟨{ shell with
          session := (({ shell.session with
            alarm := shell.session.advanceAlarm.alarm
            stop := .lowered }).discardPending).record (.failure .stopped) }, .ok true⟩ := by
  have polled : pollAndRun shell.session host =
      ⟨({ shell.session with
          alarm := shell.session.advanceAlarm.alarm
          stop := .lowered }).discardPending, .error .stopped⟩ := by
    simp only [pollAndRun, poll_of_raised raised]
  rw [step_of_busy busy, runPending_eq, polled]
  rfl

theorem execution?_of_raised (raised : shell.session.stop = .raised) :
    shell.execution? host = none := by
  simp only [execution?, poll_of_raised raised]

/-- A line that is run has been the first one pending, and the poll before it found no stop. -/
theorem polled_of_execution
    {execution : Execution}
    (runs : shell.execution? host = some execution) :
    shell.session.poll.outcome = .ok () ∧ shell.session.stop = .lowered ∧
      shell.session.queue.lines.head? = some execution.line := by
  cases polled : shell.session.poll.outcome with
  | error fault =>
      simp [execution?, polled] at runs
  | ok found =>
      refine ⟨rfl, lowered_of_poll polled, ?_⟩
      simp only [execution?, polled, Option.map_eq_some_iff] at runs
      obtain ⟨line, first, rfl⟩ := runs
      exact first

/-- A turn shows the prompt if no line is pending. -/
theorem prompts_step_of_idle
    (idle : shell.session.queue.lines = [])
    (host : Host) :
    (shell.step host).state.prompts = shell.prompts ++ [shell.prompt].toArray := by
  rw [step_of_idle idle, readLine]
  split <;> simp

theorem exists_prompts_step (shell : Shell) (host : Host) :
    ∃ shown : List String, (shell.step host).state.prompts = shell.prompts ++ shown.toArray := by
  by_cases idle : shell.session.queue.lines = []
  · exact ⟨[shell.prompt], prompts_step_of_idle idle host⟩
  · exact ⟨[], by simp [(step_of_busy_reads_nothing idle host).2.1]⟩

end Turn

/--
Two loops whose further turns are the same. They may differ in what they have
logged and shown, and in the stop flag where no line is pending.
-/
structure Akin (first second : Shell) : Prop where
  prompt : second.prompt = first.prompt
  input : second.input = first.input
  limit : second.session.queue.limit = first.session.queue.limit
  lines : second.session.queue.lines = first.session.queue.lines
  registry : second.session.registry = first.session.registry
  store : second.session.store = first.session.store
  alarm : second.session.alarm = first.session.alarm
  exits : second.session.exits = first.session.exits
  stop : first.session.queue.lines ≠ [] → second.session.stop = first.session.stop

namespace Akin

variable {first second : Shell}

theorem refl (shell : Shell) : Akin shell shell :=
  ⟨rfl, rfl, rfl, rfl, rfl, rfl, rfl, rfl, fun _ => rfl⟩

/-- A stop that arrives at both loops leaves them akin. -/
theorem arrive (akin : Akin first second) (arrives : Bool) :
    Akin (first.arrive arrives) (second.arrive arrives) := by
  cases arrives with
  | true =>
      exact { akin with stop := fun _ => rfl }
  | false =>
      exact akin

/-- Lowering the flag where no line is pending leaves a loop akin to the other. -/
theorem dismissIdle (akin : Akin first second) : Akin first second.dismissIdle := by
  unfold Shell.dismissIdle
  split
  · next empty =>
      have idle : first.session.queue.lines = [] := by
        rw [← akin.lines]
        simpa [Queue.isEmpty] using empty
      exact { akin with stop := fun busy => absurd idle busy }
  · exact akin

/-- Where lines are pending, the loops have no line behind those of each other. -/
theorem backed
    (akin : Akin first second)
    (busy : first.session.queue.lines ≠ []) :
    first.session.Backed [] second.session :=
  ⟨⟨akin.limit, akin.registry, akin.store, akin.stop busy, akin.alarm, akin.exits⟩,
    by simp [akin.lines]⟩

/-- Both loops read the same line, and it does not matter whether a stop was requested before. -/
theorem accept
    (akin : Akin first second)
    (line : TypedLine)
    (input : List TypedLine) :
    Akin
        { first with
          session := Shell.accept first.session line
          input := input
          prompts := first.prompts.push first.prompt }
        { second with
          session := Shell.accept second.session line
          input := input
          prompts := second.prompts.push second.prompt } ∧
      LoggedAlike 0 first.session second.session
        (Shell.accept first.session line) (Shell.accept second.session line) := by
  by_cases short : (line.text.length : Int) ≤ first.session.queue.limit
  · obtain ⟨firstQueue, firstAccepts, firstLimit, firstLines⟩ := exists_accept_of_short short
    rw [← akin.limit] at short
    obtain ⟨secondQueue, secondAccepts, secondLimit, secondLines⟩ := exists_accept_of_short short
    rw [firstAccepts, secondAccepts]
    refine ⟨⟨akin.prompt, rfl, ?_, ?_, akin.registry, akin.store, akin.alarm, akin.exits,
      fun _ => rfl⟩, loggedAlike_of_same_logs rfl rfl⟩
    · exact secondLimit.trans (akin.limit.trans firstLimit.symm)
    · simp [firstLines, secondLines, akin.lines]
  · have tooLong : first.session.queue.limit < line.text.length :=
      Int.not_le.mp short
    rw [accept_of_long tooLong]
    rw [← akin.limit] at tooLong
    rw [accept_of_long tooLong, akin.limit]
    exact ⟨⟨akin.prompt, rfl, akin.limit, akin.lines, akin.registry, akin.store, akin.alarm,
      akin.exits, fun _ => rfl⟩, loggedAlike_record 0 _ _ (.failure _)⟩

/-- Turns that do and add the same have the same record. -/
theorem turnRecord_eq
    {host : Host}
    (executed : second.execution? host = first.execution? host)
    (outcome : (second.step host).outcome = (first.step host).outcome)
    (after : Akin (first.step host).state (second.step host).state)
    (shows : ∃ shown : List String,
      (first.step host).state.prompts = first.prompts ++ shown.toArray ∧
        (second.step host).state.prompts = second.prompts ++ shown.toArray)
    (logs : LoggedAlike 0 first.session second.session
      (first.step host).state.session (second.step host).state.session) :
    second.turnRecord host = first.turnRecord host := by
  obtain ⟨shown, firstShows, secondShows⟩ := shows
  obtain ⟨events, firstLogs, secondLogs⟩ := logs
  rw [List.map_congr_left fun event _ => event.withBehind_zero, List.map_id'] at secondLogs
  rw [turnRecord_of_added firstShows firstLogs, turnRecord_of_added secondShows secondLogs,
    executed, outcome, after.store, after.exits]

/-- A turn that runs a pending line is the same in both loops. -/
theorem step_of_busy
    (akin : Akin first second)
    (busy : first.session.queue.lines ≠ [])
    (host : Host) :
    second.turnRecord host = first.turnRecord host ∧
      Akin (first.step host).state (second.step host).state := by
  have secondBusy : second.session.queue.lines ≠ [] := by
    rwa [akin.lines]
  obtain ⟨executed, _, outcome, alike, logs, pending⟩ :=
    turnsAlike_of_busy (akin.backed busy) busy host
  obtain ⟨firstInput, firstPrompts, firstPrompt⟩ := step_of_busy_reads_nothing busy host
  obtain ⟨secondInput, secondPrompts, secondPrompt⟩ :=
    step_of_busy_reads_nothing secondBusy host
  have lines : (second.step host).state.session.queue.lines =
      (first.step host).state.session.queue.lines := by
    rcases pending with pending | ⟨_, firstEmpty, secondEmpty⟩
    · rwa [List.append_nil] at pending
    · rw [firstEmpty, secondEmpty]
  have after : Akin (first.step host).state (second.step host).state :=
    { prompt := by rw [firstPrompt, secondPrompt, akin.prompt]
      input := by rw [firstInput, secondInput, akin.input]
      limit := alike.limit
      lines := lines
      registry := alike.registry
      store := alike.store
      alarm := alike.alarm
      exits := alike.exits
      stop := fun _ => alike.stop }
  exact ⟨turnRecord_eq executed outcome after
    ⟨[], by simp [firstPrompts], by simp [secondPrompts]⟩ logs, after⟩

/-- A turn that reads a line, or meets the end of the input, is the same in both loops. -/
theorem step_of_idle
    (akin : Akin first second)
    (idle : first.session.queue.lines = [])
    (host : Host) :
    second.turnRecord host = first.turnRecord host ∧
      Akin (first.step host).state (second.step host).state := by
  have secondIdle : second.session.queue.lines = [] := by
    rw [akin.lines, idle]
  have executed : second.execution? host = first.execution? host := by
    rw [execution?_of_idle idle, execution?_of_idle secondIdle]
  have secondShows := prompts_step_of_idle secondIdle host
  rw [akin.prompt] at secondShows
  suffices turned :
      (second.step host).outcome = (first.step host).outcome ∧
        Akin (first.step host).state (second.step host).state ∧
        LoggedAlike 0 first.session second.session
          (first.step host).state.session (second.step host).state.session by
    obtain ⟨outcome, after, logs⟩ := turned
    exact ⟨turnRecord_eq executed outcome after
      ⟨[first.prompt], prompts_step_of_idle idle host, secondShows⟩ logs, after⟩
  have sameInput := akin.input
  cases next : first.input with
  | nil =>
      rw [next] at sameInput
      rw [step_of_closed idle next, step_of_closed secondIdle sameInput]
      exact ⟨rfl, { akin with }, loggedAlike_of_same_logs rfl rfl⟩
  | cons line input =>
      rw [next] at sameInput
      rw [step_of_read idle next, step_of_read secondIdle sameInput]
      exact ⟨rfl, akin.accept line input⟩

/-- The next turns of loops that are akin have the same record and leave them akin. -/
theorem step (akin : Akin first second) (host : Host) :
    second.turnRecord host = first.turnRecord host ∧
      Akin (first.step host).state (second.step host).state := by
  by_cases idle : first.session.queue.lines = []
  · exact akin.step_of_idle idle host
  · exact akin.step_of_busy idle host

/-- Loops that are akin have the same records, if they are akin at the start of each turn. -/
theorem records_eq
    (akin : Akin first second)
    {host : Host}
    {firstStart secondStart : Bool → Shell → Shell}
    (starts : ∀ arrives {first second : Shell}, Akin first second →
      Akin (firstStart arrives first) (secondStart arrives second))
    (arrivals : List Bool) :
    records host secondStart arrivals second = records host firstStart arrivals first := by
  induction arrivals generalizing first second with
  | nil =>
      rfl
  | cons arrives arrivals inductionHypothesis =>
      obtain ⟨sameRecord, after⟩ := (starts arrives akin).step host
      rw [records, records, sameRecord, inductionHypothesis after]

end Akin

/-- What a turn makes of a stop that was requested before it, and what the later turns make of it. -/
structure HeedsStop (host : Host) (start : Shell) (later : List Bool) : Prop where
  /-- With the flag raised, the pending lines are discarded, and nothing is run or read. -/
  stopped :
    start.session.stop = .raised → start.session.queue.lines ≠ [] →
      start.turnRecord host =
          ⟨none, .ok true, start.session.store, start.session.exits, [],
            [.discarded start.session.queue.size, .failure .stopped]⟩ ∧
        (start.step host).state.input = start.input ∧
        start.session.Stopped (start.step host).state.session
  /-- What was pending then is never run: any other lines would have led to the same turns. -/
  forgotten :
    start.session.stop = .raised → start.session.queue.lines ≠ [] →
      ∀ other : Queue, other.limit = start.session.queue.limit → other.lines ≠ [] →
        let replaced : Shell := { start with session := { start.session with queue := other } }
        records host (fun arrives shell => shell.arrive arrives) later
            (replaced.step host).state =
          records host (fun arrives shell => shell.arrive arrives) later (start.step host).state
  /-- A line that is run was the first one pending, and a poll before it has found no stop. -/
  polled :
    ∀ execution, (start.turnRecord host).execution = some execution →
      start.session.poll.outcome = .ok () ∧ start.session.stop = .lowered ∧
        start.session.queue.lines.head? = some execution.line
  /-- No other line is run, as far as the log shows. -/
  running :
    (start.turnRecord host).logged.filterMap Event.runningLine? =
      ((start.turnRecord host).execution.map Execution.line).toList
  /-- All that the turn logs and shows is in its record. -/
  added :
    (start.step host).state.session.log =
        start.session.log ++ (start.turnRecord host).logged.toArray ∧
      (start.step host).state.prompts = start.prompts ++ (start.turnRecord host).prompts.toArray

section Main

variable {start : Shell} {host : Host}

/-- Lines that a stop discards do not matter to what is left of the loop. -/
theorem akin_of_discarded
    (raised : start.session.stop = .raised)
    (busy : start.session.queue.lines ≠ [])
    {other : Queue}
    (sameLimit : other.limit = start.session.queue.limit)
    (otherBusy : other.lines ≠ []) :
    Akin (start.step host).state
      (({ start with session := { start.session with queue := other } } : Shell).step
        host).state := by
  let replaced : Shell := { start with session := { start.session with queue := other } }
  have replacedRaised : replaced.session.stop = .raised :=
    raised
  have replacedBusy : replaced.session.queue.lines ≠ [] :=
    otherBusy
  have sameAlarm : replaced.session.advanceAlarm.alarm = start.session.advanceAlarm.alarm := by
    simp only [advanceAlarm, replaced]
    split <;> rfl
  rw [step_of_raised raised busy, step_of_raised replacedRaised replacedBusy]
  exact ⟨rfl, rfl, sameLimit, rfl, rfl, rfl, sameAlarm, rfl, fun _ => rfl⟩

theorem heedsStop (host : Host) (start : Shell) (later : List Bool) :
    HeedsStop host start later := by
  obtain ⟨shown, shows⟩ := start.exists_prompts_step host
  obtain ⟨events, logs, running⟩ := start.logsRunning_step host
  have record := turnRecord_of_added shows logs
  refine ⟨?_, ?_, fun _ => polled_of_execution, ?_, ?_⟩
  · intro raised busy
    have stops : start.step host = _ :=
      step_of_raised raised busy
    have logged : (start.step host).state.session.log = start.session.log ++
        [Event.discarded start.session.queue.size, .failure .stopped].toArray := by
      rw [stops]
      exact Array.ext' (by simp [discardPending, Session.record])
    have noPrompt : (start.step host).state.prompts = start.prompts ++ [].toArray := by
      rw [stops]
      simp
    rw [turnRecord_of_added noPrompt logged, execution?_of_raised raised, stops]
    exact ⟨rfl, rfl, rfl, rfl, rfl, rfl, rfl⟩
  · intro raised busy other sameLimit otherBusy
    exact (akin_of_discarded raised busy sameLimit otherBusy).records_eq
      (fun arrives _ _ akin => akin.arrive arrives) later
  · rw [record, running]
  · rw [record]
    exact ⟨logs, shows⟩

/--
A stop that arrives at the start of any turn discards all lines that are pending
there, and these are never run; a line that is run has passed a poll that found
no stop. Where no line is pending, a raised flag is harmless: with the flag
lowered at the start of each such turn, all turns are the same.
-/
theorem stops_between_turns (shell : Shell) (host : Host) (arrivals : List Bool) :
    (∀ earlier arrives later, arrivals = earlier ++ arrives :: later →
      HeedsStop host ((afterStops host earlier shell).arrive arrives) later) ∧
    records host (fun arrives shell => (shell.arrive arrives).dismissIdle) arrivals shell =
      records host (fun arrives shell => shell.arrive arrives) arrivals shell :=
  ⟨fun _ _ later _ => heedsStop host _ later,
    (Akin.refl shell).records_eq (fun arrives _ _ akin => (akin.arrive arrives).dismissIdle)
      arrivals⟩

/--
A stop drops the second of two pending lines. Two further requests, one that
arrives where no line is pending and one that a command leaves behind, drop none.
-/
theorem stop_drops_pending_line_only :
    let host : Host := ⟨fun path => .error (.system (.missing path.text)), "1.0.0", 0, true⟩
    let halt : Command := { name := "HALT", action := .extension .stop }
    let session : Session :=
      { ((offeringBuiltins 32 256).registerAll [halt]).state with
        queue := ⟨256, ["SET a 1", "SET b 2"], by decide⟩ }
    let shell : Shell := ⟨session, "> ", [{ text := "HALT" }, { text := "GET a" }], #[]⟩
    let arrivals := [false, true, true, false, false, false]
    let start := (afterStops host [false] shell).arrive true
    start.session.stop = .raised ∧ start.session.queue.lines = ["SET b 2"] ∧
      (start.turnRecord host).logged = [.discarded 1, .failure .stopped] ∧
      (start.step host).state.session.queue.lines = [] ∧
      (records host (fun arrives shell => (shell.arrive arrives).dismissIdle) arrivals
          shell).filterMap TurnRecord.execution =
        [⟨"SET a 1", .ok (.assigned "a" "1")⟩, ⟨"HALT", .ok (.performed "stop" [])⟩,
          ⟨"GET a", .ok (.valueShown "a" "1")⟩] := by
  intro host halt session shell arrivals start
  have evaluated :
      start.session.stop = .raised ∧ start.session.queue.lines = ["SET b 2"] ∧
        (records host (fun arrives shell => shell.arrive arrives) arrivals
            shell).filterMap TurnRecord.execution =
          [⟨"SET a 1", .ok (.assigned "a" "1")⟩, ⟨"HALT", .ok (.performed "stop" [])⟩,
            ⟨"GET a", .ok (.valueShown "a" "1")⟩] := by
    decide +kernel
  obtain ⟨raised, pending, executed⟩ := evaluated
  obtain ⟨heeds, dismissed⟩ := stops_between_turns shell host arrivals
  obtain ⟨recorded, _, emptied⟩ :=
    (heeds [false] true [true, false, false, false] rfl).stopped raised (by simp [start, pending])
  refine ⟨raised, pending, ?_, ?_, by rw [dismissed, executed]⟩
  · rw [recorded, Queue.size, pending]
    rfl
  · rw [emptied.queue]
    rfl

end Main

end Shell

end CommandConsole
