import CommandConsole.Command.Performance
import CommandConsole.Proofs.Playback

namespace CommandConsole

/-!
# Bounds on what lines do

The script of a line is built from few parts, and what holds of the events,
faults and values of the parts holds of the whole. Reading a line logs nothing
and fails with ordinary faults. Performing a command logs events of commands
only, which do not say how many lines are pending, and raises no fault of a
stop. Which commands can queue lines, request a stop or raise a fault that
leaves the read loop is told by their actions.
-/

/-- Polling once for each element and logging it logs all elements in order. -/
theorem Act.events_polled_and_logged
    (shown : α → Event)
    (elements : List α) :
    Act.events (elements.flatMap fun element => [.poll, .log (shown element)]) =
      elements.map shown := by
  induction elements with
  | nil =>
      rfl
  | cons element elements inductionHypothesis =>
      simp [inductionHypothesis]

theorem Act.events_replicate_poll (count : Nat) :
    Act.events (List.replicate count .poll) = [] := by
  simp [Act.events, List.filterMap_replicate, Act.event?]

/-- The event does not say how many lines are pending. -/
def Event.Unaware : Event → Prop
  | .batchQueued _ _
  | .discarded _ =>
      False
  | _ =>
      True

/-- The event is logged by a command while it runs. -/
def Event.OfCommand (event : Event) : Prop :=
  event.source = .command

theorem Event.OfCommand.unaware
    {event : Event}
    (ofCommand : event.OfCommand) :
    event.Unaware := by
  cases event with
  | batchQueued count pending
  | discarded count =>
      exact nomatch ofCommand
  | _ =>
      trivial

/-- The fault is not that of a stop, and the read loop handles it. -/
def Fault.Ordinary (fault : Fault) : Prop :=
  fault ≠ .stopped ∧ fault.isHandled = true

namespace Action

/-- Whether performing the action can queue lines. -/
def mayQueue : Action → Bool
  | .builtin .file
  | .extension .queue =>
      true
  | _ =>
      false

/-- Whether performing the action can raise a fault that leaves the read loop. -/
def mayLeave (host : Host) : Action → Bool
  | .builtin .file
  | .extension .unusableValue =>
      true
  | .builtin .exit =>
      host.exitEnds
  | _ =>
      false

/-- The action can raise the fault. -/
def Raises (action : Action) (host : Host) (fault : Fault) : Prop :=
  fault ≠ .stopped ∧ (fault.isHandled = true ∨ action.mayLeave host = true)

/-- The action can have the effect. -/
def Affects (action : Action) (effect : Effect) : Prop :=
  (effect = .requestStop → action = .extension .stop) ∧
    ∀ lines, effect = .queueAhead lines → action.mayQueue = true

variable {action : Action} {host : Host}

theorem raises_of_ordinary
    {fault : Fault}
    (ordinary : fault.Ordinary) :
    action.Raises host fault :=
  ⟨ordinary.1, .inl ordinary.2⟩

/-- Any action can have an effect that neither requests a stop nor queues lines. -/
theorem affects_of_ne
    {effect : Effect}
    (noStop : effect ≠ .requestStop)
    (noLines : ∀ lines, effect ≠ .queueAhead lines) :
    action.Affects effect :=
  ⟨fun requests => absurd requests noStop, fun lines queues => absurd queues (noLines lines)⟩

theorem affects_none : action.Affects .none :=
  affects_of_ne (by simp) (by simp)

end Action

/-- The command that the first word of a line names. -/
def Registry.named? (registry : Registry) (line : String) : Option Command :=
  (Line.words line).head?.bind fun first =>
    (registry.lookup (String.ofList first.text)).toOption

namespace Script

/-- Bounds on what a script logs if no poll stops it, and on what it comes to. -/
structure Within
    (script : Script α)
    (logs : Event → Prop)
    (faults : Fault → Prop)
    (values : α → Prop) :
    Prop where
  logged : ∀ event ∈ Act.events script.acts, logs event
  raised : ∀ fault, script.outcome = .error fault → faults fault
  yielded : ∀ value, script.outcome = .ok value → values value

variable {logs : Event → Prop} {faults : Fault → Prop} {values : α → Prop}

theorem within_pure
    {value : α}
    (meets : values value) :
    (pure value : Script α).Within logs faults values := by
  refine ⟨nofun, nofun, ?_⟩
  intro result comes
  exact Except.ok.inj comes ▸ meets

theorem within_fail
    {fault : Fault}
    (meets : faults fault) :
    (fail fault : Script α).Within logs faults values := by
  refine ⟨nofun, ?_, nofun⟩
  intro raised comes
  exact Except.error.inj comes ▸ meets

theorem within_ofExcept
    {outcome : Except Fault α}
    (raised : ∀ fault, outcome = .error fault → faults fault)
    (yielded : ∀ value, outcome = .ok value → values value) :
    (ofExcept outcome).Within logs faults values :=
  ⟨nofun, raised, yielded⟩

theorem within_perform
    {acts : List Act}
    (logged : ∀ event ∈ Act.events acts, logs event) :
    (perform acts).Within logs faults fun _ => True :=
  ⟨logged, nofun, fun _ _ => trivial⟩

theorem within_log
    {event : Event}
    (meets : logs event) :
    (log event).Within logs faults fun _ => True := by
  apply within_perform
  intro logged member
  exact List.mem_singleton.mp member ▸ meets

/-- A composition keeps to bounds that its first part keeps to, and its second for each value. -/
theorem within_bind
    {script : Script β}
    {next : β → Script α}
    {between : β → Prop}
    (first : script.Within logs faults between)
    (second : ∀ value, between value → (next value).Within logs faults values) :
    (script >>= next).Within logs faults values := by
  cases outcome : script.outcome with
  | error fault =>
      rw [bind_of_error outcome]
      refine ⟨first.logged, ?_, nofun⟩
      intro raised comes
      exact Except.error.inj comes ▸ first.raised fault outcome
  | ok value =>
      rw [bind_of_ok outcome]
      have later := second value (first.yielded value outcome)
      refine ⟨?_, later.raised, later.yielded⟩
      intro event logged
      rw [Act.events_append] at logged
      rcases List.mem_append.mp logged with early | late
      · exact first.logged event early
      · exact later.logged event late

end Script

open Script

/-- Faults and values of a script also keep to bounds that are less tight. -/
theorem Script.Within.mono
    {script : Script α}
    {logs : Event → Prop}
    {faults wider : Fault → Prop}
    {values : α → Prop}
    (within : script.Within logs faults values)
    (faultsWiden : ∀ fault, faults fault → wider fault) :
    script.Within logs wider values :=
  ⟨within.logged, fun fault comes => faultsWiden fault (within.raised fault comes), within.yielded⟩

/-- What is found is registered, and what is not is missed in an ordinary way. -/
theorem Registry.within_lookup
    (registry : Registry)
    (word : String)
    (logs : Event → Prop) :
    (ofExcept (registry.lookup word)).Within logs Fault.Ordinary
      (registry.lookup word = .ok ·) := by
  refine within_ofExcept ?_ fun _ found => found
  intro fault missed
  unfold lookup at missed
  split at missed
  · exact Except.error.inj missed ▸ ⟨by simp, rfl⟩
  · split at missed
    · exact nomatch missed
    · exact Except.error.inj missed ▸ ⟨by simp, rfl⟩

/-- A command that a line names is registered. -/
theorem Registry.mem_of_named?
    {registry : Registry}
    {line : String}
    {command : Command}
    (named : registry.named? line = some command) :
    command ∈ registry.commands := by
  obtain ⟨first, _, found⟩ := Option.bind_eq_some_iff.mp named
  cases looked : registry.lookup (String.ofList first.text) with
  | error fault =>
      rw [looked] at found
      exact nomatch found
  | ok other =>
      rw [looked] at found
      obtain rfl := Option.some.inj found
      exact (mem_of_lookup looked).1

theorem Variables.within_get
    (store : Variables)
    (key : String)
    (logs : Event → Prop) :
    (ofExcept (store.get key)).Within logs Fault.Ordinary fun _ => True := by
  refine within_ofExcept ?_ fun _ _ => trivial
  intro fault missed
  unfold get at missed
  split at missed
  · exact nomatch missed
  · exact Except.error.inj missed ▸ ⟨by simp, rfl⟩

namespace Invocation

theorem within_bindParameters
    (store : Variables)
    (commandName : String)
    (parameters : List Parameter)
    (words : List Line.Word) :
    (bindParameters store commandName parameters words).Within
      (fun _ => False) Fault.Ordinary (fun _ => True) := by
  induction parameters generalizing words with
  | nil =>
      exact within_pure trivial
  | cons parameter parameters inductionHypothesis =>
      cases words with
      | nil =>
          unfold bindParameters
          split
          · exact within_bind (inductionHypothesis _) fun _ _ => within_pure trivial
          · exact within_fail ⟨by simp, rfl⟩
      | cons word following =>
          have read : (readArgument store parameter word following).Within
              (fun _ => False) Fault.Ordinary (fun _ => True) := by
            unfold readArgument
            dsimp only
            split
            · refine ⟨?_, nofun, fun _ _ => trivial⟩
              simp [Act.events_replicate_poll]
            · exact within_pure trivial
          exact within_bind read fun _ _ =>
            within_bind (inductionHypothesis _) fun _ _ => within_pure trivial

/-- Finding the invocation in a line logs nothing, and its command is the one that the line names. -/
theorem within_ofLine?
    (registry : Registry)
    (store : Variables)
    (line : String) :
    (ofLine? registry store line).Within (fun _ => False) Fault.Ordinary
      fun found => ∀ invocation ∈ found, registry.named? line = some invocation.command := by
  unfold ofLine?
  split
  · exact within_pure (by simp)
  · next first following shape =>
      have words : (ofWords registry store first following).Within (fun _ => False) Fault.Ordinary
          fun invocation => registry.named? line = some invocation.command := by
        refine within_bind (registry.within_lookup _ _) fun command found => ?_
        refine within_bind (within_bindParameters _ _ _ _) fun bound _ => ?_
        obtain ⟨arguments, left⟩ := bound
        cases left with
        | nil =>
            exact within_pure (by simp [Registry.named?, shape, found, Except.toOption])
        | cons word rest =>
            exact within_fail ⟨by simp, rfl⟩
      rw [map_eq_pure_bind]
      exact within_bind words fun _ named => within_pure (by simpa using named)

end Invocation

theorem Host.read_ne_stopped
    {host : Host}
    {path : FileSystem.Path}
    {fault : Fault}
    (refused : host.read path = .error fault) :
    fault ≠ .stopped := by
  rintro rfl
  unfold read at refused
  split at refused <;> cases refused

/-- The obstacle that ends the reading of a file is handled by the read loop. -/
theorem Builtin.ordinary_of_queueContent
    {path : String}
    {content : FileSystem.Content}
    {fault : Fault}
    (refused : queueContent path content = .error fault) :
    fault.Ordinary := by
  unfold queueContent at refused
  split at refused
  · obtain rfl := Except.error.inj refused
    exact ⟨by simp, rfl⟩
  · obtain rfl := Except.error.inj refused
    exact ⟨by simp, rfl⟩
  · cases refused

theorem within_polled_and_logged
    {shown : α → Event}
    {faults : Fault → Prop}
    (ofCommand : ∀ element, (shown element).OfCommand)
    (elements : List α) :
    (perform (elements.flatMap fun element => [.poll, .log (shown element)])).Within
      Event.OfCommand faults fun _ => True := by
  apply within_perform
  intro event logged
  rw [Act.events_polled_and_logged] at logged
  obtain ⟨element, _, rfl⟩ := List.mem_map.mp logged
  exact ofCommand element

theorem Builtin.within_perform
    (command : Builtin)
    (scope : Scope)
    (host : Host)
    (arguments : List String) :
    (command.perform scope host arguments).Within Event.OfCommand
      ((Action.builtin command).Raises host)
      fun completion => (Action.builtin command).Affects completion.effect := by
  cases command with
  | help =>
      simp only [perform, performHelp]
      split
      · exact within_bind (within_polled_and_logged (fun _ => by rfl) _)
          fun _ _ => within_pure Action.affects_none
      · refine within_bind ((scope.registry.within_lookup _ _).mono fun _ => ?_) fun _ _ =>
          within_bind (within_log rfl) fun _ _ => within_pure Action.affects_none
        exact Action.raises_of_ordinary
  | get =>
      refine within_bind ((scope.store.within_get _ _).mono fun _ => ?_) fun _ _ =>
        within_bind (within_log rfl) fun _ _ => within_pure Action.affects_none
      exact Action.raises_of_ordinary
  | listVariables =>
      exact within_bind (within_polled_and_logged (fun _ => by rfl) _)
        fun _ _ => within_pure Action.affects_none
  | file =>
      refine within_bind (within_ofExcept ?_ fun _ _ => trivial) fun readout _ =>
        within_bind (within_polled_and_logged (fun _ => by rfl) _) fun _ _ => ?_
      · intro fault refused
        exact ⟨host.read_ne_stopped refused, .inr rfl⟩
      · refine within_ofExcept ?_ ?_
        · intro fault refused
          exact Action.raises_of_ordinary (ordinary_of_queueContent refused)
        · intro completion queued
          obtain rfl := eq_of_queueContent queued
          exact ⟨by simp, fun _ _ => rfl⟩
  | exit =>
      refine within_bind (within_log rfl) fun _ _ => ?_
      split
      · next ends =>
          exact within_fail ⟨by simp, .inr ends⟩
      · exact within_pure (Action.affects_of_ne (by simp) (by simp))
  | version =>
      exact within_bind (within_log rfl) fun _ _ => within_pure Action.affects_none
  | set =>
      exact within_bind (within_log rfl) fun _ _ =>
        within_pure (Action.affects_of_ne (by simp) (by simp))

theorem Extension.within_perform
    (extension : Extension)
    (commandName : String)
    (arguments : List String)
    (host : Host) :
    (extension.perform commandName arguments).Within Event.OfCommand
      ((Action.extension extension).Raises host)
      fun completion => (Action.extension extension).Affects completion.effect := by
  cases extension with
  | check =>
      have polled : (polls 1).Within Event.OfCommand ((Action.extension .check).Raises host)
          fun _ => True :=
        Script.within_perform (by simp)
      exact within_bind polled fun _ _ => within_pure Action.affects_none
  | echo =>
      exact within_pure Action.affects_none
  | stop =>
      exact within_pure ⟨fun _ => rfl, nofun⟩
  | queue =>
      exact within_pure ⟨nofun, fun _ _ => rfl⟩
  | fail
  | systemFault =>
      exact within_fail ⟨by simp, .inl rfl⟩
  | unusableValue =>
      exact within_fail ⟨by simp, .inr rfl⟩
  | reject =>
      refine within_fail ?_
      split <;> exact ⟨by simp, .inl rfl⟩

theorem Invocation.within_perform
    (invocation : Invocation)
    (scope : Scope)
    (host : Host) :
    (invocation.perform scope host).Within Event.OfCommand
      (invocation.command.action.Raises host)
      fun completion => invocation.command.action.Affects completion.effect := by
  unfold perform
  split
  · next command action =>
      rw [action]
      exact command.within_perform scope host invocation.arguments
  · next extension action =>
      rw [action]
      exact extension.within_perform invocation.command.name invocation.arguments host

/--
A line logs events of commands only while its acts are played, and what it
raises and what it has as its effect is up to the command that it names.
-/
theorem Scope.within_interpret
    (scope : Scope)
    (host : Host)
    (line : String) :
    (scope.interpret host line).Within Event.OfCommand
      (fun fault => fault.Ordinary ∨
        ∃ command, scope.registry.named? line = some command ∧ command.action.Raises host fault)
      fun completion => completion.effect = .none ∨
        ∃ command, scope.registry.named? line = some command ∧
          command.action.Affects completion.effect := by
  obtain ⟨silent, raised, yielded⟩ := Invocation.within_ofLine? scope.registry scope.store line
  refine within_bind ⟨fun event logged => (silent event logged).elim,
    fun fault comes => .inl (raised fault comes), yielded⟩ fun found named => ?_
  cases found with
  | none =>
      exact within_pure (.inl rfl)
  | some invocation =>
      have isNamed := named invocation rfl
      obtain ⟨logged, own, effects⟩ := invocation.within_perform scope host
      exact ⟨logged, fun fault comes => .inr ⟨_, isNamed, own fault comes⟩,
        fun completion comes => .inr ⟨_, isNamed, effects completion comes⟩⟩

/-- No line comes to the fault of a stop by itself. -/
theorem Scope.interpret_ne_stopped
    {scope : Scope}
    {host : Host}
    {line : String}
    {fault : Fault}
    (raised : (scope.interpret host line).outcome = .error fault) :
    fault ≠ .stopped := by
  rcases (scope.within_interpret host line).raised fault raised with ordinary | ⟨_, _, own⟩
  · exact ordinary.1
  · exact own.1

end CommandConsole
