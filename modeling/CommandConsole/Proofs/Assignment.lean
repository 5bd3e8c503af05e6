import CommandConsole.Proofs.Invocation
import CommandConsole.Proofs.Line.Enclosable
import CommandConsole.Proofs.Playback
import CommandConsole.Proofs.Variables

namespace CommandConsole

/-!
# What a run assigns

The only effect that touches the variables gives the first argument of a line
the second one as its value. Arguments are cut from the line and from values
that are stored already, and no cut brings a double quote in front of a blank.
-/

/-- No name and no value of a store has a double quote in front of a blank. -/
def Variables.Enclosable (store : Variables) : Prop :=
  ∀ entry ∈ store.entries,
    Line.Enclosable entry.1.toList ∧ Line.Enclosable entry.2.toList

theorem Variables.Enclosable.set
    {store : Variables}
    {key value : String}
    (enclosable : store.Enclosable)
    (keyEnclosable : Line.Enclosable key.toList)
    (valueEnclosable : Line.Enclosable value.toList) :
    (store.set key value).Enclosable := by
  intro entry listed
  rcases mem_entries_of_set listed with rfl | old
  · exact ⟨keyEnclosable, valueEnclosable⟩
  · exact enclosable entry old

namespace Invocation

section Arguments

variable {store : Variables} {parameter : Parameter} {parameters : List Parameter}

/-- What a parameter sees of a word is enclosable, be it the word or a stored value. -/
theorem enclosable_wordValue
    {word : Line.Word}
    (enclosable : store.Enclosable)
    (wellFormed : word.WellFormed) :
    Line.Enclosable (wordValue store parameter word) := by
  have wordEnclosable := Line.enclosable_of_no_blank wellFormed.noBlank
  unfold wordValue
  split
  · cases stored : store.get? (String.ofList word.text) with
    | none =>
        simpa [Variables.resolve, stored] using wordEnclosable
    | some value =>
        simpa [Variables.resolve, stored] using
          (enclosable _ (Variables.mem_entries_of_get? stored)).2
  · exact wordEnclosable

/-- A parameter always has an argument; it is enclosable and leaves words of the line. -/
theorem exists_enclosable_readArgument
    {word : Line.Word}
    {following : List Line.Word}
    (enclosable : store.Enclosable)
    (wellFormed : ∀ member ∈ word :: following, member.WellFormed) :
    ∃ argument rest,
      (readArgument store parameter word following).outcome = .ok (argument, rest) ∧
        Line.Enclosable argument.toList ∧
        rest <:+ following := by
  simp only [List.mem_cons, forall_eq_or_imp] at wellFormed
  have seen : Line.Enclosable (wordValue store parameter word) :=
    enclosable_wordValue enclosable wellFormed.1
  by_cases span :
      (parameter.quotable && Line.Span.opens (wordValue store parameter word)) = true
  · obtain ⟨quotable, opens⟩ := (Bool.and_eq_true _ _).mp span
    refine ⟨_, _, outcome_readArgument_of_span quotable opens following, ?_⟩
    obtain ⟨tail, quoted⟩ := Line.Span.opens_eq_true_iff.mp opens
    rw [quoted] at seen ⊢
    rw [String.toList_ofList]
    exact Line.Span.enclosable_read seen wellFormed.2
  · refine ⟨_, _, outcome_readArgument_of_word (Bool.not_eq_true _ ▸ span) following, ?_⟩
    rw [String.toList_ofList]
    exact ⟨seen, List.suffix_rfl⟩

/-- All arguments that are bound to words of a line are enclosable. -/
theorem enclosable_of_bindParameters
    {commandName : String}
    {words left : List Line.Word}
    {arguments : List String}
    (enclosable : store.Enclosable)
    (wellFormed : ∀ word ∈ words, word.WellFormed)
    (bound : (bindParameters store commandName parameters words).outcome =
      .ok (arguments, left)) :
    ∀ argument ∈ arguments, Line.Enclosable argument.toList := by
  induction parameters generalizing words arguments left with
  | nil =>
      obtain ⟨rfl, rfl⟩ := Prod.mk.inj (Except.ok.inj bound)
      simp
  | cons parameter parameters inductionHypothesis =>
      cases words with
      | nil =>
          cases optional : parameter.optional with
          | true =>
              rw [outcome_bindParameters_of_absent optional] at bound
              obtain ⟨others, behind, rfl⟩ := exists_of_map_cons bound
              have othersEnclosable := inductionHypothesis wellFormed behind
              rw [List.forall_mem_cons]
              exact ⟨.nil, othersEnclosable⟩
          | false =>
              rw [outcome_bindParameters_of_missing optional] at bound
              exact nomatch bound
      | cons word following =>
          obtain ⟨argument, rest, taken, argumentEnclosable, suffix⟩ :=
            exists_enclosable_readArgument enclosable wellFormed
          have restWellFormed : ∀ member ∈ rest, member.WellFormed :=
            fun member inRest =>
              wellFormed member (List.mem_cons_of_mem word (suffix.subset inRest))
          rw [outcome_bindParameters_of_taken taken] at bound
          obtain ⟨others, behind, rfl⟩ := exists_of_map_cons bound
          have othersEnclosable := inductionHypothesis restWellFormed behind
          rw [List.forall_mem_cons]
          exact ⟨argumentEnclosable, othersEnclosable⟩

/-- The arguments of a line are enclosable. -/
theorem enclosable_of_ofLine?
    {registry : Registry}
    {line : String}
    {invocation : Invocation}
    (enclosable : store.Enclosable)
    (found : (ofLine? registry store line).outcome = .ok (some invocation)) :
    ∀ argument ∈ invocation.arguments, Line.Enclosable argument.toList := by
  obtain ⟨first, following, shape, _, bound⟩ := exists_of_outcome_ofLine? found
  have wellFormed := Line.wellFormed_words line
  rw [shape] at wellFormed
  exact enclosable_of_bindParameters enclosable
    (fun word member => wellFormed word (List.mem_cons_of_mem first member)) bound

end Arguments

end Invocation

/-- The key and the value that an effect assigns, if it assigns any. -/
def Effect.assignment? : Effect → Option (String × String)
  | .assign key value =>
      some (key, value)
  | _ =>
      Option.none

/-- The writes of a run that has ended with an outcome. -/
def writesOf : Except Fault Reply → List (String × String)
  | .ok (.assigned key value) =>
      [(key, value)]
  | _ =>
      []

/-- What an action writes that comes to its end. -/
def Action.writes : Action → List String → List (String × String)
  | .builtin .set, arguments =>
      [(arguments.getD 0 "", arguments.getD 1 "")]
  | _, _ =>
      []

/-- Only an action that sets a variable writes, and it writes the second argument to the first. -/
theorem Action.eq_of_mem_writes
    {action : Action}
    {arguments : List String}
    {entry : String × String}
    (written : entry ∈ action.writes arguments) :
    action = .builtin .set ∧ entry = (arguments.getD 0 "", arguments.getD 1 "") := by
  unfold writes at written
  split at written
  · exact ⟨rfl, List.mem_singleton.mp written⟩
  · exact nomatch written

/-- The reply of a completion tells of the writes, and its effect makes them. -/
def Completion.Makes (completion : Completion) (writes : List (String × String)) : Prop :=
  writesOf (.ok completion.reply) = writes ∧ completion.effect.assignment?.toList = writes

theorem Builtin.makes_of_perform
    (command : Builtin)
    (scope : Scope)
    (host : Host)
    (arguments : List String) :
    (command.perform scope host arguments).Yields
      fun completion => completion.Makes ((Action.builtin command).writes arguments) := by
  cases command with
  | help =>
      simp only [perform, performHelp]
      split
      · exact Script.yields_bind fun _ _ => Script.yields_pure ⟨rfl, rfl⟩
      · exact Script.yields_bind fun _ _ =>
          Script.yields_bind fun _ _ => Script.yields_pure ⟨rfl, rfl⟩
  | get =>
      exact Script.yields_bind fun _ _ =>
        Script.yields_bind fun _ _ => Script.yields_pure ⟨rfl, rfl⟩
  | file =>
      refine Script.yields_bind fun _ _ => Script.yields_bind fun _ _ => ?_
      intro completion queued
      obtain rfl := Builtin.eq_of_queueContent queued
      exact ⟨rfl, rfl⟩
  | exit =>
      refine Script.yields_bind fun _ _ => ?_
      split
      · exact Script.yields_fail _ _
      · exact Script.yields_pure ⟨rfl, rfl⟩
  | set
  | version
  | listVariables =>
      exact Script.yields_bind fun _ _ => Script.yields_pure ⟨rfl, rfl⟩

theorem Extension.makes_of_perform
    (extension : Extension)
    (commandName : String)
    (arguments : List String) :
    (extension.perform commandName arguments).Yields
      fun completion => completion.Makes ((Action.extension extension).writes arguments) := by
  cases extension with
  | echo
  | stop
  | queue =>
      exact Script.yields_pure ⟨rfl, rfl⟩
  | check =>
      exact Script.yields_bind fun _ _ => Script.yields_pure ⟨rfl, rfl⟩
  | fail
  | reject
  | systemFault
  | unusableValue =>
      exact Script.yields_fail _ _

/-- What is performed makes the writes of its action and tells of them. -/
theorem Invocation.makes_of_perform
    (invocation : Invocation)
    (scope : Scope)
    (host : Host) :
    (invocation.perform scope host).Yields fun completion =>
      completion.Makes (invocation.command.action.writes invocation.arguments) := by
  unfold perform
  cases invocation.command.action with
  | builtin command =>
      exact command.makes_of_perform scope host invocation.arguments
  | extension extension =>
      exact extension.makes_of_perform invocation.command.name invocation.arguments

/-- Whether a completion assigns nothing but the second of some arguments to the first. -/
def Completion.AssignsAtMost (completion : Completion) (arguments : List String) : Prop :=
  ∀ entry ∈ completion.effect.assignment?,
    entry = (arguments.getD 0 "", arguments.getD 1 "")

theorem Invocation.assignsAtMost_of_perform
    (invocation : Invocation)
    (scope : Scope)
    (host : Host) :
    (invocation.perform scope host).Yields
      fun completion => completion.AssignsAtMost invocation.arguments := by
  intro completion performed entry assigned
  obtain ⟨_, made⟩ := invocation.makes_of_perform scope host completion performed
  exact (Action.eq_of_mem_writes (made ▸ Option.mem_toList.mpr assigned)).2

/-- A line assigns an enclosable value to an enclosable key, or nothing. -/
theorem Scope.enclosable_of_interpret
    {scope : Scope}
    (enclosable : scope.store.Enclosable)
    (host : Host)
    (line : String) :
    (scope.interpret host line).Yields fun completion =>
      ∀ entry ∈ completion.effect.assignment?,
        Line.Enclosable entry.1.toList ∧ Line.Enclosable entry.2.toList := by
  refine Script.yields_bind fun found parsed => ?_
  cases found with
  | none =>
      exact Script.yields_pure (by simp [Effect.assignment?])
  | some invocation =>
      have arguments := Invocation.enclosable_of_ofLine? enclosable parsed
      have argumentEnclosable (index : Nat) :
          Line.Enclosable (invocation.arguments.getD index "").toList := by
        rw [List.getD_eq_getElem?_getD]
        cases member : invocation.arguments[index]? with
        | none =>
            exact .nil
        | some argument =>
            exact arguments argument (List.mem_of_getElem? member)
      intro completion performed entry assigned
      rw [invocation.assignsAtMost_of_perform scope host completion performed entry assigned]
      exact ⟨argumentEnclosable 0, argumentEnclosable 1⟩

namespace Session

theorem scope_advanceAlarm (session : Session) :
    session.advanceAlarm.scope = session.scope := by
  unfold advanceAlarm
  split <;> rfl

theorem scope_poll (session : Session) : session.poll.state.scope = session.scope := by
  rw [← session.scope_advanceAlarm]
  unfold poll
  dsimp only
  split <;> rfl

/-- Acts leave what commands can see, whether or not a poll cuts them short. -/
theorem scope_play (session : Session) (acts : List Act) :
    (session.play acts).state.scope = session.scope := by
  induction acts generalizing session with
  | nil =>
      rfl
  | cons act acts inductionHypothesis =>
      cases act with
      | log event =>
          exact inductionHypothesis (session.record event)
      | poll =>
          rw [play]
          split
          · exact (inductionHypothesis session.poll.state).trans session.scope_poll
          · exact session.scope_poll

/-- An effect keeps the registry and makes its one assignment in the store. -/
theorem scope_of_apply
    {session next : Session}
    {effect : Effect}
    (applied : session.apply effect = .ok next) :
    next.registry = session.registry ∧
      next.store = effect.assignment?.elim session.store fun entry =>
        session.store.set entry.1 entry.2 := by
  cases effect with
  | queueAhead lines =>
      obtain ⟨queue, _, rfl⟩ := exists_of_enqueueBatch applied
      exact ⟨rfl, rfl⟩
  | _ =>
      obtain rfl := Except.ok.inj applied
      exact ⟨rfl, rfl⟩

/-- The end of a run keeps the registry and makes at most the assignment of its completion. -/
theorem scope_conclude (session : Session) (outcome : Except Fault Completion) :
    (session.conclude outcome).state.registry = session.registry ∧
      ((session.conclude outcome).state.store = session.store ∨
        ∃ completion entry,
          outcome = .ok completion ∧
            entry ∈ completion.effect.assignment? ∧
            (session.conclude outcome).state.store = session.store.set entry.1 entry.2) := by
  cases outcome with
  | error fault =>
      exact ⟨rfl, .inl rfl⟩
  | ok completion =>
      simp only [conclude]
      cases applied : session.apply completion.effect with
      | error fault =>
          exact ⟨rfl, .inl rfl⟩
      | ok next =>
          obtain ⟨sameRegistry, stored⟩ := scope_of_apply applied
          refine ⟨sameRegistry, ?_⟩
          cases assigned : completion.effect.assignment? with
          | none =>
              rw [assigned] at stored
              exact .inl stored
          | some entry =>
              rw [assigned] at stored
              exact .inr ⟨completion, entry, rfl, assigned, stored⟩

/--
A run keeps the registry, and it either leaves the store or makes the one
assignment that its script comes to.
-/
theorem scope_run (session : Session) (host : Host) (line : String) :
    (session.run host line).state.registry = session.registry ∧
      ((session.run host line).state.store = session.store ∨
        ∃ completion entry,
          (session.scope.interpret host line).outcome = .ok completion ∧
            entry ∈ completion.effect.assignment? ∧
            (session.run host line).state.store = session.store.set entry.1 entry.2) := by
  have sameScope := session.scope_play (session.scope.interpret host line).acts
  cases playing : session.play (session.scope.interpret host line).acts with
  | mk played outcome =>
      rw [playing] at sameScope
      obtain ⟨sameRegistry, sameStore⟩ := Scope.mk.inj sameScope
      rw [← sameRegistry, ← sameStore]
      cases outcome with
      | ok _ =>
          rw [run_of_played playing]
          exact played.scope_conclude _
      | error fault =>
          rw [run_of_stopped playing]
          exact ⟨rfl, .inl rfl⟩

/-- A run keeps all names and values enclosable. -/
theorem enclosable_run
    {session : Session}
    (enclosable : session.store.Enclosable)
    (host : Host)
    (line : String) :
    (session.run host line).state.store.Enclosable := by
  obtain ⟨_, sameStore | ⟨completion, entry, comes, assigned, stored⟩⟩ :=
    session.scope_run host line
  · rw [sameStore]
    exact enclosable
  · have entryEnclosable :=
      Scope.enclosable_of_interpret enclosable host line completion comes entry assigned
    rw [stored]
    exact enclosable.set entryEnclosable.1 entryEnclosable.2

end Session

end CommandConsole
