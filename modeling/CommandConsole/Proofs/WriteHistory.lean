import CommandConsole.Proofs.Assignment
import CommandConsole.Proofs.Escape
import CommandConsole.Proofs.Reachability
import CommandConsole.Proofs.Variables
import Mathlib.Data.List.Induction

namespace CommandConsole

/-!
# Variables remember their last values in the order of their first ones

Whatever is done with a session, its store is what the writes make of it: the
assignments made from outside and those of the lines that were run with success.
A key stands where it was first written and has the value that was last written,
and every way to read the store follows from these two lists.
-/

namespace Variables

/-- The store after writes in order. -/
def setAll (store : Variables) (writes : List (String × String)) : Variables :=
  writes.foldl (fun store write => store.set write.1 write.2) store

/-- The keys that were written, in the order of their first writes. -/
def keysWritten (writes : List (String × String)) : List String :=
  (writes.map Prod.fst).eraseDups

/-- The value that was last written to a key. -/
def lastWritten? (writes : List (String × String)) (key : String) : Option String :=
  writes.reverse.lookup key

/-- A store that holds the last value of every key that was written, and answers from it. -/
structure HoldsLast (store : Variables) (writes : List (String × String)) : Prop where
  /-- One entry for each key, in the order of the first writes and with the value of the last. -/
  entries :
    store.entries =
      (keysWritten writes).filterMap fun key =>
        (lastWritten? writes key).map fun value => (key, value)
  keys : store.entries.map Prod.fst = keysWritten writes
  distinct : (keysWritten writes).Nodup
  size : store.size = (keysWritten writes).length
  get :
    ∀ key,
      store.get key = (lastWritten? writes key).elim (.error (.undefinedVariable key)) .ok
  undefined :
    ∀ key, store.get key = .error (.undefinedVariable key) ↔ key ∉ writes.map Prod.fst
  resolve : ∀ word, store.resolve word = (lastWritten? writes word).getD word
  contains : ∀ key, store.contains key = true ↔ ∃ value, store.get key = .ok value

theorem setAll_append
    (store : Variables)
    (earlier later : List (String × String)) :
    store.setAll (earlier ++ later) = (store.setAll earlier).setAll later :=
  List.foldl_append

theorem setAll_concat
    (store : Variables)
    (writes : List (String × String))
    (key value : String) :
    store.setAll (writes ++ [(key, value)]) = (store.setAll writes).set key value :=
  setAll_append store writes [(key, value)]

theorem lastWritten?_concat
    (writes : List (String × String))
    (key value other : String) :
    lastWritten? (writes ++ [(key, value)]) other =
      if other = key then some value else lastWritten? writes other := by
  rw [lastWritten?, List.reverse_concat, List.lookup_cons]
  by_cases same : other = key
  · simp [same]
  · have differs : (other == key) = false := by
      simpa using same
    simp [differs, same, lastWritten?]

/-- A key that is written again keeps its place, and a new one comes last. -/
theorem keysWritten_concat
    (writes : List (String × String))
    (key value : String) :
    keysWritten (writes ++ [(key, value)]) =
      if key ∈ keysWritten writes then keysWritten writes else keysWritten writes ++ [key] := by
  have behind : keysWritten (writes ++ [(key, value)]) =
      keysWritten writes ++ ([key].removeAll (writes.map Prod.fst)).eraseDups := by
    rw [keysWritten, List.map_append, List.eraseDups_append]
    rfl
  have isWritten : key ∈ keysWritten writes ↔ key ∈ writes.map Prod.fst :=
    List.mem_eraseDups
  by_cases written : key ∈ writes.map Prod.fst
  · rw [behind, if_pos (isWritten.mpr written)]
    simp [List.removeAll, written]
  · rw [behind, if_neg (mt isWritten.mp written)]
    simp [List.removeAll, written, List.eraseDups_cons]

theorem keys_setAll (writes : List (String × String)) :
    (({} : Variables).setAll writes).keys = keysWritten writes := by
  induction writes using List.reverseRecOn with
  | nil =>
      rfl
  | append_singleton writes write inductionHypothesis =>
      rw [setAll_concat, keys_set, inductionHypothesis, keysWritten_concat]

theorem get?_setAll (writes : List (String × String)) (key : String) :
    (({} : Variables).setAll writes).get? key = lastWritten? writes key := by
  induction writes using List.reverseRecOn with
  | nil =>
      rfl
  | append_singleton writes write inductionHypothesis =>
      rw [setAll_concat, get?_set, inductionHypothesis, lastWritten?_concat]

/-- The entries are the keys with their values. -/
theorem entries_eq_filterMap (store : Variables) :
    store.entries =
      store.keys.filterMap fun key => (store.get? key).map fun value => (key, value) := by
  have whole (entry : String × String) (listed : entry ∈ store.entries) :
      (store.get? entry.1).map (fun value => (entry.1, value)) = some entry := by
    rw [get?_of_mem_entries listed]
    rfl
  rw [keys, List.filterMap_map]
  calc store.entries
    _ = store.entries.filterMap some :=
        List.filterMap_some.symm
    _ = _ :=
        List.filterMap_congr fun entry listed => (whole entry listed).symm

theorem lastWritten?_eq_none_iff (writes : List (String × String)) (key : String) :
    lastWritten? writes key = none ↔ key ∉ writes.map Prod.fst := by
  rw [lastWritten?, List.lookup_eq_none_iff, List.mem_map]
  constructor
  · rintro differs ⟨write, member, rfl⟩
    simpa using differs write (List.mem_reverse.mpr member)
  · intro unwritten write member
    have differs : write.1 ≠ key :=
      fun same => unwritten ⟨write, List.mem_reverse.mp member, same⟩
    simpa using differs.symm

/-- Writes to an empty store leave one that holds the last value of each key. -/
theorem holdsLast_setAll (writes : List (String × String)) :
    (({} : Variables).setAll writes).HoldsLast writes := by
  have keys := keys_setAll writes
  have get (key : String) :
      (({} : Variables).setAll writes).get key =
        (lastWritten? writes key).elim (.error (.undefinedVariable key)) .ok := by
    rw [Variables.get, get?_setAll]
    cases lastWritten? writes key <;> rfl
  exact {
    entries := by
      rw [entries_eq_filterMap, keys]
      exact List.filterMap_congr fun key _ => by rw [get?_setAll]
    keys := keys
    distinct := keys ▸ (({} : Variables).setAll writes).distinctKeys
    size := by
      rw [← keys]
      exact (List.length_map ..).symm
    get := get
    undefined := by
      intro key
      rw [get, ← lastWritten?_eq_none_iff]
      cases lastWritten? writes key <;> simp
    resolve := by
      intro word
      rw [Variables.resolve, get?_setAll]
    contains := by
      intro key
      rw [get, Variables.contains, keys, List.contains_iff_mem, keysWritten, List.mem_eraseDups,
        ← not_iff_not, ← lastWritten?_eq_none_iff]
      cases lastWritten? writes key <;> simp
  }

end Variables

namespace Session

/-- One use of a session. Uses that only read the store are left out, as they change nothing. -/
inductive Request where
  | assign (key value : String)
  | run (host : Host) (line : String)
  | runNext (host : Host)
  | enqueue (line : String)
  | enqueueBatch (lines : List String)
  | clear
  | register (command : Command)
  | poll
  | requestStop
  | dismissStop
  | setAlarm (polls : Nat)

/-- The session after a request; one that is refused leaves it as it is. -/
def serve (session : Session) : Request → Session
  | .assign key value =>
      session.assign key value
  | .run host line =>
      (session.run host line).state
  | .runNext host =>
      (session.runNext host).state
  | .enqueue line =>
      (session.enqueue line).toOption.getD session
  | .enqueueBatch lines =>
      (session.enqueueBatch lines).toOption.getD session
  | .clear =>
      session.clear
  | .register command =>
      (session.register command).toOption.getD session
  | .poll =>
      session.poll.state
  | .requestStop =>
      session.requestStop
  | .dismissStop =>
      session.dismissStop
  | .setAlarm polls =>
      session.setAlarm polls

/-- What a request writes: an assignment itself, and that of a line that was run with success. -/
def written (session : Session) : Request → List (String × String)
  | .assign key value =>
      [(key, value)]
  | .run host line =>
      writesOf (session.run host line).outcome
  | .runNext host =>
      writesOf (session.runNext host).outcome
  | _ =>
      []

/-- The session after requests in order. -/
def serveAll : List Request → Session → Session
  | [], session =>
      session
  | request :: requests, session =>
      serveAll requests (session.serve request)

/-- What requests write in order. -/
def writes : List Request → Session → List (String × String)
  | [], _ =>
      []
  | request :: requests, session =>
      session.written request ++ writes requests (session.serve request)

end Session

/-- What a line comes to makes just the writes that its reply tells of. -/
theorem Scope.makes_of_interpret (scope : Scope) (host : Host) (line : String) :
    (scope.interpret host line).Yields fun completion =>
      completion.Makes (writesOf (.ok completion.reply)) := by
  rw [interpret_eq]
  refine Script.yields_bind fun found _ => ?_
  cases found with
  | none =>
      exact Script.yields_pure ⟨rfl, rfl⟩
  | some invocation =>
      intro completion comes
      obtain ⟨told, made⟩ := invocation.makes_of_perform scope host completion comes
      exact ⟨rfl, made.trans told.symm⟩

namespace Session

variable {session : Session} {host : Host} {line : String}

/-- The end of a run writes what its reply tells of. -/
theorem store_conclude
    {outcome : Except Fault Completion}
    (makes : ∀ completion, outcome = .ok completion →
      completion.Makes (writesOf (.ok completion.reply))) :
    (session.conclude outcome).state.store =
      session.store.setAll (writesOf (session.conclude outcome).outcome) := by
  cases outcome with
  | error fault =>
      rfl
  | ok completion =>
      simp only [conclude]
      cases applied : session.apply completion.effect with
      | error fault =>
          rfl
      | ok next =>
          dsimp only
          rw [(scope_of_apply applied).2, ← (makes completion rfl).2]
          cases completion.effect.assignment? <;> rfl

theorem scope_playScript (session : Session) (script : Script α) :
    (session.playScript script).state.scope = session.scope := by
  unfold playScript
  dsimp only
  split
  · exact session.scope_play script.acts
  · exact session.scope_play script.acts

/-- A run writes what its reply tells of, and a run that fails writes nothing. -/
theorem store_run (session : Session) (host : Host) (line : String) :
    (session.run host line).state.store =
      session.store.setAll (writesOf (session.run host line).outcome) := by
  have sameStore : (session.playScript (session.scope.interpret host line)).state.store =
      session.store :=
    congrArg Scope.store (session.scope_playScript _)
  rw [run_eq_conclude, ← sameStore]
  exact store_conclude fun completion comes =>
    session.scope.makes_of_interpret host line completion (outcome_of_playScript_ok comes).1

theorem store_runNext (session : Session) (host : Host) :
    (session.runNext host).state.store =
      session.store.setAll (writesOf (session.runNext host).outcome) := by
  unfold runNext
  split
  · rfl
  · exact store_run _ host _

/-- A request writes what it is said to write and nothing else. -/
theorem store_serve (session : Session) (request : Request) :
    (session.serve request).store = session.store.setAll (session.written request) := by
  cases request with
  | run host line =>
      exact session.store_run host line
  | runNext host =>
      exact session.store_runNext host
  | enqueue line =>
      simp only [serve]
      cases accepted : session.enqueue line with
      | error fault =>
          rfl
      | ok next =>
          exact congrArg Scope.store (scope_of_enqueue accepted)
  | enqueueBatch lines =>
      simp only [serve]
      cases accepted : session.enqueueBatch lines with
      | error fault =>
          rfl
      | ok next =>
          obtain ⟨queue, _, rfl⟩ := exists_of_enqueueBatch accepted
          rfl
  | register command =>
      simp only [serve]
      cases accepted : session.register command with
      | error fault =>
          rfl
      | ok next =>
          exact (scope_of_register accepted).2
  | poll =>
      exact congrArg Scope.store session.scope_poll
  | assign
  | clear
  | requestStop
  | dismissStop
  | setAlarm =>
      rfl

theorem store_serveAll (requests : List Request) (session : Session) :
    (serveAll requests session).store = session.store.setAll (writes requests session) := by
  induction requests generalizing session with
  | nil =>
      rfl
  | cons request requests inductionHypothesis =>
      rw [serveAll, writes, inductionHypothesis, store_serve, Variables.setAll_append]

/-- A line is performed from what its parsing leaves. -/
theorem run_of_parsed
    {found : Option Invocation}
    (host : Host)
    (parsed : (session.parse line).outcome = .ok found) :
    session.run host line =
      let performed := (session.parse line).state.playScript
        (found.elim (pure ⟨.none, .blank⟩) fun invocation =>
          invocation.perform session.scope host)
      performed.state.conclude performed.outcome := by
  rw [run_eq_conclude, Scope.interpret_eq]
  exact congrArg (fun performed : Attempt Session Completion =>
    performed.state.conclude performed.outcome) (playScript_bind_of_ok parsed _)

/-- The reply of a run that succeeds is that of the completion it has come to. -/
theorem exists_completion_of_conclude
    {outcome : Except Fault Completion}
    {reply : Reply}
    (succeeded : (session.conclude outcome).outcome = .ok reply) :
    ∃ completion, outcome = .ok completion ∧ completion.reply = reply := by
  cases outcome with
  | error fault =>
      cases succeeded
  | ok completion =>
      simp only [conclude] at succeeded
      cases applied : session.apply completion.effect with
      | error fault =>
          rw [applied] at succeeded
          cases succeeded
      | ok next =>
          rw [applied] at succeeded
          exact ⟨completion, rfl, Except.ok.inj succeeded⟩

/-- A line that is parsed as one that sets a variable sets it. -/
theorem outcome_run_of_set
    {invocation : Invocation}
    (host : Host)
    (parsed : (session.parse line).outcome = .ok (some invocation))
    (isSet : invocation.command.action = .builtin .set) :
    (session.run host line).outcome =
      .ok (.assigned (invocation.arguments.getD 0 "") (invocation.arguments.getD 1 "")) := by
  rw [run_of_parsed host parsed]
  simp only [Option.elim, Invocation.perform, isSet]
  rfl

/-- A line that is parsed as one that lists the variables lists all entries, or it is stopped. -/
theorem outcome_run_of_listing
    {invocation : Invocation}
    (host : Host)
    (parsed : (session.parse line).outcome = .ok (some invocation))
    (isListing : invocation.command.action = .builtin .listVariables) :
    (session.run host line).outcome = .ok (.variablesListed session.store.entries) ∨
      (session.run host line).outcome = .error .stopped := by
  rw [run_of_parsed host parsed]
  simp only [Option.elim, Invocation.perform, isListing, playScript]
  rcases (session.parse line).state.play_cases
      (Builtin.performVariables session.scope).acts with ⟨played, _⟩ | ⟨stopped, _⟩
  · left
    simp only [Builtin.perform, played]
    rfl
  · right
    simp only [Builtin.perform, stopped]
    rfl

/-- A line assigns just if it is parsed as one that sets a variable, and then what it says. -/
theorem outcome_run_assigned_iff (key value : String) :
    (session.run host line).outcome = .ok (.assigned key value) ↔
      ∃ invocation,
        (session.parse line).outcome = .ok (some invocation) ∧
          invocation.command.action = .builtin .set ∧
          key = invocation.arguments.getD 0 "" ∧ value = invocation.arguments.getD 1 "" := by
  constructor
  · intro assigned
    cases parsed : (session.parse line).outcome with
    | error fault =>
        rw [run_of_parse_error host parsed] at assigned
        exact nomatch assigned
    | ok found =>
        rw [run_of_parsed host parsed] at assigned
        obtain ⟨completion, comes, replies⟩ := exists_completion_of_conclude assigned
        have performed := (outcome_of_playScript_ok comes).1
        cases found with
        | none =>
            obtain rfl := Except.ok.inj performed
            exact nomatch replies
        | some invocation =>
            refine ⟨invocation, rfl, ?_⟩
            have told :=
              (invocation.makes_of_perform session.scope host completion performed).1
            rw [replies] at told
            have written : (key, value) ∈ invocation.command.action.writes invocation.arguments :=
              told ▸ List.mem_singleton_self (key, value)
            obtain ⟨isSet, same⟩ := Action.eq_of_mem_writes written
            exact ⟨isSet, Prod.mk.inj same⟩
  · rintro ⟨invocation, parsed, isSet, rfl, rfl⟩
    exact outcome_run_of_set host parsed isSet

/-- What lines that set and list variables come to in a session. -/
structure SetsAndLists (session : Session) (host : Host) (line : String) : Prop where
  /-- A line assigns just if it is parsed as one that sets a variable, and it does not fail then. -/
  sets :
    ∀ key value,
      (session.run host line).outcome = .ok (.assigned key value) ↔
        ∃ invocation,
          (session.parse line).outcome = .ok (some invocation) ∧
            invocation.command.action = .builtin .set ∧
            key = invocation.arguments.getD 0 "" ∧ value = invocation.arguments.getD 1 ""
  /-- A line that is parsed as one that lists the variables lists all of them, or it is stopped. -/
  lists :
    ∀ invocation,
      (session.parse line).outcome = .ok (some invocation) →
        invocation.command.action = .builtin .listVariables →
          (session.run host line).outcome = .ok (.variablesListed session.store.entries) ∨
            (session.run host line).outcome = .error .stopped
  message :
    (Reply.variablesListed session.store.entries).message =
      "\n".intercalate
        (session.store.entries.map fun entry => "\t" ++ entry.1 ++ ": " ++ entry.2)
  data :
    (Reply.variablesListed session.store.entries).data =
      [("variables", .pairs session.store.entries)]

theorem setsAndLists (session : Session) (host : Host) (line : String) :
    session.SetsAndLists host line :=
  ⟨outcome_run_assigned_iff, fun _ => outcome_run_of_listing host, rfl, rfl⟩

/--
Variables hold the last value of each key in the order of the first writes.
From a session without variables, and whatever is done with it, the store is
what the assignments and the lines run with success have written, in all ways to
read it. On the way a line writes just if it is parsed as one that sets a
variable, and one that is parsed as listing the variables lists all entries,
each with a line of its own in the message, unless it is stopped.
-/
theorem variables_hold_last_writes
    {start : Session}
    (noVariables : start.store = {})
    (requests : List Request) :
    (serveAll requests start).store.HoldsLast (writes requests start) ∧
      ∀ earlier later, requests = earlier ++ later →
        ∀ host line, (serveAll earlier start).SetsAndLists host line := by
  have stored : (serveAll requests start).store =
      ({} : Variables).setAll (writes requests start) :=
    noVariables ▸ store_serveAll requests start
  rw [stored]
  exact ⟨Variables.holdsLast_setAll _, fun _ _ _ => setsAndLists _⟩

/-- A key that is written twice keeps its place, and a line that fails in between writes nothing. -/
theorem variables_hold_last_writes_over_failures :
    let host : Host := ⟨fun path => .error (.system (.missing path.text)), "1.0.0", 0, true⟩
    let start := offeringBuiltins 32 256
    let requests : List Request :=
      [.run host "SET b a", .assign "a" "1", .run host "SET c", .run host "GET d",
        .enqueue "SET \"B\" b", .runNext host, .run host "SET b 2"]
    (serveAll requests start).store.entries = [("b", "2"), ("a", "1"), ("B", "a")] ∧
      (serveAll requests start).store.resolve "B" = "a" ∧
      (serveAll requests start).store.get "d" = .error (.undefinedVariable "d") ∧
      ((serveAll requests start).run host "VARIABLES").outcome =
        .ok (.variablesListed [("b", "2"), ("a", "1"), ("B", "a")]) ∧
      (Reply.variablesListed [("b", "2"), ("a", "1"), ("B", "a")]).message =
        "\tb: 2\n\ta: 1\n\tB: a" := by
  intro host start requests
  have evaluated :
      start.store = {} ∧
        writes requests start = [("b", "a"), ("a", "1"), ("B", "a"), ("b", "2")] ∧
        ((serveAll requests start).parse "VARIABLES").outcome =
          .ok (some ⟨Builtin.listVariables.command, []⟩) ∧
        ((serveAll requests start).run host "VARIABLES").outcome ≠ .error .stopped := by
    decide +kernel
  obtain ⟨noVariables, written, parsed, notStopped⟩ := evaluated
  obtain ⟨holds, answers⟩ := variables_hold_last_writes noVariables requests
  have listing := answers requests [] (List.append_nil _).symm host "VARIABLES"
  have lists := (listing.lists _ parsed rfl).resolve_right notStopped
  have message := listing.message
  rw [written] at holds
  have entries : (serveAll requests start).store.entries =
      [("b", "2"), ("a", "1"), ("B", "a")] := by
    rw [holds.entries]
    decide +kernel
  rw [entries] at lists message
  refine ⟨entries, ?_, ?_, lists, ?_⟩
  · rw [holds.resolve]
    decide +kernel
  · rw [holds.undefined]
    decide +kernel
  · rw [message]
    decide +kernel

end Session

end CommandConsole
