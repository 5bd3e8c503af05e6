import CommandConsole.Proofs.Assignment
import CommandConsole.Proofs.Escape
import CommandConsole.Proofs.Interruption
import Mathlib.Data.Multiset.DershowitzManna
import Mathlib.Data.Nat.Find
import Mathlib.Logic.Relation
import Mathlib.Order.WellFounded

namespace CommandConsole

/-!
# The queue is drained

A line that is run may put a batch of any size in its place, so the count of
pending lines is no measure of what is left to do. Where the lines of a batch
have lower ranks than the line that queues them, the ranks of all pending lines
go down with each turn in the Dershowitz-Manna order of multisets, which is
well-founded. So the loop comes back to its prompt, or a fault leaves it.
-/

/-- The lines that an effect queues. -/
def Effect.batch : Effect → List String
  | .queueAhead lines =>
      lines
  | _ =>
      []

namespace Session

variable {session : Session} {host : Host} {line : String}

/-- The lines that running a line puts in front of the pending ones. -/
def queuedBy (session : Session) (host : Host) (line : String) : List String :=
  let pending := (session.run host line).state.queue.lines
  pending.take (pending.length - session.queue.lines.length)

/-- The end of a run leaves the pending lines, or puts lines of its completion in front of them. -/
theorem exists_batch_of_conclude (session : Session) (outcome : Except Fault Completion) :
    ∃ batch,
      (session.conclude outcome).state.queue.lines = batch ++ session.queue.lines ∧
        ∀ queued ∈ batch,
          ∃ completion, outcome = .ok completion ∧ queued ∈ completion.effect.batch := by
  cases outcome with
  | error fault =>
      exact ⟨[], rfl, nofun⟩
  | ok completion =>
      obtain ⟨effect, reply⟩ := completion
      simp only [conclude]
      cases applied : session.apply effect with
      | error fault =>
          exact ⟨[], rfl, nofun⟩
      | ok next =>
          cases effect with
          | queueAhead batch =>
              obtain ⟨queue, queued, rfl⟩ := exists_of_enqueueBatch applied
              exact ⟨batch, Queue.lines_of_enqueueBatch queued, fun _ member => ⟨_, rfl, member⟩⟩
          | _ =>
              obtain rfl := Except.ok.inj applied
              exact ⟨[], rfl, nofun⟩

/-- A run leaves the pending lines behind those that it queues, or a stop discards them. -/
theorem exists_batch_of_run (session : Session) (host : Host) (line : String) :
    (session.run host line).state.queue.lines = [] ∨
      ∃ batch,
        (session.run host line).state.queue.lines = batch ++ session.queue.lines ∧
          ∀ queued ∈ batch,
            ∃ completion,
              (session.scope.interpret host line).outcome = .ok completion ∧
                queued ∈ completion.effect.batch := by
  have plays := session.play_cases (session.scope.interpret host line).acts
  cases playing : session.play (session.scope.interpret host line).acts with
  | mk played outcome =>
      rw [playing] at plays
      rcases plays with ⟨rfl, kept⟩ | ⟨rfl, emptied⟩
      · rw [run_of_played playing, ← kept.queue]
        exact .inr (played.exists_batch_of_conclude _)
      · rw [run_of_stopped playing]
        exact .inl (congrArg Queue.lines emptied.queue)

theorem lines_of_run (session : Session) (host : Host) (line : String) :
    (session.run host line).state.queue.lines = [] ∨
      (session.run host line).state.queue.lines =
        session.queuedBy host line ++ session.queue.lines := by
  refine (session.exists_batch_of_run host line).imp_right ?_
  rintro ⟨batch, pending, _⟩
  simp [queuedBy, pending]

/-- The lines that a run queues are lines that its script comes to. -/
theorem exists_completion_of_mem_queuedBy
    {queued : String}
    (member : queued ∈ session.queuedBy host line) :
    ∃ completion,
      (session.scope.interpret host line).outcome = .ok completion ∧
        queued ∈ completion.effect.batch := by
  rcases session.exists_batch_of_run host line with discarded | ⟨batch, pending, fromScript⟩
  · simp [queuedBy, discarded] at member
  · have isBatch : session.queuedBy host line = batch := by
      simp [queuedBy, pending]
    exact fromScript queued (isBatch ▸ member)

theorem scope_taken (session : Session) (line : String) :
    (session.taken line).scope = session.scope :=
  session.scope_poll

end Session

/-- The ranks of lines. -/
def ranks (rank : String → Nat) (lines : List String) : Multiset Nat :=
  lines.map rank

/-- Lines of lower rank in the place of a line lower the ranks. -/
theorem ranks_of_replaced
    {rank : String → Nat}
    {line : String}
    {batch : List String}
    (lower : ∀ queued ∈ batch, rank queued < rank line)
    (rest : List String) :
    (ranks rank (batch ++ rest)).IsDershowitzMannaLT (ranks rank (line :: rest)) := by
  refine ⟨ranks rank rest, ranks rank batch, {rank line}, Multiset.singleton_ne_zero _, ?_, ?_, ?_⟩
  · rw [ranks, List.map_append, ← Multiset.coe_add, add_comm]
    rfl
  · rw [ranks, List.map_cons, ← Multiset.cons_coe, ← Multiset.singleton_add, add_comm]
    rfl
  · intro low member
    obtain ⟨queued, inBatch, rfl⟩ := List.mem_map.mp (Multiset.mem_coe.mp member)
    exact ⟨rank line, Multiset.mem_singleton_self _, lower queued inBatch⟩

/-- Discarding lines lowers the ranks. -/
theorem ranks_of_discarded
    {lines : List String}
    (rank : String → Nat)
    (busy : lines ≠ []) :
    (ranks rank []).IsDershowitzMannaLT (ranks rank lines) :=
  ⟨0, 0, ranks rank lines, by simpa [ranks] using busy, rfl, (zero_add _).symm, by simp⟩

namespace Shell

open Session

variable {shell before after : Shell} {host : Host} {rank : String → Nat}

/-- The loop before a turn in which a stop may be requested, after a given count of polls. -/
def alert (shell : Shell) : Option Nat → Shell
  | none =>
      shell
  | some polls =>
      { shell with session := shell.session.setAlarm polls }

/-- The loop after a count of turns in each of which a stop may be requested. -/
def afterAlerts (host : Host) (alerts : Nat → Option Nat) (shell : Shell) : Nat → Shell
  | 0 =>
      shell
  | turns + 1 =>
      (((shell.afterAlerts host alerts turns).alert (alerts turns)).step host).state

/-- One turn that starts with a pending line and goes on, with or without a stop in it. -/
def Drains (host : Host) (before after : Shell) : Prop :=
  before.session.queue.lines ≠ [] ∧
    ∃ alert, (before.alert alert).step host = ⟨after, .ok true⟩

/-- Wherever draining leads, the next pending line queues nothing but lines of lower rank. -/
def Descends (host : Host) (rank : String → Nat) (shell : Shell) : Prop :=
  ∀ reached, Relation.ReflTransGen (Drains host) shell reached →
    ∀ alert line rest, reached.session.queue.lines = line :: rest →
      ∀ queued ∈ ((reached.alert alert).session.taken line).queuedBy host line,
        rank queued < rank line

theorem lines_alert (shell : Shell) (alert : Option Nat) :
    (shell.alert alert).session.queue.lines = shell.session.queue.lines := by
  cases alert <;> rfl

theorem scope_alert (shell : Shell) (alert : Option Nat) :
    (shell.alert alert).session.scope = shell.session.scope := by
  cases alert <;> rfl

/-- A turn discards all pending lines, or puts what the first one queues in its place. -/
theorem lines_of_step
    {line : String}
    {rest : List String}
    (waiting : shell.session.queue.lines = line :: rest)
    (host : Host) :
    (shell.step host).state.session.queue.lines = [] ∨
      (shell.step host).state.session.queue.lines =
        (shell.session.taken line).queuedBy host line ++ rest := by
  have settles := (kept_settled (pollAndRun shell.session host)).queue
  rw [step_of_busy (by simp [waiting]), runPending_eq, settles]
  rcases shell.session.pollAndRun_cases waiting host with ⟨_, kept, runs⟩ | ⟨stopped, stops⟩
  · have behind : (shell.session.taken line).queue.lines = rest := by
      simp [taken, Session.record, Queue.tail, kept.queue, waiting]
    rw [runs, ← behind]
    exact (shell.session.taken line).lines_of_run host line
  · rw [stops]
    rcases shell.session.poll_cases with ⟨goesOn, _⟩ | ⟨_, emptied⟩
    · rw [goesOn] at stopped
      cases stopped
    · exact .inl (congrArg Queue.lines emptied.queue)

/-- Each turn that drains lowers the ranks of the pending lines. -/
theorem ranks_of_drains
    (descends : Descends host rank before)
    (drains : Drains host before after) :
    (ranks rank after.session.queue.lines).IsDershowitzMannaLT
      (ranks rank before.session.queue.lines) := by
  obtain ⟨busy, alert, turned⟩ := drains
  obtain ⟨line, rest, waiting⟩ := List.exists_cons_of_ne_nil busy
  have lower := descends before .refl alert line rest waiting
  have pending := lines_of_step ((before.lines_alert alert).trans waiting) host
  rw [turned] at pending
  rcases pending with discarded | replaced
  · rw [show after.session.queue.lines = [] from discarded]
    exact ranks_of_discarded rank busy
  · rw [show after.session.queue.lines = _ from replaced, waiting]
    exact ranks_of_replaced lower rest

/-- What is asked of the lines that draining leads to is asked of those that it leads to later. -/
theorem Descends.of_reached
    (descends : Descends host rank before)
    (reached : Relation.ReflTransGen (Drains host) before after) :
    Descends host rank after :=
  fun later reachedLater => descends later (reached.trans reachedLater)

/-- The turn after a count of others starts with a pending line and goes on. -/
def DrainsAt (shell : Shell) (host : Host) (alerts : Nat → Option Nat) (turn : Nat) : Prop :=
  (shell.afterAlerts host alerts turn).session.queue.lines ≠ [] ∧
    (((shell.afterAlerts host alerts turn).alert (alerts turn)).step host).outcome = .ok true

theorem DrainsAt.drains
    {alerts : Nat → Option Nat}
    {turn : Nat}
    (drainsAt : shell.DrainsAt host alerts turn) :
    Drains host (shell.afterAlerts host alerts turn)
      (shell.afterAlerts host alerts (turn + 1)) := by
  obtain ⟨busy, goesOn⟩ := drainsAt
  refine ⟨busy, alerts turn, ?_⟩
  rw [← goesOn]
  rfl

/-- No loop drains forever: the ranks of its pending lines would descend without end. -/
theorem exists_not_drainsAt
    (descends : Descends host rank shell)
    (alerts : Nat → Option Nat) :
    ∃ turns, ¬ shell.DrainsAt host alerts turns := by
  by_contra! drains
  have reached (turns : Nat) :
      Relation.ReflTransGen (Drains host) shell (shell.afterAlerts host alerts turns) := by
    induction turns with
    | zero =>
        exact .refl
    | succ turns inductionHypothesis =>
        exact inductionHypothesis.tail (drains turns).drains
  have noChain := wellFounded_iff_isEmpty_descending_chain.mp
    (Multiset.wellFounded_isDershowitzMannaLT (α := Nat))
  exact noChain.false
    ⟨fun turns => ranks rank (shell.afterAlerts host alerts turns).session.queue.lines,
      fun turns => ranks_of_drains (descends.of_reached (reached turns)) (drains turns).drains⟩

/-- A turn that starts with a pending line goes on, or a fault that is not handled leaves it. -/
theorem outcome_step_of_busy
    (busy : shell.session.queue.lines ≠ [])
    (host : Host) :
    (shell.step host).outcome = .ok true ∨
      ∃ fault, (shell.step host).outcome = .error fault ∧ fault.isHandled = false := by
  rw [step_of_busy busy, runPending_eq]
  rcases outcome_settled_ok_or_error (pollAndRun shell.session host) with ⟨fault, escaped⟩ | goesOn
  · exact .inr ⟨fault, escaped, (outcome_settled_eq_error_iff.mp escaped).2⟩
  · exact .inl goesOn

/-- A loop that has read nothing of the input of an earlier one, and has not prompted for it. -/
structure ReadsNothing (before after : Shell) : Prop where
  input : after.input = before.input
  prompts : after.prompts = before.prompts
  prompt : after.prompt = before.prompt

theorem ReadsNothing.trans
    {first second third : Shell}
    (earlier : ReadsNothing first second)
    (later : ReadsNothing second third) :
    ReadsNothing first third :=
  ⟨later.input.trans earlier.input, later.prompts.trans earlier.prompts,
    later.prompt.trans earlier.prompt⟩

theorem readsNothing_alert (shell : Shell) (alert : Option Nat) :
    ReadsNothing shell (shell.alert alert) := by
  cases alert <;> exact ⟨rfl, rfl, rfl⟩

theorem readsNothing_step
    (busy : shell.session.queue.lines ≠ [])
    (host : Host) :
    ReadsNothing shell (shell.step host).state := by
  obtain ⟨input, prompts, prompt⟩ := step_of_busy_reads_nothing busy host
  exact ⟨input, prompts, prompt⟩

/-- Turns each of which runs a pending line, and then one that prompts or that a fault leaves. -/
structure DrainsIn
    (shell : Shell)
    (host : Host)
    (alerts : Nat → Option Nat)
    (turns : Nat) :
    Prop where
  drains : ∀ turn < turns, shell.DrainsAt host alerts turn
  readsNothing : ∀ turn ≤ turns, ReadsNothing shell (shell.afterAlerts host alerts turn)
  ends :
    let last := (shell.afterAlerts host alerts turns).alert (alerts turns)
    (last.session.queue.lines = [] ∧
        (last.step host).state.prompts = shell.prompts.push shell.prompt) ∨
      (last.session.queue.lines ≠ [] ∧
        ReadsNothing shell (last.step host).state ∧
        ∃ fault, (last.step host).outcome = .error fault ∧ fault.isHandled = false)

theorem readsNothing_afterAlerts
    {alerts : Nat → Option Nat}
    {turns : Nat}
    (drains : ∀ turn < turns, shell.DrainsAt host alerts turn) :
    ReadsNothing shell (shell.afterAlerts host alerts turns) := by
  induction turns with
  | zero =>
      exact ⟨rfl, rfl, rfl⟩
  | succ turns inductionHypothesis =>
      have earlier := inductionHypothesis fun turn before => drains turn (Nat.lt_succ_of_lt before)
      have busy := (drains turns (Nat.lt_succ_self turns)).1
      rw [← lines_alert _ (alerts turns)] at busy
      exact (earlier.trans (readsNothing_alert _ _)).trans (readsNothing_step busy host)

/-- A turn whose line assigns nothing leaves what commands can see. -/
theorem scope_step_of_no_assignment
    {line : String}
    {rest : List String}
    (waiting : shell.session.queue.lines = line :: rest)
    (noAssignment : (shell.session.scope.interpret host line).Yields fun completion =>
      completion.effect.assignment? = none) :
    (shell.step host).state.session.scope = shell.session.scope := by
  have settles := kept_settled (pollAndRun shell.session host)
  suffices sameScope : (pollAndRun shell.session host).state.scope = shell.session.scope by
    rw [step_of_busy (by simp [waiting]), runPending_eq, ← sameScope]
    exact congrArg₂ Scope.mk settles.registry settles.store
  rcases shell.session.pollAndRun_cases waiting host with ⟨_, _, runs⟩ | ⟨_, stops⟩
  · rw [runs, ← shell.session.scope_taken line]
    obtain ⟨sameRegistry, sameStore | ⟨completion, entry, comes, assigned, _⟩⟩ :=
      (shell.session.taken line).scope_run host line
    · exact congrArg₂ Scope.mk sameRegistry sameStore
    · rw [scope_taken] at comes
      rw [noAssignment completion comes] at assigned
      exact nomatch assigned
  · rw [stops]
    exact shell.session.scope_poll

/--
Lines that assign nothing, and that queue only such lines of lower rank, can be
queued in any number: what they queue is settled by the variables at the start.
-/
theorem descends_of_closed
    {lines : List String}
    (pending : ∀ line ∈ shell.session.queue.lines, line ∈ lines)
    (closed : ∀ line ∈ lines,
      (shell.session.scope.interpret host line).Yields fun completion =>
        completion.effect.assignment? = none ∧
          ∀ queued ∈ completion.effect.batch, queued ∈ lines ∧ rank queued < rank line) :
    Descends host rank shell := by
  have queues
      {reached : Shell}
      (sameScope : reached.session.scope = shell.session.scope)
      (alert : Option Nat)
      {line : String}
      (listed : line ∈ lines)
      {queued : String}
      (member : queued ∈ ((reached.alert alert).session.taken line).queuedBy host line) :
      queued ∈ lines ∧ rank queued < rank line := by
    obtain ⟨completion, comes, inBatch⟩ := exists_completion_of_mem_queuedBy member
    rw [scope_taken, scope_alert, sameScope] at comes
    exact (closed line listed completion comes).2 queued inBatch
  have invariant (reached : Shell) (drained : Relation.ReflTransGen (Drains host) shell reached) :
      reached.session.scope = shell.session.scope ∧
        ∀ line ∈ reached.session.queue.lines, line ∈ lines := by
    induction drained with
    | refl =>
        exact ⟨rfl, pending⟩
    | @tail before after _ drains inductionHypothesis =>
        obtain ⟨sameScope, allListed⟩ := inductionHypothesis
        obtain ⟨busy, alert, turned⟩ := drains
        obtain ⟨line, rest, waiting⟩ := List.exists_cons_of_ne_nil busy
        rw [waiting, List.forall_mem_cons] at allListed
        obtain ⟨listed, restListed⟩ := allListed
        have waitingAlerted := (before.lines_alert alert).trans waiting
        have noAssignment :
            ((before.alert alert).session.scope.interpret host line).Yields fun completion =>
              completion.effect.assignment? = none := by
          rw [scope_alert, sameScope]
          exact fun completion comes => (closed line listed completion comes).1
        have scopeAfter := scope_step_of_no_assignment waitingAlerted noAssignment
        have linesAfter := lines_of_step waitingAlerted host
        rw [turned] at scopeAfter linesAfter
        refine ⟨scopeAfter.trans ((before.scope_alert alert).trans sameScope), ?_⟩
        rcases linesAfter with discarded | replaced
        · rw [show after.session.queue.lines = [] from discarded]
          exact nofun
        · rw [show after.session.queue.lines = _ from replaced, List.forall_mem_append]
          exact ⟨fun queued member => (queues sameScope alert listed member).1, restListed⟩
  intro reached drained alert line rest waiting queued member
  obtain ⟨sameScope, allListed⟩ := invariant reached drained
  rw [waiting, List.forall_mem_cons] at allListed
  exact (queues sameScope alert allListed.1 member).2

/--
Where the lines that draining comes to queue only lines of lower rank, the queue
is drained in finitely many turns, whatever the lines come to and wherever stops
are requested. These turns read no input, and the next one shows the prompt,
unless a fault has left the loop before.
-/
theorem draining_ends
    (descends : Descends host rank shell)
    (alerts : Nat → Option Nat) :
    ∃ turns, shell.DrainsIn host alerts turns := by
  classical
  have ends := exists_not_drainsAt descends alerts
  have drains (turn : Nat) (before : turn < Nat.find ends) : shell.DrainsAt host alerts turn :=
    not_not.mp (Nat.find_min ends before)
  have readsNothing (turn : Nat) (within : turn ≤ Nat.find ends) :
      ReadsNothing shell (shell.afterAlerts host alerts turn) :=
    readsNothing_afterAlerts fun earlier before => drains earlier (before.trans_le within)
  refine ⟨Nat.find ends, drains, readsNothing, ?_⟩
  intro last
  have untouched : ReadsNothing shell last :=
    (readsNothing _ le_rfl).trans (readsNothing_alert _ _)
  by_cases idle : last.session.queue.lines = []
  · refine .inl ⟨idle, ?_⟩
    rw [prompts_step_of_idle idle, untouched.prompts, untouched.prompt]
    simp
  · have notOn : (last.step host).outcome ≠ .ok true := by
      intro goesOn
      have busy := idle
      rw [lines_alert] at busy
      exact Nat.find_spec ends ⟨busy, goesOn⟩
    exact .inr ⟨idle, untouched.trans (readsNothing_step idle host),
      (outcome_step_of_busy idle host).resolve_left notOn⟩

/-- A script that queues another one is drained, though a line fails and a stop drops the others. -/
theorem draining_ends_for_nested_scripts :
    let files : List (String × String) :=
      [("outer", "FILE inner\nFILE missing\nGET x\n"), ("inner", "VERSION\nGET y\n")]
    let host : Host :=
      { openFile := fun path =>
          match files.lookup path.text with
          | some content => .ok { bytes := Text.Utf8.encode content.toList }
          | none => .error (.system (.missing path.text))
        version := "1.0.0", exitCode := 0, exitEnds := true }
    let session : Session :=
      { offeringBuiltins 32 256 with queue := ⟨256, ["FILE outer", "VERSION"], by decide⟩ }
    let shell : Shell := ⟨session, "> ", [{ text := "EXIT" }], #[]⟩
    let rank (line : String) : Nat :=
      if line = "FILE outer" then 2 else if line = "FILE inner" then 1 else 0
    let alerts (turn : Nat) : Option Nat := if turn = 5 then some 0 else none
    Descends host rank shell ∧
      (shell.afterAlerts host alerts 2).session.queue.lines =
        ["VERSION", "GET y", "FILE missing", "GET x", "VERSION"] ∧
      (shell.afterAlerts host alerts 6).session.queue.lines = [] ∧
      ∃ turns, shell.DrainsIn host alerts turns := by
  intro files host session shell rank alerts
  let lines := ["FILE outer", "FILE inner", "FILE missing", "GET x", "GET y", "VERSION"]
  have evaluated :
      (∀ line ∈ shell.session.queue.lines, line ∈ lines) ∧
        (∀ line ∈ lines,
          (shell.session.scope.interpret host line).Yields fun completion =>
            completion.effect.assignment? = none ∧
              ∀ queued ∈ completion.effect.batch, queued ∈ lines ∧ rank queued < rank line) ∧
        (shell.afterAlerts host alerts 2).session.queue.lines =
          ["VERSION", "GET y", "FILE missing", "GET x", "VERSION"] ∧
        (shell.afterAlerts host alerts 6).session.queue.lines = [] := by
    decide +kernel
  obtain ⟨pending, closed, grown, drained⟩ := evaluated
  have descends : Descends host rank shell :=
    descends_of_closed pending closed
  exact ⟨descends, grown, drained, draining_ends descends alerts⟩

end Shell

end CommandConsole
