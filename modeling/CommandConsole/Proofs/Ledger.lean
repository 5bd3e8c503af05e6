import CommandConsole.Attempt
import CommandConsole.Proofs.Queue
import Mathlib.Data.List.Nodup
import Mathlib.Data.List.Perm.Subperm

namespace CommandConsole

/-!
# What becomes of the lines that a queue accepts

Every line that a queue accepts is given a tag of its own, so that equal lines
are told apart. A ledger is kept beside the queue: it has the accepted
occurrences in the order of their acceptance and says of each whether it was
popped, was discarded or is pending. The ledger balances after every call, and
what is pending never changes places.
-/

/-- One accepted line; no two of them have the same tag. -/
structure Occurrence where
  tag : Nat
  line : String
  deriving Repr, DecidableEq

/-- Lines as occurrences whose tags count on from a first one. -/
def Occurrence.tagged (first : Nat) (lines : List String) : List Occurrence :=
  (lines.zipIdx first).map fun (line, tag) => ⟨tag, line⟩

theorem Occurrence.map_line_tagged (first : Nat) (lines : List String) :
    (tagged first lines).map Occurrence.line = lines := by
  rw [tagged, List.map_map]
  exact List.zipIdx_map_fst first lines

theorem Occurrence.map_tag_tagged (first : Nat) (lines : List String) :
    (tagged first lines).map Occurrence.tag = List.range' first lines.length := by
  rw [tagged, List.map_map]
  exact List.zipIdx_map_snd first lines

theorem Occurrence.le_tag_of_mem_tagged
    {first : Nat}
    {lines : List String}
    {occurrence : Occurrence}
    (member : occurrence ∈ tagged first lines) :
    first ≤ occurrence.tag := by
  have tagMember := List.mem_map_of_mem (f := Occurrence.tag) member
  rw [map_tag_tagged, List.mem_range'_1] at tagMember
  exact tagMember.1

namespace Queue

/-- One call of a queue. -/
inductive Operation where
  | enqueue (line : String)
  | enqueueBatch (lines : List String)
  | pop
  | clear
  deriving Repr, DecidableEq

/-- What a call returns and the queue that it leaves, unless it is refused. -/
def call (queue : Queue) : Operation → Except Fault (Option String × Queue)
  | .enqueue line =>
      (queue.enqueue line).map fun next => (none, next)
  | .enqueueBatch lines =>
      (queue.enqueueBatch lines).map fun next => (none, next)
  | .pop =>
      queue.pop.map fun (line, next) => (some line, next)
  | .clear =>
      .ok (none, queue.clear)

/-- Make a call; one that is refused leaves the queue as it is. -/
def perform (queue : Queue) (operation : Operation) : Attempt Queue (Option String) :=
  match queue.call operation with
  | .ok (returned, next) =>
      ⟨next, .ok returned⟩
  | .error fault =>
      ⟨queue, .error fault⟩

/-- The queue after calls in order, each to whatever outcome. -/
def performAll (queue : Queue) : List Operation → Queue
  | [] =>
      queue
  | operation :: operations =>
      performAll (queue.perform operation).state operations

/-- The lines that calls in order have returned. -/
def returned (queue : Queue) : List Operation → List String
  | [] =>
      []
  | operation :: operations =>
      let performed := queue.perform operation
      performed.outcome.toOption.join.toList ++ returned performed.state operations

section Calls

variable {queue : Queue} {line : String} {lines : List String}

theorem perform_enqueue_of_short (short : (line.length : Int) ≤ queue.limit) :
    ∃ next,
      queue.perform (.enqueue line) = ⟨next, .ok none⟩ ∧
        next.limit = queue.limit ∧ next.lines = queue.lines ++ [line] := by
  obtain ⟨next, accepted, sameLimit, behind⟩ := exists_enqueue short
  refine ⟨next, ?_, sameLimit, behind⟩
  rw [perform, call, accepted]
  rfl

theorem perform_enqueue_of_long (tooLong : queue.limit < line.length) :
    queue.perform (.enqueue line) =
      ⟨queue, .error (.lineTooLong line.length queue.limit)⟩ := by
  rw [perform, call, enqueue_of_long tooLong]
  rfl

theorem perform_enqueueBatch_of_short (short : ∀ line ∈ lines, (line.length : Int) ≤ queue.limit) :
    ∃ next,
      queue.perform (.enqueueBatch lines) = ⟨next, .ok none⟩ ∧
        next.limit = queue.limit ∧ next.lines = lines ++ queue.lines := by
  obtain ⟨next, accepted, sameLimit, ahead⟩ := exists_enqueueBatch short
  refine ⟨next, ?_, sameLimit, ahead⟩
  rw [perform, call, accepted]
  rfl

theorem perform_enqueueBatch_of_long
    {earlier : List String}
    {long : String}
    (later : List String)
    (short : ∀ line ∈ earlier, (line.length : Int) ≤ queue.limit)
    (tooLong : queue.limit < long.length) :
    queue.perform (.enqueueBatch (earlier ++ long :: later)) =
      ⟨queue, .error (.lineTooLong long.length queue.limit)⟩ := by
  rw [perform, call, enqueueBatch_of_long later short tooLong]
  rfl

theorem perform_pop_of_cons (waiting : queue.lines = line :: lines) :
    queue.perform .pop = ⟨queue.tail, .ok (some line)⟩ := by
  rw [perform, call, pop, waiting]
  rfl

theorem perform_pop_of_nil (idle : queue.lines = []) :
    queue.perform .pop = ⟨queue, .error .queueEmpty⟩ := by
  rw [perform, call, pop, idle]
  rfl

end Calls

end Queue

open Queue (Operation)

/-- A queue together with what has become of every occurrence that it has accepted. -/
structure Ledger where
  queue : Queue
  accepted : List Occurrence := []
  popped : List Occurrence := []
  discarded : List Occurrence := []
  /-- The pending occurrences, the next one first. -/
  pending : List Occurrence := []
  deriving Repr, DecidableEq

namespace Ledger

/-- Enter a call that was not refused. -/
def enter (ledger : Ledger) : Operation → Ledger
  | .enqueue line =>
      let added := Occurrence.tagged ledger.accepted.length [line]
      { ledger with
        accepted := ledger.accepted ++ added
        pending := ledger.pending ++ added }
  | .enqueueBatch lines =>
      let added := Occurrence.tagged ledger.accepted.length lines
      { ledger with
        accepted := ledger.accepted ++ added
        pending := added ++ ledger.pending }
  | .pop =>
      { ledger with
        popped := ledger.popped ++ ledger.pending.take 1
        pending := ledger.pending.tail }
  | .clear =>
      { ledger with
        discarded := ledger.discarded ++ ledger.pending
        pending := [] }

/-- Make a call of the queue and enter it unless it is refused. -/
def perform (ledger : Ledger) (operation : Operation) : Attempt Ledger (Option String) :=
  let performed := ledger.queue.perform operation
  match performed.outcome with
  | .ok returned =>
      ⟨{ ledger.enter operation with queue := performed.state }, .ok returned⟩
  | .error fault =>
      ⟨ledger, .error fault⟩

/-- The ledger after calls in order, each to whatever outcome. -/
def performAll (ledger : Ledger) : List Operation → Ledger
  | [] =>
      ledger
  | operation :: operations =>
      performAll (ledger.perform operation).state operations

/-- The ledger accounts for the queue and for every accepted occurrence. -/
structure Balanced (ledger : Ledger) : Prop where
  /-- What is pending in the ledger is pending in the queue, in the same order. -/
  lines : ledger.queue.lines = ledger.pending.map Occurrence.line
  /-- The tags count the accepted occurrences, so no two of these are the same. -/
  tags : ledger.accepted.map Occurrence.tag = List.range ledger.accepted.length
  /-- Each accepted occurrence is popped, discarded or pending, and so only once; no other is. -/
  conserved : (ledger.popped ++ ledger.discarded ++ ledger.pending).Perm ledger.accepted

/-- How each call changes what is pending, and which calls are refused. -/
structure FollowsRules (ledger : Ledger) : Prop where
  enqueued :
    ∀ line : String, (line.length : Int) ≤ ledger.queue.limit →
      (ledger.perform (.enqueue line)).outcome = .ok none ∧
        (ledger.perform (.enqueue line)).state.pending =
          ledger.pending ++ Occurrence.tagged ledger.accepted.length [line]
  batchEnqueued :
    ∀ lines : List String, (∀ line ∈ lines, (line.length : Int) ≤ ledger.queue.limit) →
      (ledger.perform (.enqueueBatch lines)).outcome = .ok none ∧
        (ledger.perform (.enqueueBatch lines)).state.pending =
          Occurrence.tagged ledger.accepted.length lines ++ ledger.pending
  refused :
    ∀ line : String, ledger.queue.limit < line.length →
      ledger.perform (.enqueue line) =
        ⟨ledger, .error (.lineTooLong line.length ledger.queue.limit)⟩
  /-- The first line that is too long is reported, wherever in the batch it is. -/
  batchRefused :
    ∀ (earlier : List String) (long : String) (later : List String),
      (∀ line ∈ earlier, (line.length : Int) ≤ ledger.queue.limit) →
        ledger.queue.limit < long.length →
          ledger.perform (.enqueueBatch (earlier ++ long :: later)) =
            ⟨ledger, .error (.lineTooLong long.length ledger.queue.limit)⟩
  taken :
    ∀ first rest, ledger.pending = first :: rest →
      (ledger.perform .pop).outcome = .ok (some first.line) ∧
        (ledger.perform .pop).state.pending = rest ∧
        (ledger.perform .pop).state.popped = ledger.popped ++ [first]
  empty : ledger.pending = [] → ledger.perform .pop = ⟨ledger, .error .queueEmpty⟩
  cleared :
    (ledger.perform .clear).outcome = .ok none ∧
      (ledger.perform .clear).state.pending = [] ∧
      (ledger.perform .clear).state.discarded = ledger.discarded ++ ledger.pending

section Steps

variable {ledger : Ledger} {operation : Operation}

theorem perform_of_ok
    {next : Queue}
    {returned : Option String}
    (performed : ledger.queue.perform operation = ⟨next, .ok returned⟩) :
    ledger.perform operation =
      ⟨{ ledger.enter operation with queue := next }, .ok returned⟩ := by
  rw [perform, performed]

theorem perform_of_error
    {same : Queue}
    {fault : Fault}
    (performed : ledger.queue.perform operation = ⟨same, .error fault⟩) :
    ledger.perform operation = ⟨ledger, .error fault⟩ := by
  rw [perform, performed]

theorem Balanced.followsRules (balanced : ledger.Balanced) : ledger.FollowsRules where
  enqueued := by
    intro line short
    obtain ⟨next, performed, _⟩ := Queue.perform_enqueue_of_short short
    rw [perform_of_ok performed]
    exact ⟨rfl, rfl⟩
  batchEnqueued := by
    intro lines short
    obtain ⟨next, performed, _⟩ := Queue.perform_enqueueBatch_of_short short
    rw [perform_of_ok performed]
    exact ⟨rfl, rfl⟩
  refused := fun _ tooLong => perform_of_error (Queue.perform_enqueue_of_long tooLong)
  batchRefused := fun _ _ later short tooLong =>
    perform_of_error (Queue.perform_enqueueBatch_of_long later short tooLong)
  taken := by
    intro first rest waiting
    have lines := balanced.lines
    rw [waiting, List.map_cons] at lines
    rw [perform_of_ok (Queue.perform_pop_of_cons lines)]
    simp [enter, waiting]
  empty := by
    intro idle
    have lines := balanced.lines
    rw [idle, List.map_nil] at lines
    exact perform_of_error (Queue.perform_pop_of_nil lines)
  cleared := ⟨rfl, rfl, rfl⟩

/-- A call is refused and changes nothing, or it is entered as the queue makes it. -/
theorem Balanced.perform_cases (balanced : ledger.Balanced) (operation : Operation) :
    (∃ fault,
      ledger.queue.perform operation = ⟨ledger.queue, .error fault⟩ ∧
        ledger.perform operation = ⟨ledger, .error fault⟩) ∨
      ∃ next returned,
        ledger.queue.perform operation = ⟨next, .ok returned⟩ ∧
        ledger.perform operation =
          ⟨{ ledger.enter operation with queue := next }, .ok returned⟩ ∧
        next.limit = ledger.queue.limit ∧
        next.lines = (ledger.enter operation).pending.map Occurrence.line ∧
        (ledger.enter operation).popped.map Occurrence.line =
          ledger.popped.map Occurrence.line ++ returned.toList := by
  have refusedWith {fault : Fault}
      (called : ledger.queue.perform operation = ⟨ledger.queue, .error fault⟩) :
      ∃ fault,
        ledger.queue.perform operation = ⟨ledger.queue, .error fault⟩ ∧
          ledger.perform operation = ⟨ledger, .error fault⟩ :=
    ⟨fault, called, perform_of_error called⟩
  cases operation with
  | enqueue line =>
      by_cases short : (line.length : Int) ≤ ledger.queue.limit
      · obtain ⟨next, called, sameLimit, behind⟩ := Queue.perform_enqueue_of_short short
        refine .inr ⟨next, none, called, perform_of_ok called, sameLimit, ?_, ?_⟩
        · rw [behind, balanced.lines, enter, List.map_append, Occurrence.map_line_tagged]
        · simp [enter]
      · exact .inl (refusedWith (Queue.perform_enqueue_of_long (Int.not_le.mp short)))
  | enqueueBatch lines =>
      rcases Queue.short_or_exists_long ledger.queue.limit lines with
        short | ⟨earlier, long, later, rfl, short, tooLong⟩
      · obtain ⟨next, called, sameLimit, ahead⟩ := Queue.perform_enqueueBatch_of_short short
        refine .inr ⟨next, none, called, perform_of_ok called, sameLimit, ?_, ?_⟩
        · rw [ahead, balanced.lines, enter, List.map_append, Occurrence.map_line_tagged]
        · simp [enter]
      · exact .inl (refusedWith (Queue.perform_enqueueBatch_of_long later short tooLong))
  | pop =>
      have lines := balanced.lines
      cases waiting : ledger.pending with
      | nil =>
          rw [waiting, List.map_nil] at lines
          exact .inl (refusedWith (Queue.perform_pop_of_nil lines))
      | cons first rest =>
          rw [waiting, List.map_cons] at lines
          have called := Queue.perform_pop_of_cons lines
          refine .inr ⟨_, _, called, perform_of_ok called, rfl, ?_, ?_⟩
          · simp [Queue.tail, lines, enter, waiting]
          · simp [enter, waiting]
  | clear =>
      exact .inr ⟨_, none, rfl, rfl, rfl, rfl, by simp [enter]⟩

/-- Entering a call keeps the tags in count and gives a place to every occurrence. -/
theorem Balanced.enter
    (balanced : ledger.Balanced)
    (operation : Operation) :
    (ledger.enter operation).accepted.map Occurrence.tag =
        List.range (ledger.enter operation).accepted.length ∧
      ((ledger.enter operation).popped ++ (ledger.enter operation).discarded ++
        (ledger.enter operation).pending).Perm (ledger.enter operation).accepted := by
  have counted (lines : List String) :
      (ledger.accepted ++ Occurrence.tagged ledger.accepted.length lines).map Occurrence.tag =
        List.range
          (ledger.accepted ++ Occurrence.tagged ledger.accepted.length lines).length := by
    have sameCount := congrArg List.length
      (Occurrence.map_line_tagged ledger.accepted.length lines)
    rw [List.length_map] at sameCount
    rw [List.map_append, balanced.tags, Occurrence.map_tag_tagged, List.length_append, sameCount,
      List.range_eq_range', List.range_eq_range', ← List.range'_append_1, Nat.zero_add]
  cases operation with
  | enqueue line =>
      refine ⟨counted [line], ?_⟩
      simpa only [Ledger.enter, List.append_assoc] using balanced.conserved.append_right _
  | enqueueBatch lines =>
      refine ⟨counted lines, ?_⟩
      let added := Occurrence.tagged ledger.accepted.length lines
      have swapped : (added ++ ledger.pending).Perm (ledger.pending ++ added) :=
        List.perm_append_comm
      refine (swapped.append_left (ledger.popped ++ ledger.discarded)).trans ?_
      simpa only [Ledger.enter, List.append_assoc] using balanced.conserved.append_right added
  | pop =>
      refine ⟨balanced.tags, List.Perm.trans ?_ balanced.conserved⟩
      cases waiting : ledger.pending with
      | nil =>
          simp [Ledger.enter, waiting]
      | cons first rest =>
          have moved : (first :: (ledger.discarded ++ rest)).Perm
              (ledger.discarded ++ first :: rest) :=
            List.perm_middle.symm
          simpa [Ledger.enter, waiting] using moved.append_left ledger.popped
  | clear =>
      refine ⟨balanced.tags, ?_⟩
      simpa [Ledger.enter] using balanced.conserved

/-- Entering a call puts new occurrences at one end, and keeps the order of those that stay. -/
theorem enter_pending (ledger : Ledger) (operation : Operation) :
    ∃ ahead kept behind,
      (ledger.enter operation).pending = ahead ++ kept ++ behind ∧
        kept.Sublist ledger.pending ∧
        (∀ occurrence ∈ ahead ++ behind, ledger.accepted.length ≤ occurrence.tag) := by
  cases operation with
  | enqueue line =>
      refine ⟨[], ledger.pending, Occurrence.tagged ledger.accepted.length [line], by simp [enter],
        List.Sublist.refl _, ?_⟩
      intro occurrence member
      exact Occurrence.le_tag_of_mem_tagged member
  | enqueueBatch lines =>
      refine ⟨Occurrence.tagged ledger.accepted.length lines, ledger.pending, [], by simp [enter],
        List.Sublist.refl _, ?_⟩
      intro occurrence member
      rw [List.append_nil] at member
      exact Occurrence.le_tag_of_mem_tagged member
  | pop =>
      exact ⟨[], ledger.pending.tail, [], by simp [enter], List.tail_sublist _, by simp⟩
  | clear =>
      exact ⟨[], [], [], by simp [enter], List.nil_sublist _, by simp⟩

/-- What has happened to an occurrence is not taken back. -/
structure Extends (before after : Ledger) : Prop where
  accepted : before.accepted <+: after.accepted
  popped : before.popped <+: after.popped
  discarded : before.discarded <+: after.discarded

theorem Extends.refl (ledger : Ledger) : ledger.Extends ledger :=
  ⟨List.prefix_rfl, List.prefix_rfl, List.prefix_rfl⟩

theorem Extends.trans
    {first second third : Ledger}
    (earlier : first.Extends second)
    (later : second.Extends third) :
    first.Extends third where
  accepted := earlier.accepted.trans later.accepted
  popped := earlier.popped.trans later.popped
  discarded := earlier.discarded.trans later.discarded

theorem extends_enter (ledger : Ledger) (operation : Operation) :
    ledger.Extends (ledger.enter operation) := by
  cases operation with
  | enqueue line
  | enqueueBatch lines =>
      exact ⟨List.prefix_append _ _, List.prefix_rfl, List.prefix_rfl⟩
  | pop =>
      exact ⟨List.prefix_rfl, List.prefix_append _ _, List.prefix_rfl⟩
  | clear =>
      exact ⟨List.prefix_rfl, List.prefix_rfl, List.prefix_append _ _⟩

/-- The occurrences with a tag below a bound among those that are pending. -/
def pendingBelow (ledger : Ledger) (bound : Nat) : List Occurrence :=
  ledger.pending.filter fun occurrence => occurrence.tag < bound

/-- A call brings in no occurrence that was accepted before, and moves none of these. -/
theorem pendingBelow_enter
    {bound : Nat}
    (accepted : bound ≤ ledger.accepted.length)
    (operation : Operation) :
    ((ledger.enter operation).pendingBelow bound).Sublist (ledger.pendingBelow bound) := by
  obtain ⟨ahead, kept, behind, shape, sublist, new⟩ := ledger.enter_pending operation
  have noneBelow (added : List Occurrence) (isNew : added ⊆ ahead ++ behind) :
      (added.filter fun occurrence => occurrence.tag < bound) = [] := by
    rw [List.filter_eq_nil_iff]
    intro occurrence member
    have atLeast := new occurrence (isNew member)
    simpa using Nat.le_trans accepted atLeast
  rw [pendingBelow, shape, List.filter_append, List.filter_append,
    noneBelow ahead (List.subset_append_left _ _), noneBelow behind (List.subset_append_right _ _),
    List.nil_append, List.append_nil]
  exact sublist.filter _

/-- What one call does to a ledger that balances. -/
structure Advances (before after : Ledger) : Prop where
  balanced : after.Balanced
  limit : after.queue.limit = before.queue.limit
  history : before.Extends after
  ordered :
    ∀ bound ≤ before.accepted.length,
      (after.pendingBelow bound).Sublist (before.pendingBelow bound)

theorem Balanced.advances (balanced : ledger.Balanced) (operation : Operation) :
    ledger.Advances (ledger.perform operation).state := by
  rcases balanced.perform_cases operation with
    ⟨fault, _, refused⟩ | ⟨next, returned, _, performed, sameLimit, lines, _⟩
  · rw [refused]
    exact ⟨balanced, rfl, .refl ledger, fun _ _ => List.Sublist.refl _⟩
  · rw [performed]
    obtain ⟨tags, conserved⟩ := balanced.enter operation
    obtain ⟨accepted, popped, discarded⟩ := ledger.extends_enter operation
    exact ⟨⟨lines, tags, conserved⟩, sameLimit, ⟨accepted, popped, discarded⟩,
      fun _ within => pendingBelow_enter within operation⟩

end Steps

section Runs

variable {ledger : Ledger}

theorem Balanced.advances_performAll
    (balanced : ledger.Balanced)
    (operations : List Operation) :
    ledger.Advances (ledger.performAll operations) := by
  induction operations generalizing ledger with
  | nil =>
      exact ⟨balanced, rfl, .refl ledger, fun _ _ => List.Sublist.refl _⟩
  | cons operation operations inductionHypothesis =>
      have first := balanced.advances operation
      have later := inductionHypothesis first.balanced
      refine ⟨later.balanced, later.limit.trans first.limit, first.history.trans later.history, ?_⟩
      intro bound within
      exact (later.ordered bound (Nat.le_trans within first.history.accepted.length_le)).trans
        (first.ordered bound within)

/-- The ledger follows the calls of the queue and enters what they return as popped. -/
theorem Balanced.performAll_queue
    (balanced : ledger.Balanced)
    (operations : List Operation) :
    (ledger.performAll operations).queue = ledger.queue.performAll operations ∧
      (ledger.performAll operations).popped.map Occurrence.line =
        ledger.popped.map Occurrence.line ++ ledger.queue.returned operations := by
  induction operations generalizing ledger with
  | nil =>
      simp [performAll, Queue.performAll, Queue.returned]
  | cons operation operations inductionHypothesis =>
      obtain ⟨sameQueue, popped⟩ := inductionHypothesis (balanced.advances operation).balanced
      rw [performAll, Queue.performAll, Queue.returned, sameQueue, popped]
      rcases balanced.perform_cases operation with
        ⟨fault, called, refused⟩ | ⟨next, returned, called, performed, _, _, poppedLines⟩
      · rw [called, refused]
        exact ⟨rfl, by simp [Except.toOption]⟩
      · rw [called, performed]
        refine ⟨rfl, ?_⟩
        simp [poppedLines, Except.toOption]

/-- No occurrence is accepted twice. -/
theorem Balanced.nodup_accepted (balanced : ledger.Balanced) : ledger.accepted.Nodup := by
  apply List.Nodup.of_map Occurrence.tag
  rw [balanced.tags]
  exact List.nodup_range

theorem Balanced.nodup_pending (balanced : ledger.Balanced) : ledger.pending.Nodup := by
  have everywhere := balanced.conserved.nodup_iff.mpr balanced.nodup_accepted
  exact everywhere.sublist (List.sublist_append_right _ _)

theorem Balanced.tag_lt
    (balanced : ledger.Balanced)
    {occurrence : Occurrence}
    (pending : occurrence ∈ ledger.pending) :
    occurrence.tag < ledger.accepted.length := by
  have accepted : occurrence ∈ ledger.accepted :=
    balanced.conserved.subset (List.mem_append_right _ pending)
  have tagMember := List.mem_map_of_mem (f := Occurrence.tag) accepted
  rwa [balanced.tags, List.mem_range] at tagMember

/-- An accepted occurrence has exactly one place, and it is there once. -/
theorem Balanced.count_places
    (balanced : ledger.Balanced)
    {occurrence : Occurrence}
    (accepted : occurrence ∈ ledger.accepted) :
    ledger.popped.count occurrence + ledger.discarded.count occurrence +
      ledger.pending.count occurrence = 1 := by
  rw [← List.count_append, ← List.count_append, balanced.conserved.count_eq]
  exact List.count_eq_one_of_mem balanced.nodup_accepted accepted

/-- One pending occurrence is to be popped before another one. -/
def Ahead (ledger : Ledger) (first second : Occurrence) : Prop :=
  [first, second].Sublist ledger.pending

/-- Occurrences that are pending before and after some calls have kept their order. -/
theorem Advances.ahead_iff
    {before after : Ledger}
    (advances : before.Advances after)
    (balanced : before.Balanced)
    {first second : Occurrence}
    (pendingBefore : first ∈ before.pending ∧ second ∈ before.pending)
    (pendingAfter : first ∈ after.pending ∧ second ∈ after.pending) :
    before.Ahead first second ↔ after.Ahead first second := by
  let common := after.pendingBelow before.accepted.length
  have fromAfter : common.Sublist after.pending :=
    List.filter_sublist
  have fromBefore : common.Sublist before.pending :=
    (advances.ordered _ (Nat.le_refl _)).trans List.filter_sublist
  have firstBelow := balanced.tag_lt pendingBefore.1
  have secondBelow := balanced.tag_lt pendingBefore.2
  constructor
  · intro ahead
    let pair := common.filter fun occurrence => occurrence ∈ [first, second]
    have pairBefore : pair.Sublist before.pending :=
      List.filter_sublist.trans fromBefore
    have sameMembers : pair.Perm [first, second] := by
      rw [List.perm_ext_iff_of_nodup (pairBefore.nodup balanced.nodup_pending)
        (ahead.nodup balanced.nodup_pending)]
      intro occurrence
      simp only [pair, common, pendingBelow, List.mem_filter, decide_eq_true_iff]
      refine ⟨And.right, fun isOne => ⟨?_, isOne⟩⟩
      rcases List.mem_pair.mp isOne with rfl | rfl
      · exact ⟨pendingAfter.1, firstBelow⟩
      · exact ⟨pendingAfter.2, secondBelow⟩
    have samePair : pair = [first, second] :=
      (balanced.nodup_pending.perm_iff_eq_of_sublist pairBefore ahead).mp sameMembers
    rw [Ahead, ← samePair]
    exact List.filter_sublist.trans fromAfter
  · intro ahead
    have kept := ahead.filter fun occurrence => occurrence.tag < before.accepted.length
    rw [List.filter_cons_of_pos (by simpa using firstBelow),
      List.filter_cons_of_pos (by simpa using secondBelow), List.filter_nil] at kept
    exact kept.trans fromBefore

end Runs

/-- Nothing is pending and nothing was ever accepted. -/
theorem balanced_empty (limit : Int) : ({ queue := { limit := limit } } : Ledger).Balanced :=
  ⟨rfl, rfl, .nil⟩

/--
A queue keeps its lines and their order, whatever is called in whatever order.
A ledger that is kept beside it accounts for what is pending and for the lines
that were returned; each accepted occurrence is popped, discarded or pending,
and exactly one of these; no pending line is longer than the limit; every call
does to the pending occurrences what the rules say; what was popped or discarded
stays so; and two occurrences that are pending both now and later stand in the
same order.
-/
theorem lines_keep_their_order_until_they_leave
    (limit : Int)
    (earlier later : List Operation) :
    let queue : Queue := { limit := limit }
    let before := ({ queue := queue } : Ledger).performAll earlier
    let after := before.performAll later
    (before.queue = queue.performAll earlier ∧ before.queue.limit = limit ∧
      before.popped.map Occurrence.line = queue.returned earlier) ∧
    before.Balanced ∧
    (∀ occurrence ∈ before.accepted,
      before.popped.count occurrence + before.discarded.count occurrence +
        before.pending.count occurrence = 1) ∧
    (∀ occurrence ∈ before.pending, (occurrence.line.length : Int) ≤ limit) ∧
    before.FollowsRules ∧
    before.Extends after ∧
    (∀ first second,
      first ∈ before.pending ∧ second ∈ before.pending →
        first ∈ after.pending ∧ second ∈ after.pending →
          (before.Ahead first second ↔ after.Ahead first second)) := by
  intro queue before after
  have start := balanced_empty limit
  have reached := start.advances_performAll earlier
  have balanced : before.Balanced := reached.balanced
  have onward : before.Advances after := balanced.advances_performAll later
  obtain ⟨sameQueue, popped⟩ := start.performAll_queue earlier
  refine ⟨⟨sameQueue, reached.limit, popped⟩, balanced, fun _ => balanced.count_places, ?_,
    balanced.followsRules, onward.history, fun _ _ => onward.ahead_iff balanced⟩
  intro occurrence pending
  have line : occurrence.line ∈ before.queue.lines := by
    rw [balanced.lines]
    exact List.mem_map_of_mem pending
  have short := before.queue.withinLimit occurrence.line line
  rwa [reached.limit] at short

/-- A batch goes ahead of an equal line, and both keep their places when a later batch is refused. -/
theorem lines_keep_their_order_with_equal_lines :
    let earlier : List Operation :=
      [.enqueue "GET", .enqueueBatch ["SET", "GET"], .pop]
    let later : List Operation :=
      [.enqueueBatch ["GET", "VERSION"], .enqueueBatch ["EXIT"], .pop]
    let before := ({ queue := ⟨4, [], by decide⟩ } : Ledger).performAll earlier
    let after := before.performAll later
    before.popped = [⟨1, "SET"⟩] ∧
      before.pending = [⟨2, "GET"⟩, ⟨0, "GET"⟩] ∧
      before.perform (.enqueueBatch ["GET", "VERSION"]) = ⟨before, .error (.lineTooLong 7 4)⟩ ∧
      after.Ahead ⟨2, "GET"⟩ ⟨0, "GET"⟩ := by
  intro earlier later before after
  obtain ⟨⟨_, sameLimit, _⟩, _, _, _, rules, _, ordered⟩ :=
    lines_keep_their_order_until_they_leave 4 earlier later
  have evaluated :
      before.popped = [⟨1, "SET"⟩] ∧
        before.pending = [⟨2, "GET"⟩, ⟨0, "GET"⟩] ∧
        after.pending = [⟨2, "GET"⟩, ⟨0, "GET"⟩] := by
    decide +kernel
  obtain ⟨popped, pending, pendingLater⟩ := evaluated
  have refused := rules.batchRefused ["GET"] "VERSION" []
    (by rw [sameLimit]; decide) (by rw [sameLimit]; decide)
  rw [sameLimit] at refused
  refine ⟨popped, pending, refused, ?_⟩
  refine (ordered ⟨2, "GET"⟩ ⟨0, "GET"⟩ ?_ ?_).mp ?_
  · rw [pending]
    simp
  · rw [pendingLater]
    simp
  · rw [Ahead, pending]

end Ledger

end CommandConsole
