import CommandConsole.Fault

namespace CommandConsole

/-!
# Pending lines

Single lines queue behind all pending ones. A batch goes ahead of everything
pending and keeps its own order, so the lines of a command file run before
those that were waiting for it. No line is longer than the queue's limit.
-/

/-- Pending lines, the next one first, together with the limit on their length. -/
structure Queue where
  limit : Int
  lines : List String := []
  withinLimit : ∀ line ∈ lines, (line.length : Int) ≤ limit := by simp
  deriving Repr, DecidableEq

namespace Queue

/-- Whether a line is short enough to be queued. -/
def accepts (limit : Int) (line : String) : Bool :=
  line.length ≤ limit

/-- The fault of lines of which the first one that is too long is reported. -/
def tooLongFault (limit : Int) (lines : List String) : Fault :=
  let length := (lines.find? fun line => !accepts limit line).elim 0 String.length
  .lineTooLong length limit

/-- Whether nothing is pending. -/
def isEmpty (queue : Queue) : Bool :=
  queue.lines.isEmpty

/-- The count of pending lines. -/
def size (queue : Queue) : Nat :=
  queue.lines.length

/-- Queue one line behind all pending ones. -/
def enqueue (queue : Queue) (line : String) : Except Fault Queue :=
  if short : accepts queue.limit line then
    .ok {
      limit := queue.limit
      lines := queue.lines ++ [line]
      withinLimit := by
        intro other member
        rcases List.mem_append.mp member with pending | added
        · exact queue.withinLimit other pending
        · rw [List.mem_singleton.mp added]
          exact of_decide_eq_true short
    }
  else
    .error (tooLongFault queue.limit [line])

/-- Queue a batch ahead of all pending lines, or change nothing if a line of it is too long. -/
def enqueueBatch (queue : Queue) (batch : List String) : Except Fault Queue :=
  if short : batch.all (accepts queue.limit) then
    .ok {
      limit := queue.limit
      lines := batch ++ queue.lines
      withinLimit := by
        intro other member
        rcases List.mem_append.mp member with added | pending
        · exact of_decide_eq_true (List.all_eq_true.mp short other added)
        · exact queue.withinLimit other pending
    }
  else
    .error (tooLongFault queue.limit batch)

/-- The queue without its first line. -/
def tail (queue : Queue) : Queue where
  limit :=
    queue.limit
  lines :=
    queue.lines.tail
  withinLimit :=
    fun line member => queue.withinLimit line (List.mem_of_mem_tail member)

/-- Take the first pending line off the queue. -/
def pop (queue : Queue) : Except Fault (String × Queue) :=
  match queue.lines.head? with
  | some line =>
      .ok (line, queue.tail)
  | none =>
      .error .queueEmpty

/-- The queue without any pending line. -/
def clear (queue : Queue) : Queue where
  limit :=
    queue.limit

/-- A line that is accepted stands behind all pending ones. -/
theorem lines_of_enqueue
    {queue next : Queue}
    {line : String}
    (accepted : queue.enqueue line = .ok next) :
    next.lines = queue.lines ++ [line] := by
  unfold enqueue at accepted
  split at accepted
  · exact (Except.ok.inj accepted) ▸ rfl
  · exact nomatch accepted

/-- A batch that is accepted stands ahead of all pending lines. -/
theorem lines_of_enqueueBatch
    {queue next : Queue}
    {batch : List String}
    (accepted : queue.enqueueBatch batch = .ok next) :
    next.lines = batch ++ queue.lines := by
  unfold enqueueBatch at accepted
  split at accepted
  · exact (Except.ok.inj accepted) ▸ rfl
  · exact nomatch accepted

end Queue

end CommandConsole
