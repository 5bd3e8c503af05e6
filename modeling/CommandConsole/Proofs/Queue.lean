import CommandConsole.Queue

namespace CommandConsole.Queue

/-!
# Which lines can be queued

A batch is queued as a whole where all its lines are short enough, and is
otherwise refused with the length of the first line that is not.
-/

variable {queue : Queue} {batch : List String}

/-- A batch of lines that are short enough goes ahead of the pending lines. -/
theorem exists_enqueueBatch
    (short : ∀ line ∈ batch, (line.length : Int) ≤ queue.limit) :
    ∃ next,
      queue.enqueueBatch batch = .ok next ∧
        next.limit = queue.limit ∧ next.lines = batch ++ queue.lines := by
  have allShort : batch.all (accepts queue.limit) = true := by
    simpa [accepts] using short
  rw [enqueueBatch, dif_pos allShort]
  exact ⟨_, rfl, rfl, rfl⟩

/-- A batch is refused for the first of its lines that is too long. -/
theorem enqueueBatch_of_long
    {earlier : List String}
    {long : String}
    (later : List String)
    (short : ∀ line ∈ earlier, (line.length : Int) ≤ queue.limit)
    (tooLong : queue.limit < long.length) :
    queue.enqueueBatch (earlier ++ long :: later) =
      .error (.lineTooLong long.length queue.limit) := by
  have refused : accepts queue.limit long = false := by
    simpa [accepts] using tooLong
  have firstRefused :
      (earlier ++ long :: later).find? (fun line => !accepts queue.limit line) = some long := by
    rw [List.find?_append, List.find?_eq_none.mpr (by simpa [accepts] using short)]
    simp [refused]
  rw [enqueueBatch, dif_neg (by simp [refused]), tooLongFault, firstRefused]
  rfl

/-- A batch is short enough, or it has a first line that is not. -/
theorem short_or_exists_long (limit : Int) (batch : List String) :
    (∀ line ∈ batch, (line.length : Int) ≤ limit) ∨
      ∃ earlier long later,
        batch = earlier ++ long :: later ∧
          (∀ line ∈ earlier, (line.length : Int) ≤ limit) ∧ limit < long.length := by
  induction batch with
  | nil =>
      exact .inl (by simp)
  | cons line batch inductionHypothesis =>
      by_cases short : (line.length : Int) ≤ limit
      · rcases inductionHypothesis with allShort | ⟨earlier, long, later, rfl, before, tooLong⟩
        · exact .inl (List.forall_mem_cons.mpr ⟨short, allShort⟩)
        · exact .inr ⟨line :: earlier, long, later, rfl,
            List.forall_mem_cons.mpr ⟨short, before⟩, tooLong⟩
      · exact .inr ⟨[], line, batch, rfl, by simp, by omega⟩

/-- A line that is short enough is queued behind the pending lines. -/
theorem exists_enqueue
    {line : String}
    (short : (line.length : Int) ≤ queue.limit) :
    ∃ next,
      queue.enqueue line = .ok next ∧
        next.limit = queue.limit ∧ next.lines = queue.lines ++ [line] := by
  have accepted : accepts queue.limit line = true := by
    simpa [accepts] using short
  rw [enqueue, dif_pos accepted]
  exact ⟨_, rfl, rfl, rfl⟩

theorem enqueue_of_long
    {line : String}
    (tooLong : queue.limit < line.length) :
    queue.enqueue line = .error (.lineTooLong line.length queue.limit) := by
  have refused : accepts queue.limit line = false := by
    simpa [accepts] using tooLong
  rw [enqueue, dif_neg (by simp [refused])]
  simp [tooLongFault, refused]

theorem eq_queueEmpty_of_pop
    {fault : Fault}
    (refused : queue.pop = .error fault) :
    fault = .queueEmpty := by
  unfold pop at refused
  split at refused
  · exact nomatch refused
  · exact (Except.error.inj refused).symm

end CommandConsole.Queue
