import CommandConsole.Proofs.Failure
import CommandConsole.Proofs.Text.Lines
import CommandConsole.Proofs.Text.Utf8.Decoding
import Mathlib.Data.List.TakeWhile

namespace CommandConsole

open Text (Cut withRest)

/-!
# What a command file queues

A command file whose bytes are the form of a text is queued line by line, and a
file whose bytes are not is refused, wherever the pieces end that it is read in.
A file that the operating system cannot read to its end is refused as well. In
any case the lines that are read are logged, and the pending lines change as a
whole or not at all.
-/

namespace FileSystem.Content

variable {text rest : List Char} {ended : List (List Char)} {bytes : List UInt8}

/-- A line is trimmed to what is left without the carriage returns at its end. -/
theorem trimLine_eq_iff {piece : List Char} {line : String} :
    trimLine piece = line ↔
      ∃ count, piece = line.toList ++ List.replicate count '\r' ∧
        line.toList.getLast? ≠ some '\r' := by
  constructor
  · rintro rfl
    have parts := List.takeWhile_append_dropWhile (p := (· == '\r')) (l := piece.reverse)
    have returns : piece.reverse.takeWhile (· == '\r') =
        List.replicate (piece.reverse.takeWhile (· == '\r')).length '\r' := by
      refine List.eq_replicate_of_mem fun character member => ?_
      simpa using List.mem_takeWhile_imp member
    refine ⟨(piece.reverse.takeWhile (· == '\r')).length, ?_, ?_⟩
    · rw [trimLine, String.toList_ofList, Text.dropTrailing, ← List.reverse_replicate, ← returns,
        ← List.reverse_append, parts, List.reverse_reverse]
    · rw [trimLine, String.toList_ofList, Text.dropTrailing, List.getLast?_reverse]
      intro last
      have kept := List.head?_dropWhile_not (· == '\r') piece.reverse
      rw [last] at kept
      simp at kept
  · rintro ⟨count, rfl, kept⟩
    rw [trimLine]
    induction count with
    | zero =>
        rw [List.replicate_zero, List.append_nil]
        rcases List.eq_nil_or_concat line.toList with empty | ⟨initial, last, whole⟩
        · rw [empty]
          exact String.toList_injective (by simp [Text.dropTrailing, empty])
        · rw [List.concat_eq_append] at whole
          rw [whole, List.getLast?_concat] at kept
          rw [whole, Text.dropTrailing_concat_of_keeps (by simpa using kept), ← whole,
            String.ofList_toList]
    | succ count inductionHypothesis =>
        rw [List.replicate_succ', ← List.append_assoc,
          Text.dropTrailing_concat_of_drops (by simp), inductionHypothesis]

/-- The form of a text is read as the lines of the text, whatever the pieces it is read in. -/
theorem ofReadout_encode (cut : Cut text ended rest) :
    ofReadout { bytes := Text.Utf8.encode text } =
      ⟨(withRest ended rest).map trimLine, none⟩ := by
  rw [ofReadout, ofBytes, Text.Utf8.decodeChunks_chunksOf_encode]
  simp [ofDecoded, cut.lines_eq]

/-- Bytes that are the form of no text are refused behind the lines that are ended by then. -/
theorem exists_ofReadout_of_invalid (invalid : ∀ text, bytes ≠ Text.Utf8.encode text) :
    ∃ text ended rest defect,
      Cut text ended rest ∧
        Text.Utf8.Refusal (fun count => bytes.take (count * chunkSize)) bytes text defect ∧
        ofReadout { bytes := bytes } = ⟨ended.map trimLine, some (.undecodable defect)⟩ := by
  have positive : 0 < chunkSize := by
    decide
  obtain ⟨text, defect, decoded, refusal⟩ :=
    Text.Utf8.exists_refusal_of_chunksOf positive invalid
  obtain ⟨ended, rest, cut⟩ := Text.exists_cut text
  refine ⟨text, ended, rest, defect, cut, refusal, ?_⟩
  rw [ofReadout, ofBytes, decoded]
  simp [ofDecoded, cut.endedLines_eq]

/-- What is read up to a fault are the lines that are ended by then, if there is no defect. -/
theorem exists_ofReadout_of_broken (bytes : List UInt8) (fault : SystemFault) :
    ∃ text ended rest obstacle,
      Cut text ended rest ∧
        ofReadout ⟨bytes, some fault⟩ = ⟨ended.map trimLine, some obstacle⟩ ∧
        ((obstacle = .unreadable fault ∧ ∃ left, Text.Utf8.Decodes bytes text left) ∨
          ∃ defect,
            obstacle = .undecodable defect ∧
              Text.Utf8.Refusal (fun count => bytes.take (count * chunkSize)) bytes text
                defect) := by
  have positive : 0 < chunkSize := by
    decide
  rcases Text.Utf8.decodeAvailable_chunksOf_cases positive bytes with
    ⟨text, left, available, decodes⟩ | ⟨text, defect, refused, refusal⟩
  · obtain ⟨ended, rest, cut⟩ := Text.exists_cut text
    refine ⟨text, ended, rest, .unreadable fault, cut, ?_, .inl ⟨rfl, left, decodes⟩⟩
    show ofBytesBefore fault bytes = _
    rw [ofBytesBefore, available]
    simp [ofDecoded, cut.endedLines_eq]
  · obtain ⟨ended, rest, cut⟩ := Text.exists_cut text
    refine ⟨text, ended, rest, .undecodable defect, cut, ?_, .inr ⟨defect, rfl, refusal⟩⟩
    show ofBytesBefore fault bytes = _
    rw [ofBytesBefore, refused]
    simp [ofDecoded, cut.endedLines_eq]

end FileSystem.Content

open FileSystem (Path Content Readout)

/-- A host opens a path as a file of which the given bytes are read, to its end or to a fault. -/
structure Host.Opens (host : Host) (path : Path) (readout : Readout) : Prop where
  usable : '\x00' ∉ path.text.toList
  opened : host.openFile path = .ok readout

theorem Host.read_of_opens
    {host : Host}
    {path : Path}
    {readout : Readout}
    (opens : host.Opens path readout) :
    host.read path = .ok readout := by
  have usable : path.text.toList.contains '\x00' = false := by
    simpa using opens.usable
  rw [Host.read, opens.opened, usable]

/-- The acts of reading the lines of a command file. -/
def Act.reading (lines : List String) : List Act :=
  lines.flatMap fun line => [.poll, .log (.lineRead line)]

/-- A file that is opened is read line by line, and queued if it is read to its end. -/
theorem Builtin.performFile_of_opens
    {host : Host}
    {argument : String}
    {readout : Readout}
    (opens : host.Opens (.ofText argument) readout) :
    performFile host argument =
      ⟨Act.reading (Content.ofReadout readout).lines,
        queueContent (Path.ofText argument).text (Content.ofReadout readout)⟩ := by
  have read : (Script.ofExcept (host.read (.ofText argument))).outcome = .ok readout :=
    host.read_of_opens opens
  have logged (acts : List Act) : (Script.perform acts).outcome = .ok () :=
    rfl
  simp only [performFile]
  rw [Script.bind_of_ok read, Script.bind_of_ok (logged _)]
  exact congrArg (Script.mk · _) (List.append_nil _)

namespace Session

theorem kept_afterActs (session : Session) (acts : List Act) :
    session.Kept (session.afterActs acts) :=
  ⟨rfl, rfl, rfl, rfl, rfl⟩

/-- Running a line that opens a command file logs the lines of the file and concludes. -/
theorem run_of_file
    {session : Session}
    {host : Host}
    {line : String}
    {invocation : Invocation}
    {readout : Readout}
    (undisturbed : session.Undisturbed (session.scope.interpret host line).pollCount)
    (parsed : (session.parse line).outcome = .ok (some invocation))
    (isFile : invocation.command.action = .builtin .file)
    (opens : host.Opens (.ofText (invocation.arguments.getD 0 "")) readout) :
    ∃ read : Session,
      session.Kept read ∧
        read.log = session.log ++ ((Content.ofReadout readout).lines.map .lineRead).toArray ∧
        session.run host line =
          read.conclude
            (Builtin.queueContent (Path.ofText (invocation.arguments.getD 0 "")).text
              (Content.ofReadout readout)) := by
  have performed :
      invocation.perform session.scope host =
        Builtin.performFile host (invocation.arguments.getD 0 "") := by
    simp only [Invocation.perform, isFile, Builtin.perform]
  have silent :
      Act.events (Invocation.ofLine? session.registry session.store line).acts = [] :=
    List.eq_nil_iff_forall_not_mem.mpr (Invocation.within_ofLine? _ _ _).logged
  have polledFirst :
      (Invocation.ofLine? session.registry session.store line).pollCount ≤
        (session.scope.interpret host line).pollCount :=
    Script.pollCount_le_bind _ _
  rw [outcome_parse_of_undisturbed (undisturbed.mono polledFirst)] at parsed
  have interpreted : session.scope.interpret host line =
      ⟨(Invocation.ofLine? session.registry session.store line).acts ++
          Act.reading (Content.ofReadout readout).lines,
        Builtin.queueContent (Path.ofText (invocation.arguments.getD 0 "")).text
          (Content.ofReadout readout)⟩ := by
    refine (Script.bind_of_ok parsed).trans ?_
    simp only [performed, Builtin.performFile_of_opens opens]
  refine ⟨session.afterActs (session.scope.interpret host line).acts,
    session.kept_afterActs _, ?_, ?_⟩
  · simp [afterActs, interpreted, silent, Act.reading, Act.events_polled_and_logged]
  · rw [run_of_undisturbed undisturbed, interpreted]

/--
What running a line comes to that reads a command file with the given lines. If
all of them are short enough they go ahead of the pending lines; otherwise the
first one that is not is reported, and nothing changes. All are logged either way.
-/
structure QueuesFile
    (before : Session)
    (path : String)
    (lines : List String)
    (ran : Attempt Session Reply) :
    Prop where
  queued : (∀ line ∈ lines, (line.length : Int) ≤ before.queue.limit) →
    ran.outcome = .ok (.queued path lines.length) ∧
      ran.state.queue.limit = before.queue.limit ∧
      ran.state.queue.lines = lines ++ before.queue.lines ∧
      { before with queue := ran.state.queue }.Kept ran.state ∧
      ran.state.log =
        before.log ++ (lines.map .lineRead).toArray ++
          #[.batchQueued lines.length ran.state.queue.size]
  refused : ∀ earlier long later, lines = earlier ++ long :: later →
    (∀ line ∈ earlier, (line.length : Int) ≤ before.queue.limit) →
    before.queue.limit < long.length →
      ran.outcome = .error (.lineTooLong long.length before.queue.limit) ∧
        before.Kept ran.state ∧
        ran.state.log = before.log ++ (lines.map .lineRead).toArray

theorem queuesFile_of_kept
    {before read : Session}
    {path : String}
    {lines : List String}
    (kept : before.Kept read)
    (logged : read.log = before.log ++ (lines.map .lineRead).toArray) :
    before.QueuesFile path lines
      (read.conclude (.ok ⟨.queueAhead lines, .queued path lines.length⟩)) := by
  constructor
  · intro short
    rw [← kept.queue] at short
    obtain ⟨next, accepted, sameLimit, ahead⟩ := Queue.exists_enqueueBatch short
    rw [kept.queue] at sameLimit ahead
    simp only [conclude, apply, enqueueBatch, accepted]
    refine ⟨rfl, sameLimit, ahead, ⟨rfl, kept.store, kept.registry, kept.stop, kept.exits⟩, ?_⟩
    show read.log.push _ = _
    rw [logged, Array.push_eq_append]
    rfl
  · rintro earlier long later rfl short tooLong
    rw [← kept.queue] at short tooLong
    have refused := Queue.enqueueBatch_of_long later short tooLong
    simp only [conclude, apply, enqueueBatch, refused]
    exact ⟨by rw [kept.queue]; rfl, kept, logged⟩

section Reading

variable {session : Session} {host : Host} {line : String}
variable {invocation : Invocation} {bytes : List UInt8}

theorem queuesFile_of_encode
    {text rest : List Char}
    {ended : List (List Char)}
    (undisturbed : session.Undisturbed (session.scope.interpret host line).pollCount)
    (parsed : (session.parse line).outcome = .ok (some invocation))
    (isFile : invocation.command.action = .builtin .file)
    (opens :
      host.Opens (.ofText (invocation.arguments.getD 0 "")) { bytes := Text.Utf8.encode text })
    (cut : Cut text ended rest) :
    session.QueuesFile (Path.ofText (invocation.arguments.getD 0 "")).text
      ((withRest ended rest).map Content.trimLine) (session.run host line) := by
  obtain ⟨read, kept, logged, concluded⟩ := run_of_file undisturbed parsed isFile opens
  rw [Content.ofReadout_encode cut] at concluded logged
  rw [concluded]
  exact queuesFile_of_kept kept logged

/--
A command file that breaks off queues nothing. The lines that have ended by then
are logged, and the fault of the operating system is reported, unless a defect in
the bytes before it is.
-/
theorem run_of_broken_reading
    {fault : SystemFault}
    (undisturbed : session.Undisturbed (session.scope.interpret host line).pollCount)
    (parsed : (session.parse line).outcome = .ok (some invocation))
    (isFile : invocation.command.action = .builtin .file)
    (opens : host.Opens (.ofText (invocation.arguments.getD 0 "")) ⟨bytes, some fault⟩) :
    let path := (Path.ofText (invocation.arguments.getD 0 "")).text
    let ran := session.run host line
    ∃ text ended rest,
      Cut text ended rest ∧
        session.Kept ran.state ∧
        ran.state.log =
          session.log ++ (ended.map fun line => .lineRead (Content.trimLine line)).toArray ∧
        ((ran.outcome = .error (.system fault) ∧ ∃ left, Text.Utf8.Decodes bytes text left) ∨
          ∃ defect,
            ran.outcome = .error (.undecodableFile path defect) ∧
              Text.Utf8.Refusal (fun count => bytes.take (count * Content.chunkSize)) bytes text
                defect) := by
  intro path ran
  obtain ⟨read, kept, logged, concluded⟩ := run_of_file undisturbed parsed isFile opens
  have ranRead : ran = read.conclude _ :=
    concluded
  obtain ⟨text, ended, rest, obstacle, cut, content, reason⟩ :=
    Content.exists_ofReadout_of_broken bytes fault
  rw [content] at ranRead logged
  rw [List.map_map] at logged
  rw [ranRead]
  rcases reason with ⟨rfl, decodes⟩ | ⟨defect, rfl, refusal⟩
  · exact ⟨text, ended, rest, cut, kept, logged, .inl ⟨rfl, decodes⟩⟩
  · exact ⟨text, ended, rest, cut, kept, logged, .inr ⟨defect, rfl, refusal⟩⟩

/--
A line that opens a command file reads exactly the lines of the file. Bytes that
are the form of a text are cut behind each line feed, without an empty last
piece, and the pieces are trimmed and queued. Bytes that are the form of no text
are refused, no line of theirs is queued, and those are logged that have ended
in the pieces before the one that cannot be decoded.
-/
theorem run_reads_command_file
    (undisturbed : session.Undisturbed (session.scope.interpret host line).pollCount)
    (parsed : (session.parse line).outcome = .ok (some invocation))
    (isFile : invocation.command.action = .builtin .file)
    (opens : host.Opens (.ofText (invocation.arguments.getD 0 "")) { bytes := bytes }) :
    let path := (Path.ofText (invocation.arguments.getD 0 "")).text
    let ran := session.run host line
    (∀ text, bytes = Text.Utf8.encode text →
      ∃ ended rest,
        Cut text ended rest ∧
          session.QueuesFile path ((withRest ended rest).map Content.trimLine) ran) ∧
    ((∀ text, bytes ≠ Text.Utf8.encode text) →
      ∃ text ended rest defect,
        Cut text ended rest ∧
          Text.Utf8.Refusal (fun count => bytes.take (count * Content.chunkSize)) bytes text
            defect ∧
          ran.outcome = .error (.undecodableFile path defect) ∧
          session.Kept ran.state ∧
          ran.state.log =
            session.log ++
              (ended.map fun line => .lineRead (Content.trimLine line)).toArray) := by
  intro path ran
  constructor
  · rintro text rfl
    obtain ⟨ended, rest, cut⟩ := Text.exists_cut text
    exact ⟨ended, rest, cut, queuesFile_of_encode undisturbed parsed isFile opens cut⟩
  · intro invalid
    obtain ⟨read, kept, logged, concluded⟩ := run_of_file undisturbed parsed isFile opens
    have ranRead : ran = read.conclude _ :=
      concluded
    obtain ⟨text, ended, rest, defect, cut, refusal, content⟩ :=
      Content.exists_ofReadout_of_invalid invalid
    rw [content] at ranRead logged
    rw [List.map_map] at logged
    refine ⟨text, ended, rest, defect, cut, refusal, ?_⟩
    rw [ranRead]
    exact ⟨rfl, kept, logged⟩

end Reading

/-- A file with a carriage return and a wide character is queued, one with a stray byte is not. -/
theorem command_files_read :
    let content := "SET a \u00e9\r\nGET a\n".toList
    let host : Host :=
      { openFile := fun path =>
          if path.text = "good" then
            .ok { bytes := Text.Utf8.encode content }
          else
            .ok { bytes := [0x41, 0x0A, 0xFF] }
        version := "1.0.0", exitCode := 0, exitEnds := true }
    let session : Session :=
      { offeringBuiltins 32 256 with queue := ⟨256, ["VERSION"], by decide⟩ }
    (session.run host "FILE good").outcome = .ok (.queued "good" 2) ∧
      (session.run host "FILE good").state.queue.lines = ["SET a \u00e9", "GET a", "VERSION"] ∧
      ∃ defect,
        (session.run host "FILE bad").outcome = .error (.undecodableFile "bad" defect) ∧
          (session.run host "FILE bad").state.queue = session.queue := by
  intro content host session
  have evaluated :
      session.stop = .lowered ∧
        session.alarm = none ∧
        (session.parse "FILE good").outcome = .ok (some ⟨Builtin.file.command, ["good"]⟩) ∧
        (session.parse "FILE bad").outcome = .ok (some ⟨Builtin.file.command, ["bad"]⟩) := by
    decide +kernel
  obtain ⟨lowered, noAlarm, parsedGood, parsedBad⟩ := evaluated
  have undisturbed (polls : Nat) : session.Undisturbed polls :=
    undisturbed_of_no_alarm lowered noAlarm polls
  have opensGood : host.Opens (.ofText "good") { bytes := Text.Utf8.encode content } :=
    ⟨by decide +kernel, by decide +kernel⟩
  have opensBad : host.Opens (.ofText "bad") { bytes := [0x41, 0x0A, 0xFF] } :=
    ⟨by decide +kernel, by decide +kernel⟩
  obtain ⟨ended, rest, cut, queues⟩ :=
    (run_reads_command_file (undisturbed _) parsedGood rfl opensGood).1 content rfl
  have lines :
      (withRest ended rest).map Content.trimLine = ["SET a \u00e9", "GET a"] := by
    rw [← cut.lines_eq]
    decide +kernel
  rw [lines] at queues
  obtain ⟨queued, _, ahead, _⟩ := queues.queued (by decide +kernel)
  have invalid : ∀ text, [0x41, 0x0A, 0xFF] ≠ Text.Utf8.encode text := by
    intro text same
    have decoded : Text.Utf8.decodeChunk 0 [] (Text.Utf8.encode text) = .ok (text, []) :=
      Text.Utf8.decodeChunk_encode text
    rw [← same] at decoded
    exact nomatch decoded
  obtain ⟨_, _, _, defect, _, _, refused, kept, _⟩ :=
    (run_reads_command_file (undisturbed _) parsedBad rfl opensBad).2 invalid
  exact ⟨queued, ahead, defect, refused, kept.queue⟩

end Session

end CommandConsole
