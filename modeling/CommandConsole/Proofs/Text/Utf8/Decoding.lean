import CommandConsole.Proofs.Text.Utf8.Character

namespace CommandConsole.Text.Utf8

/-!
# Decoding undoes encoding, wherever chunks end

A chunk is decoded to a text and left-over bytes exactly where it is the form
of the text and begins one more character. So bytes that arrive in chunks are
decoded to the text that they are the form of, and those of no text are refused
in the first chunk that cannot be decoded.
-/

/-- No character can be read at the start of the given bytes. -/
def Unreadable (bytes : List UInt8) : Prop :=
  ∀ character, ¬ String.utf8EncodeChar character <+: bytes

/-- Bytes are the form of a text, followed by bytes that are carried over. -/
structure Decodes (bytes : List UInt8) (text : List Char) (carried : List UInt8) : Prop where
  shape : bytes = encode text ++ carried
  carried : Carried carried

@[simp] theorem encode_nil : encode [] = [] :=
  rfl

@[simp] theorem encode_cons (character : Char) (text : List Char) :
    encode (character :: text) = String.utf8EncodeChar character ++ encode text :=
  rfl

@[simp] theorem encode_append (first second : List Char) :
    encode (first ++ second) = encode first ++ encode second :=
  List.flatMap_append

section Forms

variable {pending rest others left : List UInt8} {byte : UInt8}
variable {character other : Char} {text more : List Char}

theorem not_begun_utf8EncodeChar (character : Char) :
    ¬ Begun (String.utf8EncodeChar character) := by
  intro begun
  have shorter := begun.length_lt String.utf8EncodeChar_ne_nil
  rw [← (sequence_utf8EncodeChar character).length_eq] at shorter
  exact Nat.lt_irrefl _ shorter

theorem carried_nil : Carried [] :=
  carried_of_begun .none

/-- A character whose bytes start with bytes that are carried over ends behind them. -/
theorem exists_of_carried_append
    (carried : Carried pending)
    (shape : pending ++ rest = String.utf8EncodeChar character ++ others) :
    ∃ byte following,
      String.utf8EncodeChar character = pending ++ byte :: following ∧
        rest = byte :: following ++ others := by
  have begun := begun_of_carried carried
  rcases List.append_eq_append_iff.mp shape with ⟨following, whole, atRest⟩ | ⟨inside, whole, _⟩
  · cases following with
    | nil =>
        rw [List.append_nil] at whole
        exact absurd (whole ▸ begun) (not_begun_utf8EncodeChar character)
    | cons byte following =>
        exact ⟨byte, following, whole, atRest⟩
  · have earlier := begun.take (String.utf8EncodeChar character).length
    rw [whole, List.take_left] at earlier
    exact absurd earlier (not_begun_utf8EncodeChar character)

theorem unreadable_of_carried (carried : Carried pending) : Unreadable pending := by
  rintro character ⟨others, shape⟩
  have whole : pending ++ [] = String.utf8EncodeChar character ++ others := by
    rw [List.append_nil, shape]
  obtain ⟨byte, following, _, nothing⟩ := exists_of_carried_append carried whole
  exact nomatch nothing

/-- The first characters of two texts are the same if their bytes are. -/
theorem utf8EncodeChar_append_inj
    (same : String.utf8EncodeChar character ++ rest = String.utf8EncodeChar other ++ others) :
    character = other ∧ rest = others := by
  have first := sequence_utf8EncodeChar character
  have second := sequence_utf8EncodeChar other
  have wanted {bytes : List UInt8} (behind : List UInt8) (nonempty : bytes ≠ []) :
      wantedLength (bytes ++ behind) = wantedLength bytes := by
    cases bytes with
    | nil => exact absurd rfl nonempty
    | cons lead continuation => rfl
  have sameLength :
      (String.utf8EncodeChar character).length = (String.utf8EncodeChar other).length := by
    rw [first.length_eq, second.length_eq,
      ← wanted rest String.utf8EncodeChar_ne_nil, same,
      wanted others String.utf8EncodeChar_ne_nil]
  obtain ⟨sameBytes, sameRest⟩ := List.append_inj same sameLength
  rw [sameBytes] at first
  exact ⟨first.unique second, sameRest⟩

/-- What unreadable bytes are left behind a text is left behind each of its initial parts. -/
theorem exists_of_encode_append
    (unreadable : Unreadable left)
    (same : encode text ++ rest = encode more ++ left) :
    ∃ later, more = text ++ later ∧ rest = encode later ++ left := by
  induction text generalizing more with
  | nil =>
      exact ⟨more, rfl, same⟩
  | cons character text inductionHypothesis =>
      cases more with
      | nil =>
          refine absurd ⟨encode text ++ rest, ?_⟩ (unreadable character)
          simpa using same
      | cons other more =>
          simp only [encode_cons, List.append_assoc] at same
          obtain ⟨rfl, sameRest⟩ := utf8EncodeChar_append_inj same
          obtain ⟨later, rfl, behind⟩ := inductionHypothesis sameRest
          exact ⟨later, rfl, behind⟩

end Forms

section Chunks

variable {pending chunk left : List UInt8} {text : List Char} {position : Nat}

/-- A chunk that is decoded to a text and left-over bytes is their form. -/
theorem decodes_of_decodeChunk
    (carried : Carried pending)
    (decoded : decodeChunk position pending chunk = .ok (text, left)) :
    Decodes (pending ++ chunk) text left := by
  induction chunk generalizing position pending text with
  | nil =>
      obtain ⟨rfl, rfl⟩ := Prod.mk.inj (Except.ok.inj decoded)
      exact ⟨by simp, carried⟩
  | cons byte chunk inductionHypothesis =>
      rw [List.append_cons]
      rw [decodeChunk] at decoded
      by_cases accepts : Accepts pending byte
      · rcases readByte_of_accepts (begun_of_carried carried) accepts with
          ⟨character, complete, sequence⟩ | ⟨incomplete, begun⟩
        · rw [complete] at decoded
          dsimp only at decoded
          split at decoded
          · next characters behind rest =>
              obtain ⟨rfl, rfl⟩ := Prod.mk.inj (Except.ok.inj decoded)
              obtain ⟨shape, carriedLater⟩ := inductionHypothesis carried_nil rest
              refine ⟨?_, carriedLater⟩
              rw [encode_cons, utf8EncodeChar_of_sequence sequence,
                List.append_assoc (pending ++ [byte]), ← shape, List.nil_append]
          · exact nomatch decoded
        · rw [incomplete] at decoded
          exact inductionHypothesis (carried_of_begun begun) decoded
      · obtain ⟨bytes, reason, refused, _⟩ := readByte_of_not_accepts accepts
        rw [refused] at decoded
        exact nomatch decoded

/-- The form of a text and of left-over bytes is decoded to them. -/
theorem decodeChunk_of_decodes
    (carried : Carried pending)
    (decodes : Decodes (pending ++ chunk) text left) :
    decodeChunk position pending chunk = .ok (text, left) := by
  obtain ⟨shape, carriedLater⟩ := decodes
  induction chunk generalizing position pending text with
  | nil =>
      cases text with
      | nil =>
          rw [List.append_nil, encode_nil, List.nil_append] at shape
          rw [shape]
          rfl
      | cons character text =>
          rw [encode_cons, List.append_assoc] at shape
          obtain ⟨_, _, _, nothing⟩ := exists_of_carried_append carried shape
          exact nomatch nothing
  | cons byte chunk inductionHypothesis =>
      rw [decodeChunk]
      cases text with
      | nil =>
          rw [encode_nil, List.nil_append] at shape
          have begun : Begun (pending ++ byte :: chunk) :=
            shape ▸ begun_of_carried carriedLater
          have begunEarlier := begun.take (pending.length + 1)
          rw [List.append_cons] at shape begunEarlier
          rw [List.take_left' (by simp)] at begunEarlier
          rw [readByte_of_begun begun]
          have shapeLater : pending ++ [byte] ++ chunk = encode [] ++ left :=
            shape
          exact inductionHypothesis (carried_of_begun begunEarlier) shapeLater
      | cons character text =>
          rw [encode_cons, List.append_assoc] at shape
          obtain ⟨first, following, whole, behind⟩ := exists_of_carried_append carried shape
          obtain ⟨rfl, rfl⟩ := List.cons.inj behind
          have sequence := sequence_utf8EncodeChar character
          rw [whole] at sequence
          rw [readByte_of_sequence sequence]
          cases following with
          | nil =>
              rw [if_pos rfl]
              dsimp only
              have plain : [] ++ ([] ++ (encode text ++ left)) = encode text ++ left :=
                rfl
              rw [inductionHypothesis carried_nil plain]
          | cons next following =>
              rw [if_neg (by simp)]
              have begun := sequence.begun_take (pending.length + 1) (by simp)
              rw [List.append_cons, List.take_left' (by simp)] at begun
              have shapeLater :
                  pending ++ [byte] ++ (next :: following ++ (encode text ++ left)) =
                    encode (character :: text) ++ left := by
                rw [encode_cons, whole]
                simp
              exact inductionHypothesis (carried_of_begun begun) shapeLater

theorem decodeChunk_encode (text : List Char) :
    decodeChunk position [] (encode text) = .ok (text, []) :=
  decodeChunk_of_decodes carried_nil ⟨by simp, carried_nil⟩

/-- A chunk with a defect is the form of a text up to bytes that hold the defect and no character. -/
theorem exists_of_decodeChunk_error
    {defect : Defect}
    (carried : Carried pending)
    (refused : decodeChunk position pending chunk = .error defect) :
    ∃ before rest,
      pending ++ chunk = encode before ++ rest ∧
        defect.position = position + (encode before).length ∧
        defect.bytes ≠ [] ∧ defect.bytes <+: rest ∧
        ∀ more, Unreadable (rest ++ more) := by
  induction chunk generalizing position pending with
  | nil =>
      exact nomatch refused
  | cons byte chunk inductionHypothesis =>
      rw [decodeChunk] at refused
      by_cases accepts : Accepts pending byte
      · rcases readByte_of_accepts (begun_of_carried carried) accepts with
          ⟨character, complete, sequence⟩ | ⟨incomplete, begun⟩
        · rw [complete] at refused
          dsimp only at refused
          split at refused
          · exact nomatch refused
          · next other later =>
              obtain rfl := Except.error.inj refused
              obtain ⟨before, rest, shape, place, held⟩ := inductionHypothesis carried_nil later
              refine ⟨character :: before, rest, ?_, ?_, held⟩
              · rw [encode_cons, utf8EncodeChar_of_sequence sequence, List.append_assoc, ← shape]
                simp
              · rw [place, encode_cons, utf8EncodeChar_of_sequence sequence]
                simp only [List.length_append, List.length_singleton]
                omega
        · rw [incomplete] at refused
          have later := inductionHypothesis (carried_of_begun begun) refused
          rwa [List.append_assoc] at later
      · obtain ⟨bytes, reason, refusal, nonempty, held⟩ := readByte_of_not_accepts accepts
        rw [refusal] at refused
        obtain rfl := Except.error.inj refused
        refine ⟨[], pending ++ byte :: chunk, rfl, rfl, nonempty, ?_, ?_⟩
        · rw [List.append_cons]
          exact held.trans (List.prefix_append _ _)
        · rintro more character ⟨others, whole⟩
          rw [List.append_assoc] at whole
          obtain ⟨first, following, form, behind⟩ := exists_of_carried_append carried whole.symm
          obtain ⟨rfl, _⟩ := List.cons.inj behind
          have sequence := sequence_utf8EncodeChar character
          rw [form] at sequence
          have accepted := sequence.accepts pending.length (by simp)
          simp only [List.take_left, List.getElem_append_right (Nat.le_refl _), Nat.sub_self,
            List.getElem_cons_zero] at accepted
          exact accepts accepted

end Chunks

/--
Bytes that arrive in pieces are refused. The text is that of the pieces before
the first one that fails, where at the end of the bytes what is carried over
fails. The defect stands where the bytes hold no character, and its position
counts from the end of the text.
-/
structure Refusal
    (pieces : Nat → List UInt8)
    (whole : List UInt8)
    (text : List Char)
    (defect : Defect) :
    Prop where
  decodedBefore : ∃ count left,
    Decodes (pieces count) text left ∧
      (pieces count = whole ∨ ∀ text left, ¬ Decodes (pieces (count + 1)) text left)
  place : ∃ before rest,
    whole = encode before ++ rest ∧ Unreadable rest ∧
      (encode text).length + defect.position = (encode before).length ∧
      defect.bytes ≠ [] ∧ defect.bytes <+: rest

section Pieces

variable {pending left : List UInt8} {chunks : List (List UInt8)} {chunk : List UInt8}
variable {text : List Char} {defect : Defect}

theorem decodeAvailable_cons_of_ok
    (decoded : decodeChunk 0 pending chunk = .ok (text, left)) :
    decodeAvailable pending (chunk :: chunks) =
      (text ++ (decodeAvailable left chunks).1, (decodeAvailable left chunks).2) := by
  simp [decodeAvailable, decoded]

theorem decodeAvailable_cons_of_error
    (refused : decodeChunk 0 pending chunk = .error defect) :
    decodeAvailable pending (chunk :: chunks) = ([], .error defect) := by
  simp [decodeAvailable, refused]

theorem decodeChunks_of_available
    (available : decodeAvailable pending chunks = (text, .ok left)) :
    decodeChunks pending chunks = (text, unfinished? 0 left) := by
  rw [decodeChunks, available]

theorem decodeChunks_of_refused
    (refused : decodeAvailable pending chunks = (text, .error defect)) :
    decodeChunks pending chunks = (text, some defect) := by
  rw [decodeChunks, refused]

theorem decodeChunks_nil (pending : List UInt8) :
    decodeChunks pending [] = ([], unfinished? 0 pending) :=
  rfl

theorem decodeChunks_cons_of_ok
    (decoded : decodeChunk 0 pending chunk = .ok (text, left)) :
    decodeChunks pending (chunk :: chunks) =
      (text ++ (decodeChunks left chunks).1, (decodeChunks left chunks).2) := by
  have behind : decodeAvailable pending (chunk :: chunks) =
      (text ++ (decodeAvailable left chunks).1, (decodeAvailable left chunks).2) :=
    decodeAvailable_cons_of_ok decoded
  cases available : decodeAvailable left chunks with
  | mk following outcome =>
      rw [available] at behind
      cases outcome with
      | ok carried =>
          rw [decodeChunks_of_available behind, decodeChunks_of_available available]
      | error defect =>
          rw [decodeChunks_of_refused behind, decodeChunks_of_refused available]

theorem decodeChunks_cons_of_error
    (refused : decodeChunk 0 pending chunk = .error defect) :
    decodeChunks pending (chunk :: chunks) = ([], some defect) :=
  decodeChunks_of_refused (decodeAvailable_cons_of_error refused)

/-- Chunks without a defect are the form of their text and of what is left over. -/
theorem decodes_of_decodeAvailable
    (carried : Carried pending)
    (available : decodeAvailable pending chunks = (text, .ok left)) :
    Decodes (pending ++ chunks.flatten) text left := by
  induction chunks generalizing pending text with
  | nil =>
      cases available
      exact ⟨by simp, carried⟩
  | cons chunk chunks inductionHypothesis =>
      cases decoded : decodeChunk 0 pending chunk with
      | error defect =>
          rw [decodeAvailable_cons_of_error decoded] at available
          cases available
      | ok result =>
          obtain ⟨first, between⟩ := result
          obtain ⟨shape, carriedLater⟩ := decodes_of_decodeChunk carried decoded
          rw [decodeAvailable_cons_of_ok decoded] at available
          obtain ⟨rfl, outcome⟩ := Prod.mk.inj available
          have rest := inductionHypothesis carriedLater (Prod.ext rfl outcome)
          refine ⟨?_, rest.carried⟩
          rw [List.flatten_cons, ← List.append_assoc, shape, List.append_assoc, rest.shape,
            encode_append, List.append_assoc]

/-- The chunks of a whole without a defect are the form of their text. -/
theorem encode_of_decodeChunks
    (carried : Carried pending)
    (complete : (decodeChunks pending chunks).2 = none) :
    pending ++ chunks.flatten = encode (decodeChunks pending chunks).1 := by
  cases available : decodeAvailable pending chunks with
  | mk text outcome =>
      cases outcome with
      | error defect =>
          rw [decodeChunks_of_refused available] at complete
          cases complete
      | ok left =>
          have shape := (decodes_of_decodeAvailable carried available).shape
          rw [decodeChunks_of_available available] at complete ⊢
          cases left with
          | nil =>
              rw [shape, List.append_nil]
          | cons lead continuation =>
              simp only [unfinished?] at complete
              split at complete <;> cases complete

theorem refusal_of_unfinished
    (carried : Carried pending)
    (unfinished : unfinished? 0 pending = some defect) :
    Refusal (fun _ => pending) pending [] defect := by
  have held : defect.position = 0 ∧ defect.bytes ≠ [] ∧ defect.bytes <+: pending := by
    cases pending with
    | nil =>
        exact nomatch unfinished
    | cons lead continuation =>
        simp only [unfinished?] at unfinished
        split at unfinished
        · obtain rfl := Option.some.inj unfinished
          simp
        · obtain rfl := Option.some.inj unfinished
          simp
  exact {
    decodedBefore := ⟨0, pending, ⟨rfl, carried⟩, .inl rfl⟩
    place := ⟨[], pending, rfl, unreadable_of_carried carried, by simp [held.1], held.2⟩ }

/-- Chunks with a defect are refused. -/
theorem refusal_of_decodeChunks
    (carried : Carried pending)
    (incomplete : (decodeChunks pending chunks).2 = some defect) :
    Refusal (fun count => pending ++ (chunks.take count).flatten) (pending ++ chunks.flatten)
      (decodeChunks pending chunks).1 defect := by
  induction chunks generalizing pending with
  | nil =>
      rw [decodeChunks_nil] at incomplete ⊢
      simpa using refusal_of_unfinished carried incomplete
  | cons chunk chunks inductionHypothesis =>
      cases decoded : decodeChunk 0 pending chunk with
      | error refused =>
          rw [decodeChunks_cons_of_error decoded] at incomplete ⊢
          obtain rfl := Option.some.inj incomplete
          obtain ⟨before, rest, shape, place, nonempty, held, unreadable⟩ :=
            exists_of_decodeChunk_error carried decoded
          refine ⟨⟨0, pending, ⟨by simp, carried⟩, .inr ?_⟩,
            before, rest ++ chunks.flatten, ?_, unreadable _, ?_, nonempty,
            held.trans (List.prefix_append _ _)⟩
          · intro text left decodes
            have accepted : decodeChunk 0 pending chunk = .ok (text, left) :=
              decodeChunk_of_decodes carried (by simpa using decodes)
            rw [decoded] at accepted
            exact nomatch accepted
          · rw [List.flatten_cons, ← List.append_assoc, shape, List.append_assoc]
          · simp [place]
      | ok result =>
          obtain ⟨text, left⟩ := result
          rw [decodeChunks_cons_of_ok decoded] at incomplete ⊢
          obtain ⟨shape, carriedLater⟩ := decodes_of_decodeChunk carried decoded
          obtain ⟨⟨count, last, ⟨countShape, carriedLast⟩, failing⟩,
            before, rest, whole, unreadable, place, held⟩ :=
              inductionHypothesis carriedLater incomplete
          have behind (bytes : List UInt8) :
              pending ++ (chunk ++ bytes) = encode text ++ (left ++ bytes) := by
            rw [← List.append_assoc, shape, List.append_assoc]
          refine ⟨⟨count + 1, last, ⟨?_, carriedLast⟩, ?_⟩,
            text ++ before, rest, ?_, unreadable, ?_, held⟩
          · rw [List.take_succ_cons, List.flatten_cons, behind, countShape, encode_append,
              List.append_assoc]
          · simp only [List.take_succ_cons, List.flatten_cons, behind, List.append_cancel_left_eq]
            rcases failing with all | never
            · exact .inl (List.append_cancel_left all)
            · refine .inr fun others rest decodes => ?_
              obtain ⟨later, rfl, laterShape⟩ :=
                exists_of_encode_append (unreadable_of_carried decodes.carried) decodes.shape
              exact never later rest ⟨laterShape, decodes.carried⟩
          · rw [List.flatten_cons, behind, whole, encode_append, List.append_assoc]
          · rw [encode_append, encode_append, List.length_append, List.length_append, ← place,
              Nat.add_assoc]

/-- Bytes that are refused are the form of no text. -/
theorem Refusal.ne_encode
    {pieces : Nat → List UInt8}
    {whole : List UInt8}
    (refusal : Refusal pieces whole text defect)
    (characters : List Char) :
    whole ≠ encode characters := by
  intro same
  obtain ⟨before, rest, shape, unreadable, _, nonempty, held⟩ := refusal.place
  have noRest : encode before ++ rest = encode characters ++ [] := by
    rw [← shape, same, List.append_nil]
  obtain ⟨later, _, restShape⟩ :=
    exists_of_encode_append (unreadable_of_carried carried_nil) noRest
  cases later with
  | nil =>
      rw [restShape] at held
      exact nonempty (List.prefix_nil.mp held)
  | cons character later =>
      exact unreadable character ⟨encode later, by simp [restShape]⟩

theorem encode_injective
    {first second : List Char}
    (same : encode first = encode second) :
    first = second := by
  have decoded : decodeChunk 0 [] (encode first) = .ok (first, []) :=
    decodeChunk_encode first
  rw [same, decodeChunk_encode second] at decoded
  exact (Prod.mk.inj (Except.ok.inj decoded)).1.symm

/-- The first pieces of bytes are the bytes up to a multiple of their size. -/
theorem flatten_take_chunksOf
    {size : Nat}
    (positive : 0 < size)
    (bytes : List UInt8)
    (count : Nat) :
    ((chunksOf size positive bytes).take count).flatten = bytes.take (count * size) := by
  induction count generalizing bytes with
  | zero =>
      simp
  | succ count inductionHypothesis =>
      cases bytes with
      | nil =>
          simp [chunksOf]
      | cons byte bytes =>
          rw [chunksOf, List.take_succ_cons, List.flatten_cons, inductionHypothesis,
            Nat.succ_mul, Nat.add_comm, List.take_add]

theorem flatten_chunksOf
    {size : Nat}
    (positive : 0 < size)
    (bytes : List UInt8) :
    (chunksOf size positive bytes).flatten = bytes := by
  fun_induction chunksOf size positive bytes with
  | case1 =>
      rfl
  | case2 byte bytes inductionHypothesis =>
      rw [List.flatten_cons, inductionHypothesis, List.take_append_drop]

/-- Bytes that arrive in pieces of any size are decoded to the text whose form they are. -/
theorem decodeChunks_chunksOf_encode
    {size : Nat}
    (positive : 0 < size)
    (text : List Char) :
    decodeChunks [] (chunksOf size positive (encode text)) = (text, none) := by
  cases outcome : (decodeChunks [] (chunksOf size positive (encode text))).2 with
  | none =>
      have shape := encode_of_decodeChunks carried_nil outcome
      rw [List.nil_append, flatten_chunksOf] at shape
      exact Prod.ext (encode_injective shape).symm outcome
  | some defect =>
      have refusal := refusal_of_decodeChunks carried_nil outcome
      rw [List.nil_append, flatten_chunksOf] at refusal
      exact absurd rfl (refusal.ne_encode text)

/-- Bytes behind which more could come are decoded as far as they go, or they are refused. -/
theorem decodeAvailable_chunksOf_cases
    {size : Nat}
    (positive : 0 < size)
    (bytes : List UInt8) :
    (∃ text left,
      decodeAvailable [] (chunksOf size positive bytes) = (text, .ok left) ∧
        Decodes bytes text left) ∨
    ∃ text defect,
      decodeAvailable [] (chunksOf size positive bytes) = (text, .error defect) ∧
        Refusal (fun count => bytes.take (count * size)) bytes text defect := by
  cases available : decodeAvailable [] (chunksOf size positive bytes) with
  | mk text outcome =>
      cases outcome with
      | ok left =>
          have decodes := decodes_of_decodeAvailable carried_nil available
          rw [List.nil_append, flatten_chunksOf] at decodes
          exact .inl ⟨text, left, rfl, decodes⟩
      | error defect =>
          have decoded := decodeChunks_of_refused available
          have refusal := refusal_of_decodeChunks carried_nil (congrArg Prod.snd decoded)
          simp only [List.nil_append, flatten_chunksOf, flatten_take_chunksOf, decoded] at refusal
          exact .inr ⟨text, defect, rfl, refusal⟩

/-- Bytes that are the form of no text are refused, whatever the size of the pieces. -/
theorem exists_refusal_of_chunksOf
    {size : Nat}
    (positive : 0 < size)
    {bytes : List UInt8}
    (invalid : ∀ text, bytes ≠ encode text) :
    ∃ text defect,
      decodeChunks [] (chunksOf size positive bytes) = (text, some defect) ∧
        Refusal (fun count => bytes.take (count * size)) bytes text defect := by
  cases outcome : (decodeChunks [] (chunksOf size positive bytes)).2 with
  | none =>
      have shape := encode_of_decodeChunks carried_nil outcome
      rw [List.nil_append, flatten_chunksOf] at shape
      exact absurd shape (invalid _)
  | some defect =>
      have refusal := refusal_of_decodeChunks carried_nil outcome
      simp only [List.nil_append, flatten_chunksOf, flatten_take_chunksOf] at refusal
      exact ⟨_, defect, Prod.ext rfl outcome, refusal⟩

end Pieces

end CommandConsole.Text.Utf8
