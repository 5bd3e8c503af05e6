import CommandConsole.Text.Utf8
import Mathlib.Tactic.SplitIfs

namespace CommandConsole.Text.Utf8

/-!
# The bytes of one character

The bytes of a character are a first byte with as many further bytes as it asks
for, each in its range; these are exactly the bytes that encode the character.
So a decoder that reads them one at a time, from whatever part of them it was
left with, completes the character at the last one and refuses none.
-/

/-- Whether a byte may follow the given bytes of a character. -/
def Admits (pending : List UInt8) (byte : UInt8) : Prop :=
  beginsSurrogate pending = false ∧
    (continuationRange pending).1 ≤ byte ∧ byte ≤ (continuationRange pending).2

/-- The bytes of one character, by their count. -/
inductive Sequence : List UInt8 → Char → Prop where
  | one
      {lead : UInt8}
      (single : sequenceLength lead = 1) :
      Sequence [lead] (assemble lead [])
  | two
      {lead second : UInt8}
      (double : sequenceLength lead = 2)
      (admitsSecond : Admits [lead] second) :
      Sequence [lead, second] (assemble lead [second])
  | three
      {lead second third : UInt8}
      (triple : sequenceLength lead = 3)
      (admitsSecond : Admits [lead] second)
      (admitsThird : Admits [lead, second] third) :
      Sequence [lead, second, third] (assemble lead [second, third])
  | four
      {lead second third fourth : UInt8}
      (quadruple : sequenceLength lead = 4)
      (admitsSecond : Admits [lead] second)
      (admitsThird : Admits [lead, second] third)
      (admitsFourth : Admits [lead, second, third] fourth) :
      Sequence [lead, second, third, fourth] (assemble lead [second, third, fourth])

section Bytes

variable {lead second third fourth : UInt8}

theorem sequenceLength_eq_one_iff : sequenceLength lead = 1 ↔ lead.toNat ≤ 0x7F := by
  unfold sequenceLength
  simp only [UInt8.le_iff_toNat_le]
  split_ifs <;> simp_all

theorem sequenceLength_eq_two_iff :
    sequenceLength lead = 2 ↔ 0xC2 ≤ lead.toNat ∧ lead.toNat ≤ 0xDF := by
  unfold sequenceLength
  simp only [UInt8.le_iff_toNat_le]
  split_ifs <;> simp_all
  omega

theorem sequenceLength_eq_three_iff :
    sequenceLength lead = 3 ↔ 0xE0 ≤ lead.toNat ∧ lead.toNat ≤ 0xEF := by
  unfold sequenceLength
  simp only [UInt8.le_iff_toNat_le]
  split_ifs <;> simp_all <;> omega

theorem sequenceLength_eq_four_iff :
    sequenceLength lead = 4 ↔ 0xF0 ≤ lead.toNat ∧ lead.toNat ≤ 0xF4 := by
  unfold sequenceLength
  simp only [UInt8.le_iff_toNat_le]
  split_ifs <;> simp_all <;> omega

theorem sequenceLength_le_four (lead : UInt8) : sequenceLength lead ≤ 4 := by
  unfold sequenceLength
  split_ifs <;> omega

theorem continuationRange_singleton (lead : UInt8) :
    continuationRange [lead] =
      (if lead = 0xE0 then 0xA0 else if lead = 0xF0 then 0x90 else 0x80,
        if lead = 0xF4 then 0x8F else 0xBF) := by
  unfold continuationRange
  split <;> simp_all

theorem continuationRange_cons_cons (lead second : UInt8) (rest : List UInt8) :
    continuationRange (lead :: second :: rest) = (0x80, 0xBF) := by
  simp [continuationRange]

theorem admits_second_iff :
    Admits [lead] second ↔
      0x80 ≤ second.toNat ∧ second.toNat ≤ 0xBF ∧
        (lead.toNat = 0xE0 → 0xA0 ≤ second.toNat) ∧
        (lead.toNat = 0xF0 → 0x90 ≤ second.toNat) ∧
        (lead.toNat = 0xF4 → second.toNat ≤ 0x8F) := by
  simp only [Admits, continuationRange_singleton, beginsSurrogate, true_and,
    ← UInt8.toNat_inj, UInt8.le_iff_toNat_le]
  split_ifs <;> simp_all <;> omega

theorem admits_third_iff :
    Admits [lead, second] third ↔
      (lead.toNat = 0xED → second.toNat < 0xA0) ∧
        0x80 ≤ third.toNat ∧ third.toNat ≤ 0xBF := by
  by_cases surrogateLead : lead = 0xED
  · subst surrogateLead
    simp [Admits, continuationRange_cons_cons, beginsSurrogate, UInt8.le_iff_toNat_le]
  · have other : lead.toNat ≠ 0xED :=
      fun same => surrogateLead (UInt8.toNat_inj.mp same)
    simp [Admits, continuationRange_cons_cons, beginsSurrogate, UInt8.le_iff_toNat_le,
      surrogateLead, other]

theorem admits_fourth_iff :
    Admits [lead, second, third] fourth ↔
      0x80 ≤ fourth.toNat ∧ fourth.toNat ≤ 0xBF := by
  simp [Admits, continuationRange_cons_cons, beginsSurrogate, UInt8.le_iff_toNat_le]

theorem ofNat_eq_iff {byte : UInt8} {value : Nat} (small : value < 256) :
    UInt8.ofNat value = byte ↔ value = byte.toNat := by
  rw [← UInt8.toNat_inj, UInt8.toNat_ofNat', Nat.mod_eq_of_lt small]

end Bytes

section Character

theorem utf8EncodeChar_ofNat
    {code : Nat}
    (valid : code.isValidChar) :
    String.utf8EncodeChar (Char.ofNat code) =
      if code ≤ 0x7F then
        [UInt8.ofNat code]
      else if code ≤ 0x7FF then
        [UInt8.ofNat (code / 64 % 32 + 192), UInt8.ofNat (code % 64 + 128)]
      else if code ≤ 0xFFFF then
        [UInt8.ofNat (code / 4096 % 16 + 224), UInt8.ofNat (code / 64 % 64 + 128),
          UInt8.ofNat (code % 64 + 128)]
      else
        [UInt8.ofNat (code / 262144 % 8 + 240), UInt8.ofNat (code / 4096 % 64 + 128),
          UInt8.ofNat (code / 64 % 64 + 128), UInt8.ofNat (code % 64 + 128)] := by
  have sameCode : (Char.ofNat code).val.toNat = code := by
    rw [Char.ofNat, dif_pos valid]
    rfl
  simp only [String.utf8EncodeChar, sameCode]

/-- The bytes of a character are the ones that encode it. -/
theorem utf8EncodeChar_of_sequence
    {bytes : List UInt8}
    {character : Char}
    (sequence : Sequence bytes character) :
    String.utf8EncodeChar character = bytes := by
  cases sequence with
  | one single =>
      have range := sequenceLength_eq_one_iff.mp single
      simp only [assemble, leadBits, single, List.foldl_nil]
      rw [utf8EncodeChar_ofNat (by unfold Nat.isValidChar; omega), if_pos range, UInt8.ofNat_toNat]
  | two double admitsSecond =>
      have range := sequenceLength_eq_two_iff.mp double
      rw [admits_second_iff] at admitsSecond
      simp only [assemble, leadBits, double, List.foldl_nil, List.foldl_cons]
      rw [utf8EncodeChar_ofNat (by unfold Nat.isValidChar; omega), if_neg (by omega),
        if_pos (by omega)]
      simp only [List.cons.injEq, and_true]
      rw [ofNat_eq_iff (by omega), ofNat_eq_iff (by omega)]
      omega
  | three triple admitsSecond admitsThird =>
      have range := sequenceLength_eq_three_iff.mp triple
      rw [admits_second_iff] at admitsSecond
      rw [admits_third_iff] at admitsThird
      simp only [assemble, leadBits, triple, List.foldl_nil, List.foldl_cons]
      rw [utf8EncodeChar_ofNat (by unfold Nat.isValidChar; omega), if_neg (by omega),
        if_neg (by omega), if_pos (by omega)]
      simp only [List.cons.injEq, and_true]
      rw [ofNat_eq_iff (by omega), ofNat_eq_iff (by omega), ofNat_eq_iff (by omega)]
      omega
  | four quadruple admitsSecond admitsThird admitsFourth =>
      have range := sequenceLength_eq_four_iff.mp quadruple
      rw [admits_second_iff] at admitsSecond
      rw [admits_third_iff] at admitsThird
      rw [admits_fourth_iff] at admitsFourth
      simp only [assemble, leadBits, quadruple, List.foldl_nil, List.foldl_cons]
      rw [utf8EncodeChar_ofNat (by unfold Nat.isValidChar; omega), if_neg (by omega),
        if_neg (by omega), if_neg (by omega)]
      simp only [List.cons.injEq, and_true]
      rw [ofNat_eq_iff (by omega), ofNat_eq_iff (by omega), ofNat_eq_iff (by omega),
        ofNat_eq_iff (by omega)]
      omega

/-- Every character has bytes, and they are the ones that encode it. -/
theorem sequence_utf8EncodeChar (character : Char) :
    Sequence (String.utf8EncodeChar character) character := by
  have valid : character.toNat.isValidChar := character.valid
  rw [← Char.ofNat_toNat character]
  generalize character.toNat = code at valid
  rw [utf8EncodeChar_ofNat valid]
  unfold Nat.isValidChar at valid
  split_ifs with one two three
  · generalize leadCode : UInt8.ofNat code = lead
    rw [ofNat_eq_iff (by omega)] at leadCode
    have single : sequenceLength lead = 1 := sequenceLength_eq_one_iff.mpr (by omega)
    have whole : assemble lead [] = Char.ofNat code := by
      simp only [assemble, leadBits, single, List.foldl_nil, leadCode]
    exact whole ▸ .one single
  · generalize leadCode : UInt8.ofNat (code / 64 % 32 + 192) = lead
    generalize secondCode : UInt8.ofNat (code % 64 + 128) = second
    rw [ofNat_eq_iff (by omega)] at leadCode secondCode
    have double : sequenceLength lead = 2 := sequenceLength_eq_two_iff.mpr (by omega)
    have whole : assemble lead [second] = Char.ofNat code := by
      simp only [assemble, leadBits, double, List.foldl_nil, List.foldl_cons]
      congr 1
      omega
    exact whole ▸ .two double (admits_second_iff.mpr (by omega))
  · generalize leadCode : UInt8.ofNat (code / 4096 % 16 + 224) = lead
    generalize secondCode : UInt8.ofNat (code / 64 % 64 + 128) = second
    generalize thirdCode : UInt8.ofNat (code % 64 + 128) = third
    rw [ofNat_eq_iff (by omega)] at leadCode secondCode thirdCode
    have triple : sequenceLength lead = 3 := sequenceLength_eq_three_iff.mpr (by omega)
    have whole : assemble lead [second, third] = Char.ofNat code := by
      simp only [assemble, leadBits, triple, List.foldl_nil, List.foldl_cons]
      congr 1
      omega
    exact whole ▸ .three triple (admits_second_iff.mpr (by omega)) (admits_third_iff.mpr (by omega))
  · generalize leadCode : UInt8.ofNat (code / 262144 % 8 + 240) = lead
    generalize secondCode : UInt8.ofNat (code / 4096 % 64 + 128) = second
    generalize thirdCode : UInt8.ofNat (code / 64 % 64 + 128) = third
    generalize fourthCode : UInt8.ofNat (code % 64 + 128) = fourth
    rw [ofNat_eq_iff (by omega)] at leadCode secondCode thirdCode fourthCode
    have quadruple : sequenceLength lead = 4 := sequenceLength_eq_four_iff.mpr (by omega)
    have whole : assemble lead [second, third, fourth] = Char.ofNat code := by
      simp only [assemble, leadBits, quadruple, List.foldl_nil, List.foldl_cons]
      congr 1
      omega
    exact whole ▸ .four quadruple (admits_second_iff.mpr (by omega))
      (admits_third_iff.mpr (by omega)) (admits_fourth_iff.mpr (by omega))

end Character

/--
Bytes that a decoder carries over to the next ones: they begin a character and
do not complete it, or they begin a surrogate.
-/
def Carried (bytes : List UInt8) : Prop :=
  (∃ character rest, rest ≠ [] ∧ String.utf8EncodeChar character = bytes ++ rest) ∨
    ∃ second : UInt8, bytes = [0xED, second] ∧ 0xA0 ≤ second.toNat ∧ second.toNat ≤ 0xBF

/-- The bytes that the decoder carries over, by their count. -/
inductive Begun : List UInt8 → Prop where
  | none :
      Begun []
  | one
      {lead : UInt8}
      (more : 2 ≤ sequenceLength lead) :
      Begun [lead]
  | two
      {lead second : UInt8}
      (more : 3 ≤ sequenceLength lead)
      (admitsSecond : Admits [lead] second) :
      Begun [lead, second]
  | three
      {lead second third : UInt8}
      (more : sequenceLength lead = 4)
      (admitsSecond : Admits [lead] second)
      (admitsThird : Admits [lead, second] third) :
      Begun [lead, second, third]

/-- Whether a byte may come next where the given bytes are not a whole character. -/
def Accepts (pending : List UInt8) (byte : UInt8) : Prop :=
  match pending with
  | [] =>
      sequenceLength byte ≠ 0
  | lead :: continuation =>
      Admits (lead :: continuation) byte

/-- The count of bytes of a character that begins with the given bytes. -/
def wantedLength : List UInt8 → Nat
  | [] =>
      0
  | lead :: _ =>
      sequenceLength lead

section Prefixes

variable {bytes pending rest : List UInt8} {byte : UInt8} {character other : Char}

theorem wantedLength_append_cons :
    wantedLength (pending ++ byte :: rest) = wantedLength (pending ++ [byte]) := by
  cases pending <;> rfl

theorem Sequence.length_eq (sequence : Sequence bytes character) :
    bytes.length = wantedLength bytes := by
  cases sequence <;> simp_all [wantedLength]

theorem Begun.length_lt
    (begun : Begun bytes)
    (nonempty : bytes ≠ []) :
    bytes.length < wantedLength bytes := by
  cases begun <;> simp_all [wantedLength] <;> omega

theorem Sequence.unique
    (first : Sequence bytes character)
    (second : Sequence bytes other) :
    character = other := by
  cases first <;> cases second <;> rfl

/-- What comes before the last byte of a character begins it. -/
theorem Sequence.begun_take
    (sequence : Sequence bytes character)
    (count : Nat)
    (more : count < bytes.length) :
    Begun (bytes.take count) := by
  cases sequence with
  | one single =>
      match count, more with
      | 0, _ => exact .none
  | two double admitsSecond =>
      match count, more with
      | 0, _ => exact .none
      | 1, _ => exact .one (by omega)
  | three triple admitsSecond admitsThird =>
      match count, more with
      | 0, _ => exact .none
      | 1, _ => exact .one (by omega)
      | 2, _ => exact .two (by omega) admitsSecond
  | four quadruple admitsSecond admitsThird admitsFourth =>
      match count, more with
      | 0, _ => exact .none
      | 1, _ => exact .one (by omega)
      | 2, _ => exact .two (by omega) admitsSecond
      | 3, _ => exact .three quadruple admitsSecond admitsThird

theorem Sequence.accepts
    (sequence : Sequence bytes character)
    (index : Nat)
    (inside : index < bytes.length) :
    Accepts (bytes.take index) bytes[index] := by
  cases sequence with
  | one single =>
      rcases index with _ | index
      · simp [Accepts, single]
      · simp at inside
  | two double admitsSecond =>
      rcases index with _ | _ | index
      · simp [Accepts, double]
      · exact admitsSecond
      · have beyond : index + 2 < 2 := inside
        omega
  | three triple admitsSecond admitsThird =>
      rcases index with _ | _ | _ | index
      · simp [Accepts, triple]
      · exact admitsSecond
      · exact admitsThird
      · have beyond : index + 3 < 3 := inside
        omega
  | four quadruple admitsSecond admitsThird admitsFourth =>
      rcases index with _ | _ | _ | _ | index
      · simp [Accepts, quadruple]
      · exact admitsSecond
      · exact admitsThird
      · exact admitsFourth
      · have beyond : index + 4 < 4 := inside
        omega

theorem Begun.take
    (begun : Begun bytes)
    (count : Nat) :
    Begun (bytes.take count) := by
  cases begun with
  | none =>
      rw [List.take_nil]
      exact .none
  | one more =>
      match count with
      | 0 => exact .none
      | _ + 1 => simpa using .one more
  | two more admitsSecond =>
      match count with
      | 0 => exact .none
      | 1 => exact .one (by omega)
      | _ + 2 => simpa using .two more admitsSecond
  | three more admitsSecond admitsThird =>
      match count with
      | 0 => exact .none
      | 1 => exact .one (by omega)
      | 2 => exact .two (by omega) admitsSecond
      | _ + 3 => simpa using .three more admitsSecond admitsThird

theorem Begun.accepts
    (begun : Begun bytes)
    (index : Nat)
    (inside : index < bytes.length) :
    Accepts (bytes.take index) bytes[index] := by
  cases begun with
  | none =>
      simp at inside
  | one more =>
      match index, inside with
      | 0, _ => exact Nat.ne_zero_of_lt more
  | two more admitsSecond =>
      match index, inside with
      | 0, _ => exact Nat.ne_zero_of_lt more
      | 1, _ => exact admitsSecond
  | three more admitsSecond admitsThird =>
      match index, inside with
      | 0, _ => simp [Accepts, more]
      | 1, _ => exact admitsSecond
      | 2, _ => exact admitsThird

/-- The bytes that are carried over begin a character or a surrogate, byte by byte. -/
theorem begun_of_carried (carried : Carried pending) : Begun pending := by
  rcases carried with ⟨character, rest, more, shape⟩ | ⟨second, rfl, range⟩
  · have sequence := sequence_utf8EncodeChar character
    rw [shape] at sequence
    have shorter : pending.length < (pending ++ rest).length := by
      have := List.length_pos_iff.mpr more
      rw [List.length_append]
      omega
    have begun := sequence.begun_take pending.length shorter
    rwa [List.take_left] at begun
  · refine .two (by decide) (admits_second_iff.mpr ?_)
    rw [show (0xED : UInt8).toNat = 0xED from rfl]
    omega

theorem carried_of_sequence
    (sequence : Sequence (pending ++ rest) character)
    (more : rest ≠ []) :
    Carried pending :=
  .inl ⟨character, rest, more, utf8EncodeChar_of_sequence sequence⟩

theorem exists_second (lead : UInt8) :
    ∃ second, Admits [lead] second ∧ (lead.toNat = 0xED → second.toNat < 0xA0) := by
  by_cases shortForm : lead.toNat = 0xE0
  · exact ⟨0xA0, admits_second_iff.mpr (by simp; omega), by omega⟩
  · by_cases longForm : lead.toNat = 0xF0
    · exact ⟨0x90, admits_second_iff.mpr (by simp; omega), by omega⟩
    · exact ⟨0x80, admits_second_iff.mpr (by simp; omega), by simp⟩

/-- Bytes that begin a character can be completed, unless they begin a surrogate. -/
theorem carried_of_begun (begun : Begun pending) : Carried pending := by
  have fourth {lead second third : UInt8} : Admits [lead, second, third] 0x80 :=
    admits_fourth_iff.mpr (by simp)
  cases begun with
  | none =>
      have sequence : Sequence ([] ++ String.utf8EncodeChar 'a') 'a' :=
        sequence_utf8EncodeChar 'a'
      exact carried_of_sequence sequence (by simp)
  | @one lead more =>
      obtain ⟨second, admitsSecond, notSurrogate⟩ := exists_second lead
      have third : Admits [lead, second] 0x80 :=
        admits_third_iff.mpr ⟨notSurrogate, by simp⟩
      have atMost := sequenceLength_le_four lead
      rcases (by omega : sequenceLength lead = 2 ∨ sequenceLength lead = 3 ∨
        sequenceLength lead = 4) with double | triple | quadruple
      · exact carried_of_sequence (.two double admitsSecond) (by simp)
      · exact carried_of_sequence (.three triple admitsSecond third) (by simp)
      · exact carried_of_sequence (.four quadruple admitsSecond third fourth) (by simp)
  | @two lead second more admitsSecond =>
      have atMost := sequenceLength_le_four lead
      have range := admits_second_iff.mp admitsSecond
      by_cases surrogate : lead.toNat = 0xED ∧ 0xA0 ≤ second.toNat
      · have surrogateLead : lead = 0xED := UInt8.toNat_inj.mp surrogate.1
        exact .inr ⟨second, by rw [surrogateLead], surrogate.2, range.2.1⟩
      · have third : Admits [lead, second] 0x80 :=
          admits_third_iff.mpr ⟨by omega, by simp⟩
        rcases (by omega : sequenceLength lead = 3 ∨ sequenceLength lead = 4) with
          triple | quadruple
        · exact carried_of_sequence (.three triple admitsSecond third) (by simp)
        · exact carried_of_sequence (.four quadruple admitsSecond third fourth) (by simp)
  | three more admitsSecond admitsThird =>
      exact carried_of_sequence (.four more admitsSecond admitsThird fourth) (by simp)

end Prefixes

section Reading

variable {pending rest : List UInt8} {byte : UInt8} {character : Char}

/-- What one more byte makes of the bytes that are carried over. -/
theorem readByte_of_accepts
    (begun : Begun pending)
    (accepts : Accepts pending byte) :
    (∃ character,
      readByte pending byte = .complete character ∧ Sequence (pending ++ [byte]) character) ∨
      (readByte pending byte = .incomplete (pending ++ [byte]) ∧ Begun (pending ++ [byte])) := by
  cases begun with
  | none =>
      by_cases single : sequenceLength byte = 1
      · exact .inl ⟨assemble byte [], by simp [readByte, single], .one single⟩
      · have more : sequenceLength byte ≠ 0 := accepts
        refine .inr ⟨by simp [readByte, single, more], .one (by omega)⟩
  | @one lead more =>
      have admits : Admits [lead] byte := accepts
      obtain ⟨notSurrogate, range⟩ := admits
      by_cases double : sequenceLength lead = 2
      · exact .inl ⟨assemble lead [byte], by simp [readByte, notSurrogate, range, double],
          .two double accepts⟩
      · refine .inr ⟨by simp [readByte, notSurrogate, range]; omega, .two (by omega) accepts⟩
  | @two lead second more admitsSecond =>
      have admits : Admits [lead, second] byte := accepts
      obtain ⟨notSurrogate, range⟩ := admits
      by_cases triple : sequenceLength lead = 3
      · exact .inl ⟨assemble lead [second, byte], by simp [readByte, notSurrogate, range, triple],
          .three triple admitsSecond accepts⟩
      · have atMost := sequenceLength_le_four lead
        refine .inr ⟨by simp [readByte, notSurrogate, range]; omega,
          .three (by omega) admitsSecond accepts⟩
  | @three lead second third more admitsSecond admitsThird =>
      have admits : Admits [lead, second, third] byte := accepts
      obtain ⟨notSurrogate, range⟩ := admits
      exact .inl ⟨assemble lead [second, third, byte],
        by simp [readByte, notSurrogate, range, more],
        .four more admitsSecond admitsThird accepts⟩

theorem readByte_of_not_accepts (refuses : ¬ Accepts pending byte) :
    ∃ bytes reason,
      readByte pending byte = .refused bytes reason ∧
        bytes ≠ [] ∧ bytes <+: pending ++ [byte] := by
  cases pending with
  | nil =>
      have none : sequenceLength byte = 0 := by
        simpa [Accepts] using refuses
      exact ⟨[byte], .invalidStart, by simp [readByte, none], by simp, by simp⟩
  | cons lead continuation =>
      by_cases surrogate : beginsSurrogate (lead :: continuation) = true
      · exact ⟨[lead], .invalidContinuation, by simp [readByte, surrogate], by simp, by simp⟩
      · have outside :
            ¬ ((continuationRange (lead :: continuation)).1 ≤ byte ∧
              byte ≤ (continuationRange (lead :: continuation)).2) :=
          fun range => refuses ⟨by simpa using surrogate, range⟩
        exact ⟨lead :: continuation, .invalidContinuation,
          by simp only [readByte, surrogate, outside]; rfl, by simp, by simp⟩

theorem readByte_of_sequence
    (sequence : Sequence (pending ++ byte :: rest) character) :
    readByte pending byte =
      if rest = [] then .complete character else .incomplete (pending ++ [byte]) := by
  have inside : pending.length < (pending ++ byte :: rest).length := by
    simp
  have begun := sequence.begun_take pending.length inside
  have accepts := sequence.accepts pending.length inside
  simp only [List.take_left, List.getElem_append_right (Nat.le_refl _), Nat.sub_self,
    List.getElem_cons_zero] at begun accepts
  have length := sequence.length_eq
  rw [wantedLength_append_cons] at length
  rcases readByte_of_accepts begun accepts with ⟨other, complete, whole⟩ | ⟨incomplete, partly⟩
  · have restLength := whole.length_eq
    rw [← length] at restLength
    obtain rfl : rest = [] := by
      simpa using restLength
    rw [complete, if_pos rfl, whole.unique sequence]
  · have restLength := partly.length_lt (by simp)
    rw [← length] at restLength
    have more : rest ≠ [] := by
      rintro rfl
      simp at restLength
    rw [incomplete, if_neg more]

theorem readByte_of_begun
    (begun : Begun (pending ++ byte :: rest)) :
    readByte pending byte = .incomplete (pending ++ [byte]) := by
  have inside : pending.length < (pending ++ byte :: rest).length := by
    simp
  have earlier := begun.take pending.length
  have accepts := begun.accepts pending.length inside
  simp only [List.take_left, List.getElem_append_right (Nat.le_refl _), Nat.sub_self,
    List.getElem_cons_zero] at earlier accepts
  rcases readByte_of_accepts earlier accepts with ⟨other, _, whole⟩ | ⟨incomplete, _⟩
  · have length := begun.length_lt (by simp)
    rw [wantedLength_append_cons, ← whole.length_eq] at length
    simp at length
  · exact incomplete

end Reading

end CommandConsole.Text.Utf8
