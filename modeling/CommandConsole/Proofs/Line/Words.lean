import CommandConsole.Line.Word
import Mathlib.Data.List.TakeWhile

namespace CommandConsole.Line

/-!
# Words of texts that are put together

How the words of a text follow from those of its parts: blanks in front go to
the first gap, and a run of other characters in front of a blank or of the end
is a word of its own.
-/

/-- The words of a text given by its characters. -/
def wordsOf (characters : List Char) : List Word :=
  characters.foldr Word.prepend []

theorem words_ofList (characters : List Char) :
    words (String.ofList characters) = wordsOf characters := by
  simp [words, wordsOf]

@[simp] theorem wordsOf_nil : wordsOf [] = [] :=
  rfl

theorem wordsOf_cons (character : Char) (rest : List Char) :
    wordsOf (character :: rest) = Word.prepend character (wordsOf rest) :=
  rfl

theorem wellFormed_wordsOf (characters : List Char) :
    ∀ word ∈ wordsOf characters, word.WellFormed := by
  rw [← words_ofList]
  exact wellFormed_words _

/-- The words of a text and the blanks behind the last one are the text. -/
theorem exists_spaced_wordsOf (characters : List Char) :
    ∃ trailing, (∀ character ∈ trailing, Text.isBlank character = true) ∧
      characters = (wordsOf characters).flatMap Word.spaced ++ trailing := by
  obtain ⟨trailing, blank, shape⟩ := exists_spaced_words (String.ofList characters)
  rw [words_ofList, String.toList_ofList] at shape
  exact ⟨trailing, blank, shape⟩

/-- Whether a text is empty or starts with a blank, so that it ends a word in front of it. -/
def EndsWord (characters : List Char) : Prop :=
  ∀ character ∈ characters.head?, Text.isBlank character = true

theorem endsWord_cons
    {character : Char}
    (blank : Text.isBlank character = true)
    (rest : List Char) :
    EndsWord (character :: rest) := by
  simpa [EndsWord] using blank

theorem endsWord_of_blank
    {characters : List Char}
    (blank : ∀ character ∈ characters, Text.isBlank character = true) :
    EndsWord characters :=
  fun character first => blank character (List.mem_of_mem_head? first)

theorem wordsOf_of_blank
    {characters : List Char}
    (blank : ∀ character ∈ characters, Text.isBlank character = true) :
    wordsOf characters = [] := by
  induction characters with
  | nil =>
      rfl
  | cons character rest inductionHypothesis =>
      simp only [List.mem_cons, forall_eq_or_imp] at blank
      rw [wordsOf_cons, inductionHypothesis blank.2]
      simp [Word.prepend, blank.1]

/-- A first word without a gap starts the text, and one with a gap has a blank in front. -/
theorem gap_eq_nil_iff_of_wordsOf
    {characters : List Char}
    {first : Word}
    {following : List Word}
    (shape : wordsOf characters = first :: following) :
    first.gap = [] ↔ ¬ EndsWord characters := by
  have wellFormed := wellFormed_wordsOf characters first (by simp [shape])
  obtain ⟨trailing, _, text⟩ := exists_spaced_wordsOf characters
  rw [shape, List.flatMap_cons, Word.spaced] at text
  rw [text]
  constructor
  · intro adjacent endsWord
    obtain ⟨character, rest, firstText⟩ :=
      List.exists_cons_of_ne_nil wellFormed.nonempty
    have notBlank := wellFormed.noBlank character (by simp [firstText])
    have blank := endsWord character (by simp [adjacent, firstText])
    simp [notBlank] at blank
  · intro startsWord
    cases gap : first.gap with
    | nil =>
        rfl
    | cons character rest =>
        have blank := wellFormed.blankGap character (by simp [gap])
        refine (startsWord ?_).elim
        rw [gap]
        exact endsWord_cons blank _

/-- A character in front of a text that ends a word starts a word of its own. -/
theorem wordsOf_cons_of_endsWord
    {character : Char}
    {rest : List Char}
    (notBlank : Text.isBlank character = false)
    (endsWord : EndsWord rest) :
    wordsOf (character :: rest) = ⟨[], [character]⟩ :: wordsOf rest := by
  rw [wordsOf_cons]
  cases shape : wordsOf rest with
  | nil =>
      simp [Word.prepend, notBlank]
  | cons first following =>
      have spaced : first.gap ≠ [] := by
        intro adjacent
        exact (gap_eq_nil_iff_of_wordsOf shape).mp adjacent endsWord
      simp [Word.prepend, notBlank, spaced]

/-- Characters in front of a text that ends a word are a word of their own. -/
theorem wordsOf_append_of_endsWord
    {word rest : List Char}
    (noBlank : ∀ character ∈ word, Text.isBlank character = false)
    (nonempty : word ≠ [])
    (endsWord : EndsWord rest) :
    wordsOf (word ++ rest) = ⟨[], word⟩ :: wordsOf rest := by
  induction word with
  | nil =>
      exact (nonempty rfl).elim
  | cons character others inductionHypothesis =>
      simp only [List.mem_cons, forall_eq_or_imp] at noBlank
      cases others with
      | nil =>
          exact wordsOf_cons_of_endsWord noBlank.1 endsWord
      | cons second others =>
          rw [List.cons_append, wordsOf_cons,
            inductionHypothesis noBlank.2 (List.cons_ne_nil second others)]
          simp [Word.prepend, noBlank.1]

/-- Blanks in front of a text go to the gap of its first word. -/
theorem wordsOf_blank_append
    {gap rest : List Char}
    {first : Word}
    {following : List Word}
    (blank : ∀ character ∈ gap, Text.isBlank character = true)
    (shape : wordsOf rest = first :: following) :
    wordsOf (gap ++ rest) = ⟨gap ++ first.gap, first.text⟩ :: following := by
  induction gap with
  | nil =>
      exact shape
  | cons character others inductionHypothesis =>
      simp only [List.mem_cons, forall_eq_or_imp] at blank
      rw [List.cons_append, wordsOf_cons, inductionHypothesis blank.2]
      simp [Word.prepend, blank.1]

theorem forall_not_blank_of_all
    {characters : List Char}
    (all : (characters.all fun character => !Text.isBlank character) = true) :
    ∀ character ∈ characters, Text.isBlank character = false := by
  simpa using all

/-- The characters between the blanks at the front of a text and the next blank. -/
def firstWord (characters : List Char) : List Char :=
  (characters.dropWhile Text.isBlank).takeWhile fun character => !Text.isBlank character

/-- What is left behind a longest run of characters other than blanks ends a word. -/
theorem endsWord_dropWhile (characters : List Char) :
    EndsWord (characters.dropWhile fun character => !Text.isBlank character) := by
  intro character first
  have stopped := List.head?_dropWhile_not (fun character => !Text.isBlank character) characters
  rw [Option.mem_def] at first
  simpa [first] using stopped

/-- A text that starts with a word is that word, up to the next blank, and the rest. -/
theorem wordsOf_of_not_blank
    {character : Char}
    (notBlank : Text.isBlank character = false)
    (rest : List Char) :
    wordsOf (character :: rest) =
      ⟨[], (character :: rest).takeWhile fun character => !Text.isBlank character⟩ ::
        wordsOf ((character :: rest).dropWhile fun character => !Text.isBlank character) := by
  have noBlank :
      ∀ member ∈ (character :: rest).takeWhile fun character => !Text.isBlank character,
        Text.isBlank member = false :=
    forall_not_blank_of_all List.all_takeWhile
  have nonempty :
      ((character :: rest).takeWhile fun character => !Text.isBlank character) ≠ [] := by
    simp [notBlank]
  have split := wordsOf_append_of_endsWord noBlank nonempty
    (endsWord_dropWhile (character :: rest))
  rwa [List.takeWhile_append_dropWhile] at split

/-- The first word of a text reaches up to the next blank. -/
theorem text_eq_firstWord
    {characters : List Char}
    {first : Word}
    {following : List Word}
    (shape : wordsOf characters = first :: following) :
    first.text = firstWord characters := by
  have blank : ∀ character ∈ characters.takeWhile Text.isBlank,
      Text.isBlank character = true :=
    fun character member => List.all_eq_true.mp List.all_takeWhile character member
  have parts : characters.takeWhile Text.isBlank ++ characters.dropWhile Text.isBlank =
      characters :=
    List.takeWhile_append_dropWhile
  cases remaining : characters.dropWhile Text.isBlank with
  | nil =>
      rw [remaining, List.append_nil] at parts
      rw [← parts, wordsOf_of_blank blank] at shape
      exact nomatch shape
  | cons character rest =>
      have notBlank : Text.isBlank character = false := by
        have stopped := List.head?_dropWhile_not Text.isBlank characters
        simpa [remaining] using stopped
      have spaced := wordsOf_blank_append blank (wordsOf_of_not_blank notBlank rest)
      rw [remaining] at parts
      rw [parts, shape] at spaced
      have sameFirst := (List.cons.inj spaced).1
      rw [sameFirst, firstWord, remaining]

/-- What follows a word does not change the first word of a text that is not blank. -/
theorem firstWord_append
    {characters following : List Char}
    {member : Char}
    (inText : member ∈ characters)
    (notBlank : Text.isBlank member = false)
    (endsWord : EndsWord following) :
    firstWord (characters ++ following) = firstWord characters := by
  have stops : following.takeWhile (fun character => !Text.isBlank character) = [] := by
    cases following with
    | nil =>
        rfl
    | cons next others =>
        have blank := endsWord next (by simp)
        simp [blank]
  have remains : characters.dropWhile Text.isBlank ≠ [] := by
    intro empty
    have blank := List.dropWhile_eq_nil_iff.mp empty member inText
    simp [notBlank] at blank
  rw [firstWord, List.dropWhile_append]
  simp only [List.isEmpty_iff, remains, ↓reduceIte]
  rw [List.takeWhile_append]
  split
  · next whole =>
      rw [stops, List.append_nil]
      exact (List.IsPrefix.eq_of_length (List.takeWhile_prefix _) whole).symm
  · rfl

theorem firstWord_cons_of_blank
    {character : Char}
    (blank : Text.isBlank character = true)
    (rest : List Char) :
    firstWord (character :: rest) = firstWord rest := by
  simp [firstWord, blank]

theorem exists_wordsOf
    {characters : List Char}
    {member : Char}
    (inText : member ∈ characters)
    (notBlank : Text.isBlank member = false) :
    ∃ first following, wordsOf characters = first :: following := by
  cases shape : wordsOf characters with
  | nil =>
      obtain ⟨trailing, blank, text⟩ := exists_spaced_wordsOf characters
      rw [shape, List.flatMap_nil, List.nil_append] at text
      have isBlank := blank member (text ▸ inText)
      simp [notBlank] at isBlank
  | cons first following =>
      exact ⟨first, following, rfl⟩

end CommandConsole.Line
