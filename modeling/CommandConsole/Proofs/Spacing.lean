import CommandConsole.Proofs.QuoteSpans

namespace CommandConsole

open Line

/-!
# Spacing matters in quote spans alone

Two lines with the same tokens are parsed alike, whatever blanks they have
between these, as long as they have the same blanks between the tokens that a
quote span takes together.
-/

namespace Line

/-- The characters between the token with a given index and the next one. -/
def spacing (line : String) (index : Nat) : List Char :=
  match (tokenize line).drop index with
  | token :: next :: _ =>
      slice line token.stop next.start
  | _ =>
      []

/-- Behind a token stands the gap of the next word. -/
theorem spacing_eq (line : String) (index : Nat) :
    spacing line index = (words line)[index + 1]?.elim [] Word.gap := by
  cases next : (words line)[index + 1]? with
  | none =>
      have short : ((tokenize line).drop index).length ≤ 1 := by
        have outside := List.getElem?_eq_none_iff.mp next
        rw [List.length_drop, tokenize, length_tokensFrom]
        omega
      unfold spacing
      split
      · next shape =>
          simp [shape] at short
      · rfl
  | some word =>
      obtain ⟨inside, rfl⟩ := List.getElem?_eq_some_iff.mp next
      have previous : index < (words line).length :=
        Nat.lt_of_succ_lt inside
      have split : (words line).drop index =
          (words line)[index] :: (words line)[index + 1] :: (words line).drop (index + 2) := by
        rw [List.drop_eq_getElem_cons previous, List.drop_eq_getElem_cons inside]
      have located : Located line 0 ((words line).take index ++ (words line).drop index) := by
        rw [List.take_append_drop]
        exact located_words line
      obtain ⟨trailing, _, shape⟩ := (split ▸ located.append_right).tail.text
      rw [List.flatMap_cons, List.append_assoc] at shape
      rw [spacing, tokenize, drop_tokensFrom, split, tokensFrom_cons, tokensFrom_cons]
      simp only [tokenAt, slice, Nat.add_sub_cancel_left]
      rw [shape, Word.spaced, List.append_assoc, List.take_left]
      rfl

/-- Words with further blanks in front of the first one. -/
def Word.indent (blanks : List Char) : List Word → List Word
  | [] =>
      []
  | word :: words =>
      ⟨blanks ++ word.gap, word.text⟩ :: words

theorem Word.getElem?_indent (blanks : List Char) (words : List Word) (index : Nat) :
    (indent blanks words)[index + 1]? = words[index + 1]? := by
  cases words <;> rfl

/-- Words behind others have another gap in no place but that of the first of them. -/
theorem Word.getElem?_append_indent
    {earlier : List Word}
    {index : Nat}
    (elsewhere : earlier.length ≠ index)
    (blanks : List Char)
    (words : List Word) :
    (earlier ++ indent blanks words)[index]? = (earlier ++ words)[index]? := by
  rw [List.getElem?_append, List.getElem?_append]
  split
  · rfl
  · next outside =>
      obtain ⟨further, place⟩ : ∃ further, index - earlier.length = further + 1 :=
        Nat.exists_eq_add_one.mpr (by omega)
      rw [place, getElem?_indent]

theorem blank_of_wordsOf_eq_nil
    {characters : List Char}
    (noWords : wordsOf characters = []) :
    ∀ character ∈ characters, Text.isBlank character = true := by
  obtain ⟨trailing, blank, shape⟩ := exists_spaced_wordsOf characters
  rw [noWords, List.flatMap_nil, List.nil_append] at shape
  exact shape ▸ blank

theorem wordsOf_indent
    {blanks : List Char}
    (blank : ∀ character ∈ blanks, Text.isBlank character = true)
    (characters : List Char) :
    wordsOf (blanks ++ characters) = Word.indent blanks (wordsOf characters) := by
  cases shape : wordsOf characters with
  | nil =>
      apply wordsOf_of_blank
      exact List.forall_mem_append.mpr ⟨blank, blank_of_wordsOf_eq_nil shape⟩
  | cons word words =>
      exact wordsOf_blank_append blank shape

/-- Blanks at the end of a text that goes on with a blank belong to the gap behind it. -/
theorem exists_wordsOf_append (characters : List Char) :
    ∃ trailing, ∀ rest, EndsWord rest →
      wordsOf (characters ++ rest) = wordsOf characters ++ Word.indent trailing (wordsOf rest) := by
  induction characters with
  | nil =>
      refine ⟨[], fun rest _ => ?_⟩
      cases shape : wordsOf rest <;> simp [Word.indent, shape]
  | cons character characters inductionHypothesis =>
      obtain ⟨trailing, appended⟩ := inductionHypothesis
      cases shape : wordsOf characters with
      | cons word words =>
          refine ⟨trailing, fun rest endsWord => ?_⟩
          rw [List.cons_append, wordsOf_cons, appended rest endsWord, wordsOf_cons, shape,
            List.cons_append]
          simp only [Word.prepend]
          split_ifs <;> rfl
      | nil =>
          have blanks := blank_of_wordsOf_eq_nil shape
          by_cases blank : Text.isBlank character = true
          · have allBlank : ∀ other ∈ character :: characters, Text.isBlank other = true :=
              List.forall_mem_cons.mpr ⟨blank, blanks⟩
            refine ⟨character :: characters, fun rest _ => ?_⟩
            rw [wordsOf_indent allBlank, wordsOf_of_blank allBlank, List.nil_append]
          · have notBlank : Text.isBlank character = false := by
              simpa using blank
            refine ⟨characters, fun rest endsWord => ?_⟩
            have endsHere : EndsWord (characters ++ rest) := by
              cases characters with
              | nil =>
                  exact endsWord
              | cons first others =>
                  exact endsWord_cons (blanks first List.mem_cons_self) _
            rw [List.cons_append, wordsOf_cons_of_endsWord notBlank endsHere,
              wordsOf_indent blanks,
              wordsOf_cons_of_endsWord notBlank (endsWord_of_blank blanks), shape]
            rfl

/-- Other blanks between two texts change no gap but that of the first word behind them. -/
theorem exists_words_of_blanks_between (before behind : List Char) :
    ∃ trailing, ∀ blanks ≠ [],
      (∀ character ∈ blanks, Text.isBlank character = true) →
        words (String.ofList (before ++ (blanks ++ behind))) =
          wordsOf before ++ Word.indent (trailing ++ blanks) (wordsOf behind) := by
  obtain ⟨trailing, appended⟩ := exists_wordsOf_append before
  refine ⟨trailing, fun blanks nonempty blank => ?_⟩
  have endsWord : EndsWord (blanks ++ behind) := by
    obtain ⟨first, others, rfl⟩ := List.exists_cons_of_ne_nil nonempty
    exact endsWord_cons (blank first List.mem_cons_self) _
  rw [words_ofList, appended _ endsWord, wordsOf_indent blank]
  cases wordsOf behind with
  | nil =>
      rfl
  | cons word words =>
      simp [Word.indent]

/-- Blanks around a line change no gap but that of its first word. -/
theorem words_of_blanks_around
    {leading trailing : List Char}
    (leadingBlank : ∀ character ∈ leading, Text.isBlank character = true)
    (trailingBlank : ∀ character ∈ trailing, Text.isBlank character = true)
    (line : String) :
    words (String.ofList (leading ++ (line.toList ++ trailing))) =
      Word.indent leading (words line) := by
  obtain ⟨ending, appended⟩ := exists_wordsOf_append line.toList
  rw [words_ofList, wordsOf_indent leadingBlank,
    appended _ (endsWord_of_blank trailingBlank), wordsOf_of_blank trailingBlank]
  simp [Word.indent, ← words_ofList]

end Line

namespace Grammar

theorem textsOf_words (line : String) :
    (tokenize line).map Token.text = textsOf (words line) :=
  map_text_tokensFrom 0 (words line)

theorem textsOf_append (first second : List Word) :
    textsOf (first ++ second) = textsOf first ++ textsOf second :=
  List.map_append

theorem textsOf_indent (blanks : List Char) (words : List Word) :
    textsOf (Word.indent blanks words) = textsOf words := by
  cases words <;> rfl

theorem textsOf_drop
    {first second : List Word}
    (sameTexts : textsOf first = textsOf second)
    (count : Nat) :
    textsOf (first.drop count) = textsOf (second.drop count) := by
  have dropped := congrArg (List.drop count) sameTexts
  rwa [textsOf, textsOf, ← List.map_drop, ← List.map_drop] at dropped

/-- Words with the same texts are the same where the gaps in front of them are the same. -/
theorem getElem?_eq_of_textsOf
    {first second : List Word}
    (sameTexts : textsOf first = textsOf second)
    {index : Nat}
    (sameGap : first[index]?.elim [] Word.gap = second[index]?.elim [] Word.gap) :
    first[index]? = second[index]? := by
  have sameText := congrArg (fun texts => texts[index]?) sameTexts
  simp only [textsOf, List.getElem?_map] at sameText
  cases firstFound : first[index]? with
  | none =>
      rw [firstFound] at sameText
      exact (Option.map_eq_none_iff.mp sameText.symm).symm
  | some word =>
      rw [firstFound] at sameText sameGap
      obtain ⟨other, secondFound, texts⟩ := Option.map_eq_some_iff.mp sameText.symm
      rw [secondFound] at sameGap ⊢
      obtain ⟨gap, text⟩ := word
      obtain ⟨otherGap, otherText⟩ := other
      obtain rfl : gap = otherGap := sameGap
      obtain rfl : otherText = text := String.ofList_injective texts
      rfl

/-- What is bound, with the words that are left by their texts alone. -/
def forgetGaps (bound : List String × List Word) : List String × List String :=
  (bound.1, textsOf bound.2)

theorem forgetGaps_map_cons
    (argument : String)
    (script : Script (List String × List Word)) :
    (forgetGaps <$> do
        let (arguments, words) ← script
        pure (argument :: arguments, words)) =
      (fun bound => (argument :: bound.1, bound.2)) <$> forgetGaps <$> script := by
  simp only [bind_pure_comp, Functor.map_map]
  rfl

section Binding

variable {store : Variables}

/-- A parameter and the words it takes come in front of what the others are bound to. -/
theorem forgetGaps_bindParameters_cons
    {commandName : String}
    {parameter : Parameter}
    {parameters : List Parameter}
    {word : Word}
    {following rest : List Word}
    {acts : List Act}
    {argument : String}
    (read : Invocation.readArgument store parameter word following =
      ⟨acts, .ok (argument, rest)⟩) :
    forgetGaps <$>
        Invocation.bindParameters store commandName (parameter :: parameters)
          (word :: following) =
      Script.mk acts (.ok ()) >>= fun _ =>
        (fun bound => (argument :: bound.1, bound.2)) <$> forgetGaps <$>
          Invocation.bindParameters store commandName parameters rest := by
  rw [Invocation.bindParameters, read, map_bind, Script.bind_of_ok rfl, Script.bind_of_ok rfl]
  dsimp only
  rw [forgetGaps_map_cons]

/--
Words with the same texts are bound alike, if those are the same that are taken
by a span behind the word that opens it.
-/
theorem bindParameters_congr
    (commandName : String)
    {parameters : List Parameter}
    {first second : List Word}
    {index offset : Nat}
    (sameTexts : textsOf first = textsOf second)
    (sameInSpans :
      ∀ stretch ∈ spansFrom store parameters index (tokensFrom offset (first.drop index)),
        ∀ place, stretch.Joins place → first[place + 1]? = second[place + 1]?) :
    forgetGaps <$> Invocation.bindParameters store commandName parameters (first.drop index) =
      forgetGaps <$> Invocation.bindParameters store commandName parameters
        (second.drop index) := by
  induction parameters generalizing index offset with
  | nil =>
      have texts := textsOf_drop sameTexts index
      simp only [Invocation.bindParameters, map_pure, forgetGaps, texts]
  | cons parameter parameters inductionHypothesis =>
      have texts := textsOf_drop sameTexts index
      cases firstLeft : first.drop index with
      | nil =>
          rw [firstLeft] at texts
          have secondLeft : second.drop index = [] :=
            List.map_eq_nil_iff.mp texts.symm
          rw [secondLeft]
      | cons word following =>
          rw [firstLeft] at texts sameInSpans
          obtain ⟨other, others, secondLeft, sameText, behind⟩ :=
            List.map_eq_cons_iff.mp texts.symm
          have sameValue : Invocation.wordValue store parameter other =
              Invocation.wordValue store parameter word := by
            simp only [Invocation.wordValue, String.ofList_injective sameText]
          have firstBehind : first.drop (index + 1) = following := by
            rw [← List.drop_drop, firstLeft, List.drop_one, List.tail_cons]
          have secondBehind : second.drop (index + 1) = others := by
            rw [← List.drop_drop, secondLeft, List.drop_one, List.tail_cons]
          rw [secondLeft]
          rcases quoted_or_plain store parameter word with ⟨quotable, tail, value⟩ | plain
          · obtain ⟨taken, size, read, stretches⟩ :=
              exists_taken_of_quoted quotable value following
            obtain ⟨otherTaken, otherSize, otherRead, _⟩ :=
              exists_taken_of_quoted quotable (sameValue.trans value) others
            rw [stretches] at sameInSpans
            have sameTaken : otherTaken = taken := by
              change textsOf others = textsOf following at behind
              rw [behind] at otherSize
              omega
            have sameWords : others.take taken = following.take taken := by
              apply List.ext_getElem?
              intro place
              rw [List.getElem?_take, List.getElem?_take]
              split
              · next inside =>
                  have joins : Stretch.Joins ⟨index, taken + 1⟩ (index + place) :=
                    ⟨Nat.le_add_right index place, by dsimp only; omega⟩
                  have same := sameInSpans _ List.mem_cons_self _ joins
                  rw [← firstBehind, ← secondBehind, List.getElem?_drop, List.getElem?_drop,
                    Nat.add_right_comm index 1 place, same]
              · rfl
            have later : following.drop taken = first.drop (index + (taken + 1)) := by
              rw [← firstBehind, List.drop_drop]
              congr 1
              omega
            have otherLater : others.drop taken = second.drop (index + (taken + 1)) := by
              rw [← secondBehind, List.drop_drop]
              congr 1
              omega
            rw [sameTaken, sameWords] at otherRead
            rw [forgetGaps_bindParameters_cons read, forgetGaps_bindParameters_cons otherRead,
              later, otherLater, inductionHypothesis]
            intro stretch member
            rw [← later] at member
            exact sameInSpans stretch (List.mem_cons_of_mem _ member)
          · have otherPlain := plain
            rw [← sameValue] at otherPlain
            rw [spansFrom_of_plain plain, ← firstBehind] at sameInSpans
            rw [forgetGaps_bindParameters_cons (readArgument_of_plain plain following),
              forgetGaps_bindParameters_cons (readArgument_of_plain otherPlain others),
              sameValue, ← firstBehind, ← secondBehind, inductionHypothesis sameInSpans]

end Binding

section Line

variable {registry : Registry} {store : Variables} {first second : String}

/-- What a command comes to with its arguments and the texts that are left behind them. -/
def invoke (command : Command) (bound : List String × List String) : Script Invocation :=
  match bound.2 with
  | [] =>
      pure ⟨command, bound.1⟩
  | text :: _ =>
      .fail (.unexpectedParameter command.name text)

/-- Words are invoked by the text of the first and by what the others are bound to. -/
theorem ofWords_eq (word : Word) (following : List Word) :
    Invocation.ofWords registry store word following =
      Script.ofExcept (registry.lookup (String.ofList word.text)) >>= fun command =>
        forgetGaps <$>
            Invocation.bindParameters store command.name command.parameters following >>=
          invoke command := by
  rw [Invocation.ofWords]
  congr 1
  funext command
  rw [bind_map_left]
  congr 1
  funext bound
  obtain ⟨arguments, left⟩ := bound
  cases left <;> rfl

/-- Lines with the same tokens and the same blanks within spans are the same invocation. -/
theorem ofLine?_congr
    (sameTexts : (tokenize first).map Token.text = (tokenize second).map Token.text)
    (sameSpacing : ∀ stretch ∈ quoteSpans registry store first, ∀ index, stretch.Joins index →
      spacing first index = spacing second index) :
    Invocation.ofLine? registry store first = Invocation.ofLine? registry store second := by
  rw [textsOf_words, textsOf_words] at sameTexts
  cases firstShape : words first with
  | nil =>
      rw [firstShape] at sameTexts
      have secondShape : words second = [] :=
        List.map_eq_nil_iff.mp sameTexts.symm
      rw [Invocation.ofLine?, Invocation.ofLine?, firstShape, secondShape]
  | cons word following =>
      have texts := sameTexts
      rw [firstShape] at texts
      obtain ⟨other, others, secondShape, sameText, _⟩ := List.map_eq_cons_iff.mp texts.symm
      rw [Invocation.ofLine?, Invocation.ofLine?, firstShape, secondShape]
      dsimp only
      rw [ofWords_eq, ofWords_eq, sameText]
      cases found : registry.lookup (String.ofList word.text) with
      | error fault =>
          rw [Script.bind_of_error rfl, Script.bind_of_error rfl]
      | ok command =>
          have stretches : quoteSpans registry store first =
              spansFrom store command.parameters 1
                (tokensFrom (0 + word.spaced.length) ((words first).drop 1)) := by
            rw [quoteSpans, tokenize_of_words firstShape, firstShape]
            simp only [tokenAt, found, List.drop_one, List.tail_cons]
          have sameWords :
              ∀ stretch ∈ quoteSpans registry store first, ∀ index, stretch.Joins index →
                (words first)[index + 1]? = (words second)[index + 1]? := by
            intro stretch member index joins
            apply getElem?_eq_of_textsOf sameTexts
            rw [← spacing_eq, ← spacing_eq]
            exact sameSpacing stretch member index joins
          rw [stretches] at sameWords
          have bound := bindParameters_congr command.name sameTexts sameWords
          rw [firstShape, secondShape, List.drop_one, List.drop_one, List.tail_cons,
            List.tail_cons] at bound
          have named : Script.ofExcept (.ok command) = pure command := rfl
          rw [named, pure_bind, pure_bind, bound]

end Line

end Grammar

open Grammar

/--
A line is parsed by its tokens and the blanks within its quote spans: other
blanks between tokens change neither what the line comes to nor the session. So
blanks around a line change nothing, and neither do other blanks between two
tokens that no span takes together.
-/
theorem Session.parse_ignores_blanks_outside_spans (session : Session) :
    (∀ first second,
      (tokenize first).map Token.text = (tokenize second).map Token.text →
      (∀ stretch ∈ quoteSpans session.registry session.store first,
        ∀ index, stretch.Joins index → spacing first index = spacing second index) →
        session.parse first = session.parse second) ∧
    (∀ (line : String) (leading trailing : List Char),
      (∀ character ∈ leading, Text.isBlank character = true) →
      (∀ character ∈ trailing, Text.isBlank character = true) →
        session.parse (String.ofList (leading ++ (line.toList ++ trailing))) =
          session.parse line) ∧
    ∀ (before behind blanks others : List Char),
      blanks ≠ [] → (∀ character ∈ blanks, Text.isBlank character = true) →
      others ≠ [] → (∀ character ∈ others, Text.isBlank character = true) →
      let line := String.ofList (before ++ (blanks ++ behind))
      (∀ stretch ∈ quoteSpans session.registry session.store line,
        ∀ index, stretch.Joins index →
          (tokenize (String.ofList before)).length ≠ index + 1) →
        session.parse line = session.parse (String.ofList (before ++ (others ++ behind))) := by
  have general (first second : String)
      (sameTexts : (tokenize first).map Token.text = (tokenize second).map Token.text)
      (sameSpacing : ∀ stretch ∈ quoteSpans session.registry session.store first,
        ∀ index, stretch.Joins index → spacing first index = spacing second index) :
      session.parse first = session.parse second := by
    rw [parse, parse, ofLine?_congr sameTexts sameSpacing]
  refine ⟨general, ?_, ?_⟩
  · intro line leading trailing leadingBlank trailingBlank
    have around := words_of_blanks_around leadingBlank trailingBlank line
    apply general
    · rw [textsOf_words, textsOf_words, around, textsOf_indent]
    · intro stretch _ index _
      rw [spacing_eq, spacing_eq, around, Word.getElem?_indent]
  · intro before behind blanks others blanksNonempty blanksBlank othersNonempty othersBlank line
      apart
    obtain ⟨trailing, between⟩ := exists_words_of_blanks_between before behind
    have lineWords := between blanks blanksNonempty blanksBlank
    have otherWords := between others othersNonempty othersBlank
    apply general
    · rw [textsOf_words, textsOf_words, lineWords, otherWords, textsOf_append, textsOf_append,
        textsOf_indent, textsOf_indent]
    · intro stretch member index joins
      have elsewhere := apart stretch member index joins
      rw [tokenize, length_tokensFrom, words_ofList] at elsewhere
      rw [spacing_eq, spacing_eq, lineWords, otherWords, Word.getElem?_append_indent elsewhere,
        Word.getElem?_append_indent elsewhere]

/-- A value between quotes keeps its two blanks, and all other blanks may change. -/
theorem Session.parse_of_value_with_two_blanks :
    let session := Session.offeringBuiltins 32 256
    let line := "SET x \"a  b\""
    let wide := "\tSET   x \u3000\"a  b\"  "
    (session.parse line).outcome =
        .ok (some ⟨Builtin.set.command, ["x", "a  b"]⟩) ∧
      session.parse wide = session.parse line ∧
      session.parse (String.ofList ([' '] ++ (line.toList ++ ['\n']))) = session.parse line ∧
      session.parse "SET\t\tx \"a  b\"" = session.parse line := by
  intro session line wide
  have evaluated :
      (session.parse line).outcome = .ok (some ⟨Builtin.set.command, ["x", "a  b"]⟩) ∧
        quoteSpans session.registry session.store wide = [⟨2, 2⟩] ∧
        quoteSpans session.registry session.store line = [⟨2, 2⟩] ∧
        (tokenize wide).map Token.text = (tokenize line).map Token.text ∧
        spacing wide 2 = spacing line 2 ∧
        (tokenize (String.ofList "SET".toList)).length = 1 := by
    decide +kernel
  obtain ⟨parsed, wideSpans, lineSpans, sameTexts, sameSpacing, front⟩ := evaluated
  have onlyJoint {index : Nat} (joins : Stretch.Joins ⟨2, 2⟩ index) : index = 2 :=
    Nat.le_antisymm (Nat.le_of_lt_succ (Nat.lt_of_succ_lt_succ joins.2)) joins.1
  obtain ⟨sameParse, around, between⟩ := session.parse_ignores_blanks_outside_spans
  have blank {characters : List Char} (all : characters.all Text.isBlank = true) :
      ∀ character ∈ characters, Text.isBlank character = true :=
    List.all_eq_true.mp all
  refine ⟨parsed, ?_, around line [' '] ['\n'] (blank rfl) (blank rfl), ?_⟩
  · apply sameParse wide line sameTexts
    rw [wideSpans]
    intro stretch member index joins
    obtain rfl := List.mem_singleton.mp member
    obtain rfl := onlyJoint joins
    exact sameSpacing
  · have line_eq : String.ofList ("SET".toList ++ ([' '] ++ "x \"a  b\"".toList)) = line := by
      decide +kernel
    refine line_eq ▸ (between "SET".toList "x \"a  b\"".toList [' '] ['\t', '\t']
      (by decide) (blank rfl) (by decide) (blank rfl) ?_).symm
    rw [line_eq, lineSpans, front]
    intro stretch member index joins
    obtain rfl := List.mem_singleton.mp member
    obtain rfl := onlyJoint joins
    decide

end CommandConsole
