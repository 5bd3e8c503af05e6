import CommandConsole.Proofs.Line.Tokens
import Mathlib.Data.List.Chain
import Mathlib.Data.List.Nodup

namespace CommandConsole.Line

/-!
# The tokens of a line are its longest runs

Spans that hold all characters of a line that are not blanks, and none that is,
are the longest runs of such characters as soon as there is a blank between any
two of them. So there is one way only to split a line, and it is that of its
tokens.
-/

/-- Whether the character at a place of a line is a blank, if there is one. -/
def blankAt? (line : String) (place : Nat) : Option Bool :=
  line.toList[place]?.map Text.isBlank

/-- The token's span holds the place. -/
def Token.Covers (token : Token) (place : Nat) : Prop :=
  token.start ≤ place ∧ place < token.stop

/-- Tokens that split a line at its blanks. -/
structure Splitting (line : String) (tokens : List Token) : Prop where
  inside : ∀ token ∈ tokens, token.start < token.stop ∧ token.stop ≤ line.length
  apart : tokens.IsChain fun earlier later => earlier.stop < later.start
  text : ∀ token ∈ tokens, token.text = String.ofList (slice line token.start token.stop)
  covered : ∀ token ∈ tokens, ∀ place, token.Covers place → blankAt? line place = some false
  uncovered : ∀ place < line.length,
    (∀ token ∈ tokens, ¬ token.Covers place) → blankAt? line place = some true

/-- A token that is a longest run of characters other than blanks. -/
structure Token.IsRun (line : String) (token : Token) : Prop where
  nonempty : token.start < token.stop
  text : token.text = String.ofList (slice line token.start token.stop)
  solid : ∀ place, token.Covers place → blankAt? line place = some false
  startsBehindBlank : ∀ place, place + 1 = token.start → blankAt? line place ≠ some false
  stopsAtBlank : blankAt? line token.stop ≠ some false

theorem lt_length_of_blankAt?
    {line : String}
    {place : Nat}
    {blank : Bool}
    (found : blankAt? line place = some blank) :
    place < line.length := by
  obtain ⟨character, there, _⟩ := Option.map_eq_some_iff.mp found
  rw [← String.length_toList]
  exact (List.getElem?_eq_some_iff.mp there).1

namespace Token.IsRun

variable {line : String} {first second : Token} {place : Nat}

/-- Of two runs that share a place, neither starts before the other. -/
theorem start_le
    (firstRun : first.IsRun line)
    (secondRun : second.IsRun line)
    (inFirst : first.Covers place)
    (inSecond : second.Covers place) :
    first.start ≤ second.start := by
  by_contra later
  obtain ⟨firstStarts, _⟩ := inFirst
  obtain ⟨_, secondStops⟩ := inSecond
  have before : second.Covers (first.start - 1) :=
    ⟨by omega, by omega⟩
  exact firstRun.startsBehindBlank (first.start - 1) (by omega) (secondRun.solid _ before)

theorem stop_le
    (firstRun : first.IsRun line)
    (secondRun : second.IsRun line)
    (inFirst : first.Covers place)
    (inSecond : second.Covers place) :
    first.stop ≤ second.stop := by
  by_contra later
  have behind : first.Covers second.stop := by
    constructor
    · exact Nat.le_of_lt (Nat.lt_of_le_of_lt inFirst.1 inSecond.2)
    · exact Nat.not_le.mp later
  exact secondRun.stopsAtBlank (firstRun.solid _ behind)

/-- Two runs that share a place are the same. -/
theorem eq_of_covers
    (firstRun : first.IsRun line)
    (secondRun : second.IsRun line)
    (inFirst : first.Covers place)
    (inSecond : second.Covers place) :
    first = second := by
  have start : first.start = second.start :=
    Nat.le_antisymm (firstRun.start_le secondRun inFirst inSecond)
      (secondRun.start_le firstRun inSecond inFirst)
  have stop : first.stop = second.stop :=
    Nat.le_antisymm (firstRun.stop_le secondRun inFirst inSecond)
      (secondRun.stop_le firstRun inSecond inFirst)
  have text : first.text = second.text := by
    rw [firstRun.text, secondRun.text, start, stop]
  cases first
  cases second
  simp_all

end Token.IsRun

namespace Splitting

variable {line : String} {tokens : List Token}

/-- Every token stops before each later one starts. -/
theorem pairwise (splitting : Splitting line tokens) :
    tokens.Pairwise fun earlier later => earlier.stop < later.start := by
  have nonempty := fun token member => (splitting.inside token member).1
  have chain := splitting.apart
  clear splitting
  induction tokens with
  | nil =>
      exact .nil
  | cons token tokens inductionHypothesis =>
      rw [List.forall_mem_cons] at nonempty
      have later := inductionHypothesis nonempty.2 chain.tail
      refine .cons ?_ later
      cases tokens with
      | nil =>
          exact nofun
      | cons next tokens =>
          have beforeNext : token.stop < next.start :=
            chain.rel
          have nextNonempty := nonempty.2 next List.mem_cons_self
          rw [List.forall_mem_cons]
          refine ⟨beforeNext, fun other member => ?_⟩
          exact (beforeNext.trans nextNonempty).trans (List.rel_of_pairwise_cons later member)

/-- Of two tokens, one stops before the other starts, unless they are the same. -/
theorem eq_or_apart
    (splitting : Splitting line tokens)
    {first second : Token}
    (firstMember : first ∈ tokens)
    (secondMember : second ∈ tokens) :
    first = second ∨ first.stop < second.start ∨ second.stop < first.start := by
  have pairwise := splitting.pairwise
  obtain ⟨before, behind, rfl⟩ := List.append_of_mem firstMember
  obtain ⟨_, fromFirst, acrossFirst⟩ := List.pairwise_append.mp pairwise
  rcases List.mem_append.mp secondMember with earlier | atOrBehind
  · exact .inr (.inr (acrossFirst second earlier first List.mem_cons_self))
  · rcases List.mem_cons.mp atOrBehind with same | later
    · exact .inl same.symm
    · exact .inr (.inl (List.rel_of_pairwise_cons fromFirst later))

/-- A character that no token covers is a blank. -/
theorem ne_some_false_of_uncovered
    (splitting : Splitting line tokens)
    {place : Nat}
    (free : ∀ token ∈ tokens, ¬ token.Covers place) :
    blankAt? line place ≠ some false := by
  intro notBlank
  have blank := splitting.uncovered place (lt_length_of_blankAt? notBlank) free
  rw [blank] at notBlank
  cases notBlank

/-- No token covers the place in front of a token or the place behind it. -/
theorem uncovered_beside
    (splitting : Splitting line tokens)
    {token : Token}
    {place : Nat}
    (member : token ∈ tokens)
    (beside : place + 1 = token.start ∨ place = token.stop) :
    ∀ other ∈ tokens, ¬ other.Covers place := by
  have nonempty := (splitting.inside token member).1
  rintro other otherMember ⟨starts, stops⟩
  rcases splitting.eq_or_apart member otherMember with rfl | before | behind
  · omega
  · omega
  · omega

theorem isRun
    (splitting : Splitting line tokens)
    {token : Token}
    (member : token ∈ tokens) :
    token.IsRun line where
  nonempty :=
    (splitting.inside token member).1
  text :=
    splitting.text token member
  solid :=
    splitting.covered token member
  startsBehindBlank :=
    fun _ next =>
      splitting.ne_some_false_of_uncovered (splitting.uncovered_beside member (.inl next))
  stopsAtBlank :=
    splitting.ne_some_false_of_uncovered (splitting.uncovered_beside member (.inr rfl))

/-- The tokens that split a line are just its longest runs. -/
theorem mem_iff_isRun
    (splitting : Splitting line tokens)
    {token : Token} :
    token ∈ tokens ↔ token.IsRun line := by
  constructor
  · exact splitting.isRun
  · intro run
    have atStart : token.Covers token.start :=
      ⟨Nat.le_refl _, run.nonempty⟩
    by_contra absent
    refine splitting.ne_some_false_of_uncovered ?_ (run.solid token.start atStart)
    intro other member covers
    have same := (splitting.isRun member).eq_of_covers run covers atStart
    exact absent (same ▸ member)

theorem nodup (splitting : Splitting line tokens) : tokens.Nodup := by
  refine splitting.pairwise.imp_of_mem ?_
  rintro earlier later member _ apart rfl
  exact Nat.lt_asymm apart (splitting.inside earlier member).1

/-- A line is split in one way only. -/
theorem unique
    {others : List Token}
    (splitting : Splitting line tokens)
    (other : Splitting line others) :
    tokens = others := by
  have sameTokens : tokens.Perm others := by
    rw [List.perm_ext_iff_of_nodup splitting.nodup other.nodup]
    intro token
    rw [splitting.mem_iff_isRun, other.mem_iff_isRun]
  refine sameTokens.eq_of_pairwise ?_ splitting.pairwise other.pairwise
  intro first second firstMember secondMember before behind
  have firstNonempty := (splitting.inside first firstMember).1
  have secondNonempty := (other.inside second secondMember).1
  omega

end Splitting

/-- The characters of one part of a line are all blanks, or none of them is. -/
theorem blankAt?_of_part
    {line : String}
    {offset place : Nat}
    {before part after : List Char}
    {blank : Bool}
    (shape : line.toList.drop offset = before ++ (part ++ after))
    (same : ∀ character ∈ part, Text.isBlank character = blank)
    (fromPart : offset + before.length ≤ place)
    (inPart : place < offset + before.length + part.length) :
    blankAt? line place = some blank := by
  obtain ⟨count, rfl⟩ := Nat.exists_eq_add_of_le fromPart
  have inside : count < part.length := by
    omega
  have there : line.toList[offset + before.length + count]? = some part[count] := by
    rw [Nat.add_assoc, ← List.getElem?_drop, shape,
      List.getElem?_append_right (Nat.le_add_right _ _), Nat.add_sub_cancel_left,
      List.getElem?_append_left inside, List.getElem?_eq_getElem inside]
  rw [blankAt?, there, Option.map_some, same _ (List.getElem_mem inside)]

/-- Words that a line is made of, with a blank between any two of them. -/
structure Joined (line : String) (words : List Word) : Prop extends Located line 0 words where
  apart : ∀ word ∈ words.tail, word.gap ≠ []

theorem Word.gap_ne_nil_of_prepend
    (character : Char)
    {following : List Word}
    (apart : ∀ word ∈ following.tail, word.gap ≠ []) :
    ∀ word ∈ (prepend character following).tail, word.gap ≠ [] := by
  cases following with
  | nil =>
      rw [prepend]
      split <;> simp
  | cons first rest =>
      rw [prepend]
      split
      · exact apart
      · split
        · exact apart
        · next spaced =>
            exact List.forall_mem_cons.mpr ⟨spaced, apart⟩

theorem joined_words (line : String) : Joined line (words line) := by
  refine ⟨located_words line, ?_⟩
  unfold words
  induction line.toList with
  | nil =>
      simp
  | cons character rest inductionHypothesis =>
      exact Word.gap_ne_nil_of_prepend character inductionHypothesis

section Words

variable {line : String} {offset : Nat} {word : Word} {words : List Word}

/-- The token of a word covers the characters of the word, and none of these is a blank. -/
theorem Located.tokenAt_solid
    (located : Located line offset (word :: words)) :
    (tokenAt offset word).start < (tokenAt offset word).stop ∧
      (tokenAt offset word).text =
        String.ofList (slice line (tokenAt offset word).start (tokenAt offset word).stop) ∧
      ∀ place, (tokenAt offset word).Covers place → blankAt? line place = some false := by
  have wellFormed := located.wellFormed word List.mem_cons_self
  have positive := List.length_pos_iff.mpr wellFormed.nonempty
  obtain ⟨trailing, _, shape⟩ := located.text
  rw [List.flatMap_cons, Word.spaced, List.append_assoc, List.append_assoc] at shape
  refine ⟨by simp [tokenAt, Word.spaced, positive], ?_, ?_⟩
  · have length : offset + (word.gap ++ word.text).length - (offset + word.gap.length) =
        word.text.length := by
      simp [← Nat.add_assoc]
    simp only [tokenAt, Word.spaced, slice]
    rw [length, ← List.drop_drop, shape, List.drop_left, List.take_left]
  · rintro place ⟨starts, stops⟩
    refine blankAt?_of_part shape wellFormed.noBlank starts ?_
    simpa [tokenAt, Word.spaced, Nat.add_assoc] using stops

/-- The token of one of the words stands behind the words in front of it. -/
theorem exists_of_mem_tokensFrom
    {token : Token}
    (member : token ∈ tokensFrom offset words) :
    ∃ earlier word later,
      words = earlier ++ word :: later ∧
        token = tokenAt (offset + (earlier.flatMap Word.spaced).length) word := by
  obtain ⟨first, second, shape⟩ := List.append_of_mem member
  obtain ⟨earlier, behind, rfl, _, sameBehind⟩ := tokensFrom_eq_append shape
  cases behind with
  | nil =>
      exact nomatch sameBehind
  | cons word later =>
      rw [tokensFrom_cons] at sameBehind
      exact ⟨earlier, word, later, rfl, (List.cons.inj sameBehind).1⟩

theorem Located.tokensFrom_solid
    (located : Located line offset words)
    {token : Token}
    (member : token ∈ tokensFrom offset words) :
    token.start < token.stop ∧
      token.text = String.ofList (slice line token.start token.stop) ∧
      ∀ place, token.Covers place → blankAt? line place = some false := by
  obtain ⟨earlier, word, later, rfl, rfl⟩ := exists_of_mem_tokensFrom member
  exact located.append_right.tokenAt_solid

theorem isChain_tokensFrom (apart : ∀ word ∈ words.tail, word.gap ≠ []) :
    (tokensFrom offset words).IsChain fun earlier later => earlier.stop < later.start := by
  induction words generalizing offset with
  | nil =>
      exact .nil
  | cons word words inductionHypothesis =>
      cases words with
      | nil =>
          exact .singleton _
      | cons next words =>
          have spaced := List.length_pos_iff.mpr (apart next List.mem_cons_self)
          have later : (tokensFrom (offset + word.spaced.length) (next :: words)).IsChain
              fun earlier later => earlier.stop < later.start :=
            inductionHypothesis fun other member =>
              apart other (List.mem_cons_of_mem next member)
          rw [tokensFrom_cons] at later ⊢
          rw [tokensFrom_cons]
          exact .cons_cons (Nat.lt_add_of_pos_right spaced) later

/-- Outside the tokens of its words a line has blanks only. -/
theorem Located.blank_of_uncovered
    (located : Located line offset words)
    {place : Nat}
    (behind : offset ≤ place)
    (inLine : place < line.length)
    (free : ∀ token ∈ tokensFrom offset words, ¬ token.Covers place) :
    blankAt? line place = some true := by
  induction words generalizing offset with
  | nil =>
      obtain ⟨trailing, blank, shape⟩ := located.text
      have allTrailing : line.toList.drop offset = [] ++ (trailing ++ []) := by
        simpa using shape
      have length := congrArg List.length allTrailing
      rw [List.length_drop, String.length_toList] at length
      refine blankAt?_of_part allTrailing blank behind ?_
      simp only [List.length_append, List.length_nil] at length ⊢
      omega
  | cons word words inductionHypothesis =>
      rw [tokensFrom_cons, List.forall_mem_cons] at free
      by_cases inGap : place < offset + word.gap.length
      · obtain ⟨trailing, _, shape⟩ := located.text
        rw [List.flatMap_cons, Word.spaced, List.append_assoc, List.append_assoc,
          ← List.nil_append (word.gap ++ _)] at shape
        have blankGap := (located.wellFormed word List.mem_cons_self).blankGap
        exact blankAt?_of_part shape blankGap behind inGap
      · have behindWord : offset + word.spaced.length ≤ place :=
          Nat.not_lt.mp fun inWord => free.1 ⟨Nat.not_lt.mp inGap, inWord⟩
        exact inductionHypothesis located.tail behindWord free.2

/-- The tokens of words with blanks between them split the line. -/
theorem Joined.splitting (joined : Joined line words) : Splitting line (tokensFrom 0 words) where
  inside := by
    intro token member
    obtain ⟨nonempty, _, solid⟩ := joined.tokensFrom_solid member
    refine ⟨nonempty, ?_⟩
    have last := lt_length_of_blankAt? (solid (token.stop - 1) ⟨by omega, by omega⟩)
    omega
  apart :=
    isChain_tokensFrom joined.apart
  text :=
    fun _ member => (joined.tokensFrom_solid member).2.1
  covered :=
    fun _ member => (joined.tokensFrom_solid member).2.2
  uncovered :=
    fun place inLine free => joined.blank_of_uncovered (Nat.zero_le place) inLine free

end Words

theorem splitting_tokenize (line : String) : Splitting line (tokenize line) :=
  (joined_words line).splitting

/--
The tokens of a line are the only way to split it at its blanks. So words that
are joined with blanks, whatever blanks are around them, are the tokens of the
line that they make, each at its own offset.
-/
theorem tokens_are_the_only_splitting :
    (∀ line tokens, Splitting line tokens ↔ tokens = tokenize line) ∧
      ∀ (words : List Word) (trailing : List Char),
        (∀ word ∈ words, word.WellFormed) →
        (∀ word ∈ words.tail, word.gap ≠ []) →
        (∀ character ∈ trailing, Text.isBlank character = true) →
          let tokens := tokenize (String.ofList (words.flatMap Word.spaced ++ trailing))
          tokens.length = words.length ∧
            ∀ earlier word later, words = earlier ++ word :: later →
              let start := (earlier.flatMap Word.spaced).length + word.gap.length
              tokens[earlier.length]? =
                some ⟨String.ofList word.text, start, start + word.text.length⟩ := by
  constructor
  · intro line tokens
    constructor
    · intro splitting
      exact splitting.unique (splitting_tokenize line)
    · rintro rfl
      exact splitting_tokenize line
  · intro words trailing wellFormed apart blank tokens
    have joined : Joined (String.ofList (words.flatMap Word.spaced ++ trailing)) words :=
      ⟨⟨wellFormed, trailing, blank, by simp⟩, apart⟩
    have placed : tokens = tokensFrom 0 words :=
      (splitting_tokenize _).unique joined.splitting
    rw [placed]
    refine ⟨length_tokensFrom 0 words, ?_⟩
    rintro earlier word later rfl start
    rw [getElem?_tokensFrom]
    simp [tokenAt, start, Word.spaced, Nat.add_assoc]

/-- A line with a wide blank, a tab and an open quote has three tokens. -/
theorem tokens_of_words_with_wide_blank :
    let words : List Word :=
      [⟨[' '], ['S', 'E', 'T']⟩, ⟨['\t', '\u3000'], ['x']⟩, ⟨['\u001c'], ['"', '\u200b']⟩]
    let line := String.ofList (words.flatMap Word.spaced ++ ['\n'])
    (tokenize line).length = 3 ∧ (tokenize line)[2]? = some ⟨"\"\u200b", 8, 10⟩ ∧
      ∀ tokens, Splitting line tokens → tokens = tokenize line := by
  intro words line
  have wellFormedOf {gap text : List Char}
      (blank : gap.all Text.isBlank = true)
      (nonempty : text ≠ [])
      (noBlank : (text.all fun character => !Text.isBlank character) = true) :
      Word.WellFormed ⟨gap, text⟩ :=
    ⟨List.all_eq_true.mp blank, nonempty, forall_not_blank_of_all noBlank⟩
  have wellFormed : ∀ word ∈ words, word.WellFormed :=
    List.forall_mem_cons.mpr ⟨wellFormedOf rfl (by decide) rfl,
      List.forall_mem_cons.mpr ⟨wellFormedOf rfl (by decide) rfl,
        List.forall_mem_singleton.mpr (wellFormedOf rfl (by decide) rfl)⟩⟩
  obtain ⟨length, places⟩ := tokens_are_the_only_splitting.2 words ['\n'] wellFormed
    (by decide) (List.all_eq_true.mp rfl)
  refine ⟨length, ?_, fun tokens => (tokens_are_the_only_splitting.1 line tokens).mp⟩
  exact places [words[0], words[1]] words[2] [] rfl

end CommandConsole.Line
