import CommandConsole.Text.Uppercase
import Mathlib.Data.List.Basic
import Mathlib.Data.Nat.Bitwise

namespace CommandConsole.Text

/-!
# Upper-cased text is its own upper-case form

No code point of an upper-case form has another upper-case form: the code
points that the table maps and those it maps them to are disjoint. The two sets
are compared as bit masks, so that the table is evaluated once for all code
points. What holds of the form of each character holds of the form of a text.
-/

namespace UppercaseRun

/-- The code points that a run holds. -/
def sources (run : UppercaseRun) : List Nat :=
  (List.range run.size).map fun step => run.first + run.stride * step

/-- The images of the code points that a run holds. -/
def images (run : UppercaseRun) : List Nat :=
  (List.range run.size).map fun step => run.target + run.stride * step

variable {run : UppercaseRun} {code : Nat}

/-- A run holds the code points at multiples of its stride from its first one. -/
theorem exists_step_of_holds (held : run.holds code = true) :
    ∃ step < run.size, code = run.first + run.stride * step := by
  simp only [holds, Bool.and_eq_true, Nat.ble_eq, Nat.blt_eq, Nat.beq_eq] at held
  obtain ⟨⟨behind, within⟩, aligned⟩ := held
  refine ⟨(code - run.first) / run.stride, within, ?_⟩
  have split := Nat.div_add_mod (code - run.first) run.stride
  omega

theorem mem_sources_of_holds (held : run.holds code = true) : code ∈ run.sources := by
  obtain ⟨step, within, rfl⟩ := exists_step_of_holds held
  exact List.mem_map_of_mem (List.mem_range.mpr within)

theorem image_mem_images (held : run.holds code = true) : run.image code ∈ run.images := by
  obtain ⟨step, within, rfl⟩ := exists_step_of_holds held
  rw [image, Nat.add_sub_cancel_left]
  exact List.mem_map_of_mem (List.mem_range.mpr within)

end UppercaseRun

/-- The code points that the table maps. -/
def mappedCodes : List Nat :=
  uppercaseRuns.flatMap UppercaseRun.sources ++ uppercaseExpansions.map Prod.fst

/-- The code points that the table maps to. -/
def imageCodes : List Nat :=
  uppercaseRuns.flatMap UppercaseRun.images ++ uppercaseExpansions.flatMap Prod.snd

/-- The number whose bits are set at the given places. -/
def maskOf (codes : List Nat) : Nat :=
  codes.foldr (fun code mask => 2 ^ code ||| mask) 0

theorem testBit_maskOf
    (codes : List Nat)
    (code : Nat) :
    (maskOf codes).testBit code = true ↔ code ∈ codes := by
  induction codes with
  | nil =>
      simp [maskOf]
  | cons first codes inductionHypothesis =>
      rw [maskOf, List.foldr_cons, ← maskOf, Nat.testBit_or, Bool.or_eq_true,
        inductionHypothesis, Nat.testBit_two_pow, decide_eq_true_iff, List.mem_cons, eq_comm]

/-- No code point that the table maps to is mapped itself. -/
theorem not_mem_mappedCodes_of_image
    {code : Nat}
    (isImage : code ∈ imageCodes) :
    code ∉ mappedCodes := by
  intro isMapped
  have disjoint : maskOf imageCodes &&& maskOf mappedCodes = 0 := by
    decide +kernel
  have common : (maskOf imageCodes &&& maskOf mappedCodes).testBit code = true := by
    rw [Nat.testBit_and, (testBit_maskOf _ _).mpr isImage, (testBit_maskOf _ _).mpr isMapped]
    rfl
  rw [disjoint, Nat.zero_testBit] at common
  exact nomatch common

/-- The table maps to characters only. -/
theorem isValidChar_of_image
    {code : Nat}
    (isImage : code ∈ imageCodes) :
    code.isValidChar := by
  have valid : ∀ image ∈ imageCodes, image.isValidChar := by
    decide +kernel
  exact valid code isImage

/-- A code point is its own upper-case form, or the table maps it to one code point or more. -/
theorem uppercaseCodes_cases (code : Nat) :
    uppercaseCodes code = [code] ∨
      code ∈ mappedCodes ∧
        uppercaseCodes code ≠ [] ∧
        ∀ image ∈ uppercaseCodes code, image ∈ imageCodes := by
  unfold uppercaseCodes
  split
  · next run found =>
      have listed := List.mem_of_find?_eq_some found
      have held := List.find?_some found
      refine .inr ⟨?_, List.cons_ne_nil _ _, ?_⟩
      · exact List.mem_append_left _
          (List.mem_flatMap.mpr ⟨run, listed, UppercaseRun.mem_sources_of_holds held⟩)
      · rw [List.forall_mem_singleton]
        exact List.mem_append_left _
          (List.mem_flatMap.mpr ⟨run, listed, UppercaseRun.image_mem_images held⟩)
  · cases expanded : uppercaseExpansions.lookup code with
    | none =>
        exact .inl rfl
    | some images =>
        have listed : (code, images) ∈ uppercaseExpansions := by
          obtain ⟨earlier, later, shape, _⟩ := List.lookup_eq_some_iff.mp expanded
          rw [shape]
          exact List.mem_append_right _ List.mem_cons_self
        have nonempty : ∀ expansion ∈ uppercaseExpansions, expansion.2 ≠ [] := by
          decide +kernel
        refine .inr ⟨?_, nonempty _ listed, ?_⟩
        · exact List.mem_append_right _ (List.mem_map_of_mem listed)
        · intro image member
          exact List.mem_append_right _ (List.mem_flatMap.mpr ⟨_, listed, member⟩)

/-- The upper-case form of a character has at least one character. -/
theorem uppercaseCharacter_ne_nil (character : Char) : uppercaseCharacter character ≠ [] := by
  rw [uppercaseCharacter, Ne, List.map_eq_nil_iff]
  rcases uppercaseCodes_cases character.toNat with itself | ⟨_, nonempty, _⟩
  · rw [itself]
    exact List.cons_ne_nil _ _
  · exact nonempty

/-- Every character of an upper-case form is its own upper-case form. -/
theorem uppercaseCharacter_of_mem
    {character image : Char}
    (member : image ∈ uppercaseCharacter character) :
    uppercaseCharacter image = [image] := by
  obtain ⟨code, isForm, rfl⟩ := List.mem_map.mp member
  rcases uppercaseCodes_cases character.toNat with itself | ⟨_, _, images⟩
  · rw [itself, List.mem_singleton] at isForm
    rw [isForm, Char.ofNat_toNat, uppercaseCharacter, itself, List.map_singleton,
      Char.ofNat_toNat]
  · have isImage := images code isForm
    have itself : uppercaseCodes code = [code] :=
      (uppercaseCodes_cases code).resolve_right fun mapped =>
        not_mem_mappedCodes_of_image isImage mapped.1
    have sameCode : (Char.ofNat code).toNat = code := by
      rw [Char.ofNat, dif_pos (isValidChar_of_image isImage)]
      rfl
    rw [uppercaseCharacter, sameCode, itself, List.map_singleton]

/-- Upper-casing twice is upper-casing once. -/
theorem uppercase_uppercase (text : String) : uppercase (uppercase text) = uppercase text := by
  have again (character : Char) :
      (uppercaseCharacter character).flatMap uppercaseCharacter = uppercaseCharacter character := by
    calc (uppercaseCharacter character).flatMap uppercaseCharacter
      _ = (uppercaseCharacter character).flatMap List.singleton :=
          List.flatMap_congr fun _ member => uppercaseCharacter_of_mem member
      _ = uppercaseCharacter character :=
          List.flatMap_singleton' _
  simp [uppercase, List.flatMap_assoc, again]

/-- Only the empty text has an empty upper-case form. -/
theorem uppercase_eq_empty_iff (text : String) : uppercase text = "" ↔ text = "" := by
  constructor
  · intro isEmpty
    have noForms : text.toList.flatMap uppercaseCharacter = [] :=
      String.ofList_eq_empty_iff.mp isEmpty
    rw [List.flatMap_eq_nil_iff] at noForms
    rw [← String.toList_eq_nil_iff, List.eq_nil_iff_forall_not_mem]
    intro character member
    exact uppercaseCharacter_ne_nil character (noForms character member)
  · rintro rfl
    rfl

end CommandConsole.Text
