import CommandConsole.Text.Uppercase.Table

namespace CommandConsole.Text

/-!
# Upper case

The full, locale-independent upper-case form of a text. Each character is
mapped on its own, so upper-casing distributes over concatenation; the form of
one character may have up to three.
-/

/-- Whether a run holds a code point. -/
def UppercaseRun.holds (run : UppercaseRun) (code : Nat) : Bool :=
  let distance := code - run.first
  run.first.ble code && (distance / run.stride).blt run.size &&
    (distance % run.stride).beq 0

/-- The image of a code point in a run that holds it. -/
def UppercaseRun.image (run : UppercaseRun) (code : Nat) : Nat :=
  run.target + (code - run.first)

/-- The upper-case form of one code point. -/
def uppercaseCodes (code : Nat) : List Nat :=
  match uppercaseRuns.find? fun run => run.holds code with
  | some run =>
      [run.image code]
  | none =>
      (uppercaseExpansions.lookup code).getD [code]

/-- The upper-case form of one character. -/
def uppercaseCharacter (character : Char) : List Char :=
  (uppercaseCodes character.toNat).map Char.ofNat

/-- The upper-case form of a text. -/
def uppercase (text : String) : String :=
  String.ofList (text.toList.flatMap uppercaseCharacter)

/-- Upper-casing distributes over concatenation. -/
theorem uppercase_append (first second : String) :
    uppercase (first ++ second) = uppercase first ++ uppercase second := by
  simp [uppercase, String.toList_append, List.flatMap_append, String.ofList_append]

end CommandConsole.Text
