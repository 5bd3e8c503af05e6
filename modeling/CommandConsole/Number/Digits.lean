namespace CommandConsole.Number

/-!
# Decimal digits

Numbers and the decimal digits that they are written with. The places of a long
number are merged by pairs, then by pairs of pairs, so that reading it takes
few multiplications of large numbers.
-/

/-- The value of a decimal digit. -/
def digitValue (digit : Char) : Nat :=
  digit.toNat - '0'.toNat

/-- Merge neighbouring places of a number, whose least significant place comes first. -/
def mergePlaces (base : Nat) : List Nat → List Nat
  | low :: high :: places =>
      (low + base * high) :: mergePlaces base places
  | places =>
      places

/-- The number with given places in a base, the least significant place first. -/
def ofPlaces (base : Nat) (places : List Nat) : Nat :=
  places.foldr (fun place value => place + base * value) 0

/-- Places that are merged stand for the same number in the squared base. -/
theorem ofPlaces_mergePlaces (base : Nat) (places : List Nat) :
    ofPlaces (base * base) (mergePlaces base places) = ofPlaces base places := by
  fun_induction mergePlaces base places with
  | case1 low high places inductionHypothesis =>
      simp only [ofPlaces, List.foldr_cons] at inductionHypothesis ⊢
      rw [inductionHypothesis]
      grind
  | case2 places short =>
      match places, short with
      | [], _ =>
          rfl
      | [place], _ =>
          simp [ofPlaces]
      | low :: high :: rest, short =>
          exact (short low high rest rfl).elim

/-- The number with given places, which are merged at most a given count of times. -/
def mergeAll : (rounds base : Nat) → List Nat → Nat
  | rounds + 1, base, low :: high :: places =>
      mergeAll rounds (base * base) (mergePlaces base (low :: high :: places))
  | _, base, places =>
      ofPlaces base places

/-- Merging places changes nothing of the number. -/
theorem mergeAll_eq_ofPlaces (rounds base : Nat) (places : List Nat) :
    mergeAll rounds base places = ofPlaces base places := by
  fun_induction mergeAll rounds base places with
  | case1 rounds base low high places inductionHypothesis =>
      rw [inductionHypothesis, ofPlaces_mergePlaces]
  | case2 =>
      rfl

/-- The number that decimal digits stand for. -/
def ofDigits (digits : List Char) : Nat :=
  let places := digits.reverse.map digitValue
  mergeAll (places.length.log2 + 1) 10 places

/-- Each digit counts ten times what the digits behind it can. -/
theorem ofDigits_concat (digits : List Char) (digit : Char) :
    ofDigits (digits ++ [digit]) = ofDigits digits * 10 + digitValue digit := by
  simp only [ofDigits, mergeAll_eq_ofPlaces, ofPlaces, List.reverse_append, List.reverse_singleton,
    List.singleton_append, List.map_cons, List.foldr_cons]
  omega

example : ofDigits ['0', '1', '2', '0'] = 120 := by decide +kernel

/-- The decimal digits of a number, with zeros in front up to a least count. -/
def toDigits (least number : Nat) : List Char :=
  let digits := Nat.toDigits 10 number
  List.replicate (least - digits.length) '0' ++ digits

end CommandConsole.Number
