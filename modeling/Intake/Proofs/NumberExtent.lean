import Intake.Proofs.Tokens

/-!
# A number ends where nothing continues it

The scanner of numbers looks at one byte after the number, and at no other.  The bytes that it
consumed therefore determine what it returns wherever they stand, unless what follows them there
could continue the number.
-/

namespace Intake.Json

variable {α : Type}

/-- A scanner returned a value with a rest; it returns this value for the bytes before the rest
whatever else follows them that does not continue a number. -/
def Extent (scan : List UInt8 → Scanned α) (s : List UInt8) (value : α) (rest : List UInt8) :
    Prop :=
  ∃ token, s = token ++ rest ∧
    ∀ other, Delimited other → scan (token ++ other) = .ok (value, other)

/-- The first of some bytes, if there is one, fulfils a condition. -/
def Heads (p : UInt8 → Prop) (s : List UInt8) : Prop :=
  ∀ b ∈ s.head?, p b

theorem heads_cons {p : UInt8 → Prop} {b : UInt8} {s : List UInt8} : Heads p (b :: s) ↔ p b := by
  simp [Heads]

theorem heads_dropWhile_isDigit (s : List UInt8) :
    Heads (fun b => isDigit b = false) (s.dropWhile isDigit) := by
  intro b mem
  have found := List.head?_dropWhile_not isDigit s
  rw [Option.mem_def.mp mem] at found
  simpa using found

theorem dropWhile_isDigit_of_heads {s : List UInt8} (heads : Heads (fun b => isDigit b = false) s) :
    s.dropWhile isDigit = s := by
  cases s with
  | nil => rfl
  | cons b s => simp [heads_cons.mp heads]

namespace Extent

variable {scan next : List UInt8 → Scanned α} {s rest : List UInt8} {value : α}

/-- A scanner that stops at once consumes nothing. -/
theorem stop (stops : ∀ other, Delimited other → scan other = .ok (value, other))
    (s : List UInt8) : Extent scan s value s :=
  ⟨[], rfl, stops⟩

/-- A scanner that goes on after a byte consumes that byte as well. -/
theorem cons {b : UInt8} (extent : Extent next s value rest)
    (goes_on : ∀ t, scan (b :: t) = next t) : Extent scan (b :: s) value rest := by
  obtain ⟨token, rfl, taken⟩ := extent
  exact ⟨b :: token, rfl, fun other delimited => (goes_on _).trans (taken other delimited)⟩

/-- A scanner that goes on after looking at a byte consumes what the next one does.  What it looks
for must be something that delimits a number. -/
theorem peek {p : UInt8 → Prop} (extent : Extent next s value rest) (here : Heads p s)
    (goes_on : ∀ t, Heads p t → scan t = next t)
    (delimits : ∀ b t, Delimited (b :: t) → p b) : Extent scan s value rest := by
  obtain ⟨token, rfl, taken⟩ := extent
  refine ⟨token, rfl, fun other delimited => ?_⟩
  rw [goes_on _ ?_, taken other delimited]
  cases token with
  | nil =>
      cases other with
      | nil => exact nofun
      | cons b other => exact heads_cons.mpr (delimits b other delimited)
  | cons c token => exact heads_cons.mpr (heads_cons.mp here)

theorem of_heads {p : UInt8 → Prop} (delimits : ∀ b t, Delimited (b :: t) → p b)
    (goes_on : ∀ t, Heads p t → scan t = next t)
    (extent : next s = .ok (value, rest) → Extent next s value rest) (here : Heads p s)
    (scanned : scan s = .ok (value, rest)) : Extent scan s value rest :=
  (extent (goes_on s here ▸ scanned)).peek here goes_on delimits

/-- Digits that do not count are consumed like those that do. -/
theorem dropDigits (extent : Extent next (s.dropWhile isDigit) value rest) :
    Extent (fun t => next (t.dropWhile isDigit)) s value rest := by
  obtain ⟨token, dropped, taken⟩ :=
    extent.peek (heads_dropWhile_isDigit s)
      (fun t heads => congrArg next (dropWhile_isDigit_of_heads heads)) fun _ _ delimited =>
        delimited.1
  have digits : ∀ b ∈ s.takeWhile isDigit, isDigit b = true :=
    List.all_eq_true.mp List.all_takeWhile
  refine ⟨s.takeWhile isDigit ++ token, ?_, fun other delimited => ?_⟩
  · rw [List.append_assoc, ← dropped, List.takeWhile_append_dropWhile]
  · simp only [List.append_assoc, List.dropWhile_append_of_pos digits]
    exact taken other delimited

end Extent

/-! ## Floating point numbers -/

section

variable {negative up : Bool} {significand exponent places : Nat} {power : Int}
  {s rest : List UInt8} {value : Number}

/-- What is made of the parts of a number does not depend on what follows it. -/
theorem ofParts_eq_ok (scanned : ofParts negative significand power s = .ok (value, rest)) :
    rest = s ∧ ∀ other, ofParts negative significand power other = .ok (value, other) := by
  unfold ofParts at scanned ⊢
  split at scanned
  · next scaled =>
    obtain ⟨rfl, rfl⟩ := Prod.mk.inj (Except.ok.inj scanned)
    exact ⟨rfl, fun _ => rfl⟩
  · simp [Fault.here] at scanned

theorem extent_ofParts (scanned : ofParts negative significand power s = .ok (value, rest)) :
    Extent (ofParts negative significand power) s value rest := by
  obtain ⟨rfl, always⟩ := ofParts_eq_ok scanned
  exact .stop (fun other _ => always other) rest

theorem extent_farExponent {zero : Bool}
    (scanned : farExponent negative zero up s = .ok (value, rest)) :
    Extent (farExponent negative zero up) s value rest := by
  unfold farExponent at scanned ⊢
  split at scanned
  · simp [Fault.here] at scanned
  · next near =>
    obtain ⟨rfl, rfl⟩ := Prod.mk.inj (Except.ok.inj scanned)
    simp only [if_neg near]
    have left : Extent (fun t => .ok (signed negative 0, t)) (s.dropWhile isDigit)
        (signed negative 0) (s.dropWhile isDigit) := .stop (fun _ _ => rfl) _
    exact left.dropDigits

theorem scanExponentDigits_of_heads {t : List UInt8} (heads : Heads (digit? · = none) t) :
    scanExponentDigits negative significand power up exponent t =
      ofParts negative significand (if up then power + exponent else power - exponent) t := by
  cases t with
  | nil => rfl
  | cons b t => simp only [scanExponentDigits, heads_cons.mp heads]

theorem extent_scanExponentDigits
    (scanned : scanExponentDigits negative significand power up exponent s = .ok (value, rest)) :
    Extent (scanExponentDigits negative significand power up exponent) s value rest := by
  have ended {exponent : Nat} {t : List UInt8} (heads : Heads (digit? · = none) t)
      (scanned : scanExponentDigits negative significand power up exponent t = .ok (value, rest)) :
      Extent (scanExponentDigits negative significand power up exponent) t value rest :=
    .of_heads (fun _ _ delimited => digit?_eq_none delimited.1)
      (fun _ => scanExponentDigits_of_heads) extent_ofParts heads scanned
  induction s generalizing exponent with
  | nil => exact ended nofun scanned
  | cons b s ih =>
      cases digit : digit? b with
      | none => exact ended (heads_cons.mpr digit) scanned
      | some d =>
          simp only [scanExponentDigits, digit] at scanned
          split at scanned
          · next far =>
            refine (extent_farExponent scanned).cons fun t => ?_
            simp only [scanExponentDigits, digit, if_pos far]
          · next near =>
            refine (ih scanned).cons fun t => ?_
            simp only [scanExponentDigits, digit, if_neg near]

/-- An exponent has a digit after its sign. -/
theorem exists_digit_of_scanUnsignedExponent
    (scanned : scanUnsignedExponent negative significand power up s = .ok (value, rest)) :
    ∃ b d t, s = b :: t ∧ digit? b = some d ∧
      scanExponentDigits negative significand power up d t = .ok (value, rest) := by
  unfold scanUnsignedExponent at scanned
  split at scanned
  · simp [Fault.here] at scanned
  · split at scanned
    · next digit => exact ⟨_, _, _, rfl, digit, scanned⟩
    · simp [Fault.here] at scanned

theorem extent_scanUnsignedExponent
    (scanned : scanUnsignedExponent negative significand power up s = .ok (value, rest)) :
    Extent (scanUnsignedExponent negative significand power up) s value rest := by
  obtain ⟨b, d, t, rfl, digit, scanned⟩ := exists_digit_of_scanUnsignedExponent scanned
  refine (extent_scanExponentDigits scanned).cons fun t => ?_
  simp only [scanUnsignedExponent, digit]

theorem extent_scanExponent
    (scanned : scanExponent negative significand power s = .ok (value, rest)) :
    Extent (scanExponent negative significand power) s value rest := by
  cases s with
  | nil => simp [scanExponent, Fault.here] at scanned
  | cons b s =>
      simp only [scanExponent] at scanned
      split at scanned
      · next plus =>
        refine (extent_scanUnsignedExponent scanned).cons fun t => ?_
        simp only [scanExponent, if_pos plus]
      · next not_plus =>
        split at scanned
        · next minus =>
          refine (extent_scanUnsignedExponent scanned).cons fun t => ?_
          simp only [scanExponent, if_neg not_plus, if_pos minus]
        · next not_minus =>
          obtain ⟨c, d, t, equal, digit, scanned⟩ := exists_digit_of_scanUnsignedExponent scanned
          obtain ⟨rfl, rfl⟩ := List.cons.inj equal
          refine (extent_scanExponentDigits scanned).cons fun t => ?_
          simp only [scanExponent, if_neg not_plus, if_neg not_minus, scanUnsignedExponent, digit]

theorem scanTail_of_heads {t : List UInt8} (heads : Heads (isExponentMark · = false) t) :
    scanTail negative significand power t = ofParts negative significand power t := by
  cases t with
  | nil => rfl
  | cons b t => simp [scanTail, heads_cons.mp heads]

theorem extent_scanTail (scanned : scanTail negative significand power s = .ok (value, rest)) :
    Extent (scanTail negative significand power) s value rest := by
  have ended {t : List UInt8} (heads : Heads (isExponentMark · = false) t)
      (scanned : scanTail negative significand power t = .ok (value, rest)) :
      Extent (scanTail negative significand power) t value rest :=
    .of_heads (fun _ _ delimited => delimited.2.2) (fun _ => scanTail_of_heads) extent_ofParts
      heads scanned
  cases s with
  | nil => exact ended nofun scanned
  | cons b s =>
      cases mark : isExponentMark b with
      | false => exact ended (heads_cons.mpr mark) scanned
      | true =>
          simp only [scanTail, mark, if_true] at scanned
          refine (extent_scanExponent scanned).cons fun t => ?_
          simp only [scanTail, mark, if_true]

theorem scanFraction_of_heads {t : List UInt8} (some_digit : places ≠ 0)
    (heads : Heads (digit? · = none) t) :
    scanFraction negative significand power places t =
      scanTail negative significand (power - places) t := by
  cases t with
  | nil => simp only [scanFraction, if_neg some_digit]
  | cons b t => simp only [scanFraction, heads_cons.mp heads, if_neg some_digit]

/-- A fraction has a digit. -/
theorem places_ne_zero (heads : Heads (digit? · = none) s)
    (scanned : scanFraction negative significand power places s = .ok (value, rest)) :
    places ≠ 0 := by
  rintro rfl
  cases s with
  | nil => simp [scanFraction, Fault.next] at scanned
  | cons b s => simp [scanFraction, heads_cons.mp heads, Fault.next] at scanned

theorem extent_scanFraction
    (scanned : scanFraction negative significand power places s = .ok (value, rest)) :
    Extent (scanFraction negative significand power places) s value rest := by
  have ended {significand places : Nat} {t : List UInt8} (heads : Heads (digit? · = none) t)
      (scanned : scanFraction negative significand power places t = .ok (value, rest)) :
      Extent (scanFraction negative significand power places) t value rest :=
    .of_heads (fun _ _ delimited => digit?_eq_none delimited.1)
      (fun _ => scanFraction_of_heads (places_ne_zero heads scanned)) extent_scanTail heads scanned
  induction s generalizing significand places with
  | nil => exact ended nofun scanned
  | cons b s ih =>
      cases digit : digit? b with
      | none => exact ended (heads_cons.mpr digit) scanned
      | some d =>
          simp only [scanFraction, digit] at scanned
          split at scanned
          · next full =>
            refine (extent_scanTail scanned).dropDigits.cons fun t => ?_
            simp only [scanFraction, digit, if_pos full]
          · next within =>
            refine (ih scanned).cons fun t => ?_
            simp only [scanFraction, digit, if_neg within]

theorem scanFurtherDigits_of_heads {t : List UInt8}
    (heads : Heads (fun b => isDigit b = false ∧ b ≠ Ascii.point) t) :
    scanFurtherDigits negative significand places t = scanTail negative significand places t := by
  cases t with
  | nil => rfl
  | cons b t =>
      obtain ⟨not_digit, not_point⟩ := heads_cons.mp heads
      simp [scanFurtherDigits, not_digit, not_point]

theorem extent_scanFurtherDigits
    (scanned : scanFurtherDigits negative significand places s = .ok (value, rest)) :
    Extent (scanFurtherDigits negative significand places) s value rest := by
  have ended {places : Nat} {t : List UInt8}
      (heads : Heads (fun b => isDigit b = false ∧ b ≠ Ascii.point) t)
      (scanned : scanFurtherDigits negative significand places t = .ok (value, rest)) :
      Extent (scanFurtherDigits negative significand places) t value rest :=
    .of_heads (fun _ _ delimited => ⟨delimited.1, delimited.2.1⟩)
      (fun _ => scanFurtherDigits_of_heads) extent_scanTail heads scanned
  induction s generalizing places with
  | nil => exact ended nofun scanned
  | cons b s ih =>
      cases digit : isDigit b with
      | true =>
          simp only [scanFurtherDigits, digit, if_true] at scanned
          refine (ih scanned).cons fun t => ?_
          simp only [scanFurtherDigits, digit, if_true]
      | false =>
          by_cases point : b = Ascii.point
          · subst point
            exact (extent_scanFraction scanned).cons fun _ => rfl
          · exact ended (heads_cons.mpr ⟨digit, point⟩) scanned

/-! ## Integers and what may follow them -/

theorem scanAfterDigits_of_heads {t : List UInt8}
    (heads : Heads (fun b => b ≠ Ascii.point ∧ isExponentMark b = false) t) :
    scanAfterDigits negative significand t = .ok (ofDigits negative significand, t) := by
  cases t with
  | nil => rfl
  | cons b t =>
      obtain ⟨not_point, not_mark⟩ := heads_cons.mp heads
      simp [scanAfterDigits, not_point, not_mark]

theorem extent_scanAfterDigits
    (scanned : scanAfterDigits negative significand s = .ok (value, rest)) :
    Extent (scanAfterDigits negative significand) s value rest := by
  have ended {t : List UInt8}
      (heads : Heads (fun b => b ≠ Ascii.point ∧ isExponentMark b = false) t)
      (scanned : scanAfterDigits negative significand t = .ok (value, rest)) :
      Extent (scanAfterDigits negative significand) t value rest := by
    refine .of_heads (fun _ _ delimited => delimited.2) (fun _ => scanAfterDigits_of_heads) ?_
      heads scanned
    intro returned
    obtain ⟨rfl, rfl⟩ := Prod.mk.inj (Except.ok.inj returned)
    exact .stop (fun _ _ => rfl) t
  cases s with
  | nil => exact ended nofun scanned
  | cons b s =>
      by_cases point : b = Ascii.point
      · subst point
        exact (extent_scanFraction scanned).cons fun _ => rfl
      · cases mark : isExponentMark b with
        | false => exact ended (heads_cons.mpr ⟨point, mark⟩) scanned
        | true =>
            simp only [scanAfterDigits, if_neg point, mark, if_true] at scanned
            refine (extent_scanExponent scanned).cons fun t => ?_
            simp only [scanAfterDigits, if_neg point, mark, if_true]

theorem scanDigits_of_heads {t : List UInt8} (heads : Heads (digit? · = none) t) :
    scanDigits negative significand t = scanAfterDigits negative significand t := by
  cases t with
  | nil => rfl
  | cons b t => simp only [scanDigits, heads_cons.mp heads]

theorem extent_scanDigits (scanned : scanDigits negative significand s = .ok (value, rest)) :
    Extent (scanDigits negative significand) s value rest := by
  have ended {significand : Nat} {t : List UInt8} (heads : Heads (digit? · = none) t)
      (scanned : scanDigits negative significand t = .ok (value, rest)) :
      Extent (scanDigits negative significand) t value rest :=
    .of_heads (fun _ _ delimited => digit?_eq_none delimited.1) (fun _ => scanDigits_of_heads)
      extent_scanAfterDigits heads scanned
  induction s generalizing significand with
  | nil => exact ended nofun scanned
  | cons b s ih =>
      cases digit : digit? b with
      | none => exact ended (heads_cons.mpr digit) scanned
      | some d =>
          simp only [scanDigits, digit] at scanned
          split at scanned
          · next full =>
            refine (extent_scanFurtherDigits scanned).cons fun t => ?_
            simp only [scanDigits, digit, if_pos full]
          · next within =>
            refine (ih scanned).cons fun t => ?_
            simp only [scanDigits, digit, if_neg within]

/-- Nothing but a point or an exponent follows a leading zero. -/
theorem scanNumber_zero {t : List UInt8} (heads : Heads (isDigit · = false) t) :
    scanNumber negative (Ascii.zero :: t) = scanAfterDigits negative 0 t := by
  cases t with
  | nil => rfl
  | cons b t => simp [scanNumber, heads_cons.mp heads]

/-- A number is consumed up to its last byte, and it has a first one. -/
theorem extent_scanNumber (scanned : scanNumber negative s = .ok (value, rest)) :
    Extent (scanNumber negative) s value rest := by
  cases s with
  | nil => simp [scanNumber, Fault.here] at scanned
  | cons b s =>
      by_cases zero : b = Ascii.zero
      · subst zero
        have heads : Heads (isDigit · = false) s := by
          intro c first
          cases s with
          | nil => simp at first
          | cons d s =>
              obtain rfl : d = c := by simpa using first
              cases digit : isDigit d with
              | false => rfl
              | true => simp [scanNumber, digit, Fault.next] at scanned
        rw [scanNumber_zero heads] at scanned
        have after_zero : Extent (fun t => scanNumber negative (Ascii.zero :: t)) s value rest :=
          (extent_scanAfterDigits scanned).peek heads (fun _ => scanNumber_zero)
            fun _ _ delimited => delimited.1
        exact after_zero.cons fun _ => rfl
      · simp only [scanNumber, if_neg zero] at scanned
        cases digit : digit? b with
        | none => simp [digit, Fault.here] at scanned
        | some d =>
            simp only [digit] at scanned
            refine (extent_scanDigits scanned).cons fun t => ?_
            simp only [scanNumber, if_neg zero, digit]

end

end Intake.Json
