import Formwright.Text.Digits

/-!
# Numerals

A numeral is the text of a whole number: a minus perhaps, and decimal digits. It can be read again,
with any number of zeros before the digits, as long as there are not more digits than are read.

- `isDigit_of_mem_numeral`, `ofDigitChars_numeral`: the digits of a numeral.
- `numeral_injective`, `intNumeral_injective`: different numbers have different numerals.
- `readWhole_digits`: what digits are read as.
- `zeroPadded`, `readWhole_zeroPadded`: numerals after zeros.
- `readWhole_numeral`: a numeral is read as no other number.
-/

namespace Formwright.Text

theorem toList_numeral (n : Nat) : (toString n).toList = Nat.toDigits 10 n := by
  rw [show toString n = String.ofList (Nat.toDigits 10 n) from Nat.repr_eq_ofList_toDigits,
    String.toList_ofList]

theorem isDigit_of_mem_numeral {n : Nat} {ch : Char} (h : ch ∈ (toString n).toList) :
    ch.isDigit = true :=
  Nat.isDigit_of_mem_toDigits (by decide) (by decide) (toList_numeral n ▸ h)

theorem ofDigitChars_numeral (n : Nat) : Nat.ofDigitChars 10 (toString n).toList 0 = n := by
  rw [toList_numeral, Nat.ofDigitChars_toDigits (by decide) (by decide)]

theorem numeral_injective {m n : Nat} (h : toString m = toString n) : m = n := by
  rw [← ofDigitChars_numeral m, h, ofDigitChars_numeral]

theorem numeral_ne_nil (n : Nat) : (toString n).toList ≠ [] := fun digits =>
  Nat.repr_ne_empty (String.toList_eq_nil_iff.mp digits)

theorem numeral_head (n : Nat) :
    ∃ ch rest, (toString n).toList = ch :: rest ∧ ch.isDigit = true := by
  cases digits : (toString n).toList with
  | nil => exact absurd digits (numeral_ne_nil n)
  | cons ch rest => exact ⟨ch, rest, rfl, isDigit_of_mem_numeral (digits ▸ List.mem_cons_self)⟩

theorem toList_negative (n : Nat) :
    (toString (Int.negSucc n)).toList = '-' :: (toString (n + 1)).toList := by
  rw [show toString (Int.negSucc n) = "-" ++ toString (n + 1) from rfl, String.toList_append]
  rfl

theorem negative_ne_numeral (m n : Nat) : toString (Int.negSucc m) ≠ toString n := by
  intro same
  have minus : '-' ∈ (toString n).toList := by
    rw [← same, toList_negative]
    exact List.mem_cons_self
  exact absurd (isDigit_of_mem_numeral minus) (by decide)

theorem intNumeral_injective {m n : Int} (h : toString m = toString n) : m = n := by
  cases m with
  | ofNat m =>
    cases n with
    | ofNat n => exact congrArg Int.ofNat (numeral_injective h)
    | negSucc n => exact absurd h.symm (negative_ne_numeral n m)
  | negSucc m =>
    cases n with
    | ofNat n => exact absurd h (negative_ne_numeral m n)
    | negSucc n =>
      have digits : (toString (m + 1)).toList = (toString (n + 1)).toList := by
        have texts := congrArg String.toList h
        rw [toList_negative, toList_negative] at texts
        exact (List.cons.inj texts).2
      have same := numeral_injective (String.toList_inj.mp digits)
      exact congrArg Int.negSucc (Nat.succ.inj same)

/-! ## Digits -/

theorem digitValue?_digit {c : Char} (h : c.isDigit = true) :
    digitValue? c = some (c.toNat - '0'.toNat) := by
  obtain ⟨low, high⟩ : 0x30 ≤ c.toNat ∧ c.toNat ≤ 0x39 := by
    simpa [Char.isDigit, UInt32.le_iff_toNat_le] using h
  have ascii : c.toNat < 0x80 := by omega
  simp only [digitValue?, ascii, low, high, decide_true, Bool.and_self, if_true]
  rfl

theorem isNumberBlank_digit {c : Char} (h : c.isDigit = true) : isNumberBlank c = false := by
  obtain ⟨low, high⟩ : 0x30 ≤ c.toNat ∧ c.toNat ≤ 0x39 := by
    simpa [Char.isDigit, UInt32.le_iff_toNat_le] using h
  simp only [isNumberBlank, isBlank, Bool.and_eq_false_iff, Bool.or_eq_false_iff]
  left
  refine ⟨⟨⟨⟨⟨⟨⟨⟨⟨⟨?_, ?_⟩, ?_⟩, ?_⟩, ?_⟩, ?_⟩, ?_⟩, ?_⟩, ?_⟩, ?_⟩, ?_⟩ <;> simp <;> omega

theorem digitRun?_digits : ∀ {cs : List Char}, cs ≠ [] → (∀ c ∈ cs, c.isDigit = true) →
    digitRun? digitValue? cs = some (cs.map fun c => c.toNat - '0'.toNat)
  | [], nonempty, _ => absurd rfl nonempty
  | [c], _, digits => by
    rw [digitRun?, digitValue?_digit (digits c List.mem_cons_self)]
    rfl
  | c :: d :: cs, _, digits => by
    have others : ∀ e ∈ d :: cs, e.isDigit = true := fun e he =>
      digits e (List.mem_cons_of_mem c he)
    have noUnderscore : d ≠ '_' := by
      rintro rfl
      exact absurd (others '_' List.mem_cons_self) (by decide)
    rw [digitRun?, digitValue?_digit (digits c List.mem_cons_self),
      digitRun?_digits (List.cons_ne_nil d cs) others]
    · rfl
    · simp
    · rintro cs' ⟨rfl, -⟩
      exact noUnderscore rfl

theorem ofDigits_chars (cs : List Char) :
    ofDigits 10 (cs.map fun c => c.toNat - '0'.toNat) = Nat.ofDigitChars 10 cs 0 :=
  List.foldl_map

/-- **Digits** after a minus or none are read as a number, unless there are too many. -/
theorem readWhole_digits {s : String} (negative : Bool) (cs : List Char)
    (text : s.toList = if negative then '-' :: cs else cs) (nonempty : cs ≠ [])
    (digits : ∀ c ∈ cs, c.isDigit = true) :
    readWhole s = if cs.length ≤ maxDigits then
      some (signed negative (Nat.ofDigitChars 10 cs 0)) else none := by
  have trimmed : trimBy isNumberBlank s.toList = s.toList := by
    refine trimBy_of_ends (fun c first => ?_) fun c last => ?_
    · cases negative with
      | true =>
        rw [text] at first
        cases first
        decide
      | false =>
        rw [text] at first
        exact isNumberBlank_digit (digits c (List.mem_of_head? first))
    · have end_ : cs.getLast? = some c := by
        cases negative with
        | true => simpa [text, List.getLast?_cons_of_ne_nil nonempty] using last
        | false => simpa [text] using last
      exact isNumberBlank_digit (digits c (List.mem_of_getLast? end_))
  have split : splitSign s.toList = (negative, cs) := by
    cases negative with
    | true => rw [text]; rfl
    | false =>
      rw [text]
      cases cs with
      | nil => exact absurd rfl nonempty
      | cons c rest =>
        have digit := digits c List.mem_cons_self
        simp only [Bool.false_eq_true, if_false]
        unfold splitSign
        split
        · rename_i eq
          cases eq
          exact absurd digit (by decide)
        · rename_i eq
          cases eq
          exact absurd digit (by decide)
        · rfl
  rw [readWhole, trimmed, split]
  simp only [digitRun?_digits nonempty digits, Option.bind_eq_bind, Option.bind_some,
    List.length_map, ofDigits_chars]

/-! ## Numerals after zeros -/

/-- The numeral of a number after zeros. -/
def zeroPadded (zeros n : Nat) : String := String.ofList (List.replicate zeros '0') ++ toString n

theorem toList_zeroPadded (zeros n : Nat) :
    (zeroPadded zeros n).toList = List.replicate zeros '0' ++ (toString n).toList := by
  rw [zeroPadded, String.toList_append, String.toList_ofList]

theorem readWhole_zeroPadded (zeros n : Nat) : readWhole (zeroPadded zeros n) =
    if (zeroPadded zeros n).length ≤ maxDigits then some (n : Int) else none := by
  have digits : ∀ c ∈ (zeroPadded zeros n).toList, c.isDigit = true := by
    intro c mem
    rw [toList_zeroPadded, List.mem_append] at mem
    rcases mem with zero | digit
    · rw [List.eq_of_mem_replicate zero]
      decide
    · exact isDigit_of_mem_numeral digit
  have nonempty : (zeroPadded zeros n).toList ≠ [] := by
    rw [toList_zeroPadded]
    exact List.append_ne_nil_of_right_ne_nil _ (numeral_ne_nil n)
  have number : Nat.ofDigitChars 10 (zeroPadded zeros n).toList 0 = n := by
    rw [toList_zeroPadded, Nat.ofDigitChars_append, Nat.ofDigitChars_replicate_zero, Nat.mul_zero,
      ofDigitChars_numeral]
  rw [readWhole_digits false (zeroPadded zeros n).toList rfl nonempty digits, number,
    String.length_toList]
  rfl

/-- A numeral is read as no other number than its own. -/
theorem readWhole_numeral {z n : Int} (h : readWhole (toString z) = some n) : n = z := by
  cases z with
  | ofNat m =>
    change readWhole (toString m) = some n at h
    rw [readWhole_digits false (toString m).toList rfl (numeral_ne_nil m)
      fun _ => isDigit_of_mem_numeral, ofDigitChars_numeral] at h
    split at h
    · cases h
      rfl
    · cases h
  | negSucc m =>
    rw [readWhole_digits true (toString (m + 1)).toList (toList_negative m) (numeral_ne_nil (m + 1))
      fun _ => isDigit_of_mem_numeral, ofDigitChars_numeral] at h
    split at h
    · cases h
      rfl
    · cases h

end Formwright.Text
