import FreeSurface.Text.Numeral
import Mathlib.Tactic.Common

/-!
# Numerals read back

A numeral is proper when its digits are such as a document may hold: no part of it is empty, and a
zero in front stands alone.  A proper numeral is read back from its own characters, whatever follows
them that cannot belong to a numeral, and only proper numerals can be read from theirs.

* `Numeral.read?_write` — proper numerals read back.
* `Numeral.isProper_of_read?_write` — improper ones are not read at all.
* `Digit.value_ofNat`, `Numeral.isProper_ofInt` — whole numbers.
-/

namespace FreeSurface

namespace Digit

@[simp] lemma ofChar?_toChar (d : Digit) : ofChar? d.toChar = some d := by
  revert d; decide

/-- A text that does not go on with a digit. -/
def Stops (rest : List Char) : Prop := ∀ c ∈ rest.head?, ofChar? c = none

lemma stops_cons {c : Char} {rest : List Char} : Stops (c :: rest) ↔ ofChar? c = none := by
  simp [Stops]

/-- Digits are told apart from what does not go on with one. -/
lemma span_append (ds : List Digit) {rest : List Char} (h : Stops rest) :
    span (ds.map toChar ++ rest) = (ds, rest) := by
  induction ds with
  | nil =>
    cases rest with
    | nil => rfl
    | cons c rest => simp [span, stops_cons.mp h]
  | cons d ds ih => simp [span, ih]

/-! ## Whole numbers -/

lemma ofChar?_digitChar {n : ℕ} (h : n < 10) : ofChar? n.digitChar = some ⟨n, h⟩ := by
  have table : ∀ d : Digit, ofChar? (Nat.digitChar d.val) = some d := by decide
  exact table ⟨n, h⟩

lemma ofNat_of_lt {n : ℕ} (h : n < 10) : ofNat n = [⟨n, h⟩] := by
  simp [ofNat, Nat.toDigits_of_lt_base h, ofChar?_digitChar h]

lemma ofNat_of_le {n : ℕ} (h : 10 ≤ n) :
    ofNat n = ofNat (n / 10) ++ [⟨n % 10, Nat.mod_lt _ (by decide)⟩] := by
  have last : n % 10 < 10 := Nat.mod_lt _ (by decide)
  simp [ofNat, Nat.toDigits_of_base_le (by decide : 1 < 10) h, ofChar?_digitChar last]

lemma value_append_singleton (ds : List Digit) (d : Digit) :
    value (ds ++ [d]) = 10 * value ds + d.val := by
  simp [value]

/-- Digits denote the number they were taken from. -/
@[simp] lemma value_ofNat (n : ℕ) : value (ofNat n) = n := by
  induction n using Nat.strongRecOn with
  | ind n ih =>
    rcases Nat.lt_or_ge n 10 with small | large
    · simp [ofNat_of_lt small, value]
    · rw [ofNat_of_le large, value_append_singleton, ih (n / 10) (by omega)]
      simp only
      omega

lemma ofNat_ne_nil (n : ℕ) : ofNat n ≠ [] := by
  rcases Nat.lt_or_ge n 10 with small | large
  · simp [ofNat_of_lt small]
  · simp [ofNat_of_le large]

/-- Only zero has a zero in front. -/
lemma eq_zero_of_head?_ofNat {n : ℕ} (h : (ofNat n).head? = some zero) : n = 0 := by
  induction n using Nat.strongRecOn with
  | ind n ih =>
    rcases Nat.lt_or_ge n 10 with small | large
    · simpa [ofNat_of_lt small, zero, Fin.ext_iff] using h
    · have front : (ofNat (n / 10)).head? = some zero := by
        obtain ⟨d, ds, front⟩ := List.exists_cons_of_ne_nil (ofNat_ne_nil (n / 10))
        rw [ofNat_of_le large, front] at h
        rwa [front]
      have := ih (n / 10) (by omega) front
      omega

end Digit

namespace Numeral

/-- No part is empty, and a zero in front stands alone. -/
def IsProper (n : Numeral) : Prop :=
  n.whole ≠ [] ∧ (n.whole.head? = some Digit.zero → n.whole = [Digit.zero]) ∧
    (∀ ds ∈ n.fraction, ds ≠ []) ∧ ∀ e ∈ n.exponent, e.2 ≠ []

lemma isProper_ofInt (i : Int) : (ofInt i).IsProper := by
  refine ⟨Digit.ofNat_ne_nil _, fun h => ?_, by simp [ofInt], by simp [ofInt]⟩
  have nothing : i.natAbs = 0 := Digit.eq_zero_of_head?_ofNat h
  simp only [ofInt, nothing]
  decide

/-! ## Parts -/

def writeFraction : Option (List Digit) → List Char
  | some ds => '.' :: ds.map Digit.toChar
  | none => []

def writeExponent : Option (ExponentSign × List Digit) → List Char
  | some (sign, ds) => 'e' :: writeSign sign ++ ds.map Digit.toChar
  | none => []

lemma write_eq (n : Numeral) :
    n.write = (if n.negative then ['-'] else []) ++ (n.whole.map Digit.toChar
      ++ (writeFraction n.fraction ++ writeExponent n.exponent)) := by
  obtain ⟨negative, whole, fraction, exponent⟩ := n
  cases fraction <;> cases exponent <;> simp [write, writeFraction, writeExponent]

/-- A text that does not go on with what may belong to a numeral. -/
def Ends (rest : List Char) : Prop :=
  ∀ c ∈ rest.head?, Digit.ofChar? c = none ∧ c ≠ '-' ∧ c ≠ '.' ∧ c ≠ 'e' ∧ c ≠ 'E'

lemma Ends.stops {rest : List Char} (h : Ends rest) : Digit.Stops rest := fun c hc => (h c hc).1

lemma stops_writeExponent_append (e : Option (ExponentSign × List Digit)) {rest : List Char}
    (h : Ends rest) : Digit.Stops (writeExponent e ++ rest) := by
  cases e with
  | none => exact h.stops
  | some e => exact Digit.stops_cons.mpr (by decide)

lemma stops_writeFraction_append (f : Option (List Digit))
    (e : Option (ExponentSign × List Digit)) {rest : List Char} (h : Ends rest) :
    Digit.Stops (writeFraction f ++ (writeExponent e ++ rest)) := by
  cases f with
  | none => exact stops_writeExponent_append e h
  | some ds => exact Digit.stops_cons.mpr (by decide)

/-- Digits do not begin with a sign. -/
lemma readSign_append (sign : ExponentSign) {ds : List Digit} (h : ds ≠ []) (rest : List Char) :
    readSign (writeSign sign ++ (ds.map Digit.toChar ++ rest))
      = (sign, ds.map Digit.toChar ++ rest) := by
  obtain ⟨d, ds, rfl⟩ := List.exists_cons_of_ne_nil h
  cases sign with
  | plus => rfl
  | minus => rfl
  | unsigned =>
    have noSign : ∀ d : Digit, d.toChar ≠ '+' ∧ d.toChar ≠ '-' := by decide
    simp [writeSign, readSign, noSign d]

lemma readExponent?_append {e : Option (ExponentSign × List Digit)} (he : ∀ p ∈ e, p.2 ≠ [])
    {rest : List Char} (h : Ends rest) :
    readExponent? (writeExponent e ++ rest) = some (e, rest) := by
  match e with
  | none =>
    cases rest with
    | nil => rfl
    | cons c rest =>
      obtain ⟨-, -, -, small, large⟩ := h c rfl
      simp [writeExponent, readExponent?, small, large]
  | some (sign, ds) =>
    have present : ds ≠ [] := he _ rfl
    simp only [writeExponent, List.cons_append, List.append_assoc, readExponent?, true_or, if_true,
      readSign_append sign present, Digit.span_append ds h.stops]

lemma ne_nil_of_readExponent? {e : Option (ExponentSign × List Digit)}
    (h : (readExponent? (writeExponent e)).isSome) : ∀ p ∈ e, p.2 ≠ [] := by
  rintro ⟨sign, ds⟩ he rfl
  subst he
  cases sign <;> exact absurd h (by decide)

/-- A fraction is read exactly when its digits are not missing. -/
lemma readFraction?_append (f : Option (List Digit)) {rest : List Char} (h : Digit.Stops rest)
    (noPoint : rest.head? ≠ some '.') :
    readFraction? (writeFraction f ++ rest)
      = if ∀ ds ∈ f, ds ≠ [] then some (f, rest) else none := by
  cases f with
  | none =>
    cases rest with
    | nil => rfl
    | cons c rest =>
      have : c ≠ '.' := by simpa using noPoint
      simp [writeFraction, readFraction?, this]
  | some ds =>
    simp only [writeFraction, List.cons_append, readFraction?, Digit.span_append ds h]
    cases ds <;> simp

/-- A whole part is read exactly when it is not missing and has no zero in front of others. -/
lemma readWhole?_append (ds : List Digit) {rest : List Char} (h : Digit.Stops rest) :
    readWhole? (ds.map Digit.toChar ++ rest)
      = if ds ≠ [] ∧ (ds.head? = some Digit.zero → ds = [Digit.zero]) then some (ds, rest)
        else none := by
  simp only [readWhole?, Digit.span_append ds h]
  cases ds with
  | nil => simp
  | cons d ds => by_cases hd : d = Digit.zero <;> simp [hd]

lemma readNegative_append (negative : Bool) {s : List Char} (h : s.head? ≠ some '-') :
    readNegative ((if negative then ['-'] else []) ++ s) = (negative, s) := by
  cases negative with
  | true => rfl
  | false =>
    cases s with
    | nil => rfl
    | cons c s =>
      have : c ≠ '-' := by simpa using h
      simp [readNegative, this]

/-! ## All parts together -/

lemma head?_ne_point (e : Option (ExponentSign × List Digit)) {rest : List Char} (h : Ends rest) :
    (writeExponent e ++ rest).head? ≠ some '.' := by
  cases e with
  | none => exact fun eq => (h '.' eq).2.2.1 rfl
  | some e => simp [writeExponent]

/-- What follows the sign of a numeral is no sign. -/
lemma head?_ne_sign (n : Numeral) {rest : List Char} (h : Ends rest) :
    (n.whole.map Digit.toChar
      ++ (writeFraction n.fraction ++ (writeExponent n.exponent ++ rest))).head? ≠ some '-' := by
  have digits : ∀ d : Digit, d.toChar ≠ '-' := by decide
  cases n.whole with
  | cons d ds => simp [digits d]
  | nil =>
    cases n.fraction with
    | some ds => simp [writeFraction]
    | none =>
      cases n.exponent with
      | some e => simp [writeFraction, writeExponent]
      | none => exact fun eq => (h '-' eq).2.1 rfl

/-- Part after part is read. -/
lemma read?_append (n : Numeral) {rest : List Char} (h : Ends rest) :
    read? (n.write ++ rest)
      = if n.whole ≠ [] ∧ (n.whole.head? = some Digit.zero → n.whole = [Digit.zero]) then
          if ∀ ds ∈ n.fraction, ds ≠ [] then
            (readExponent? (writeExponent n.exponent ++ rest)).map fun (e, rest) =>
              ({ n with exponent := e }, rest)
          else none
        else none := by
  rw [read?, write_eq, List.append_assoc, List.append_assoc, List.append_assoc,
    readNegative_append _ (head?_ne_sign n h)]
  have fraction := readFraction?_append n.fraction (stops_writeExponent_append n.exponent h)
    (head?_ne_point n.exponent h)
  simp only [readWhole?_append _ (stops_writeFraction_append _ _ h)]
  split_ifs with whole present
  · rw [if_pos present] at fraction
    simp only [Option.bind_eq_bind, Option.bind_some, fraction, Option.map_eq_bind]
    rfl
  · rw [if_neg present] at fraction
    simp only [Option.bind_eq_bind, Option.bind_some, fraction, Option.bind_none]
  · rfl

/-- A proper numeral is read back, whatever follows it. -/
lemma read?_write {n : Numeral} (hn : n.IsProper) {rest : List Char} (h : Ends rest) :
    read? (n.write ++ rest) = some (n, rest) := by
  obtain ⟨whole, zeros, fraction, exponent⟩ := hn
  rw [read?_append n h, if_pos ⟨whole, zeros⟩, if_pos fraction, readExponent?_append exponent h]
  rfl

/-- Only a proper numeral can be read from its characters. -/
lemma isProper_of_read?_write {n : Numeral} (h : (read? n.write).isSome) : n.IsProper := by
  have nothing : Ends [] := by simp [Ends]
  have parts := read?_append n nothing
  rw [List.append_nil, List.append_nil] at parts
  rw [parts] at h
  split_ifs at h with whole fraction
  · rw [Option.isSome_map] at h
    exact ⟨whole.1, whole.2, fraction, ne_nil_of_readExponent? h⟩
  · cases h
  · cases h

end Numeral

end FreeSurface
