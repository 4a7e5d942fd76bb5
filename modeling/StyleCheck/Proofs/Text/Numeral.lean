import StyleCheck.Proofs.Text.Split
import StyleCheck.Text.Basic

/-!
# Decimal numerals

A text that has a value is a numeral by its shape: a sign or none, and then digits. The converse
needs the value to be in bounds. A number that is written in decimal has itself as its value.
-/

namespace StyleCheck.Text

variable {c : Char} {text rest : List Char} {n m : Nat} {value : Int}

/-- A sign, or none, and at least one digit. -/
def IsNumeral (text : List Char) : Prop :=
  ∃ sign digits, text = sign ++ digits ∧ (sign = [] ∨ sign = ['+'] ∨ sign = ['-']) ∧
    digits ≠ [] ∧ ∀ c ∈ digits, '0' ≤ c ∧ c ≤ '9'

theorem isDigit_of_mem_digitsFrom (h : digitsFrom n text = some m) (hc : c ∈ text) :
    '0' ≤ c ∧ c ≤ '9' := by
  induction text generalizing n with
  | nil => cases hc
  | cons d text ih =>
    obtain ⟨value, hd, htext⟩ := Option.bind_eq_some_iff.1 h
    rcases List.mem_cons.1 hc with rfl | hc
    · exact (Option.ite_none_right_eq_some.1 hd).1
    · exact ih htext hc

theorem isDigit_of_mem_digits? (h : digits? text = some n) :
    text ≠ [] ∧ ∀ c ∈ text, '0' ≤ c ∧ c ≤ '9' := by
  obtain ⟨hne, hdigits⟩ := Option.ite_none_left_eq_some.1 h
  exact ⟨fun heq => hne (List.isEmpty_iff.2 heq), fun c => isDigit_of_mem_digitsFrom hdigits⟩

/-- **What has a value is a numeral.** -/
theorem isNumeral_of_integer? (h : integer? text = some value) : IsNumeral text := by
  obtain ⟨hvalue, -⟩ := Option.filter_eq_some_iff.1 h
  split at hvalue
  next rest =>
    obtain ⟨n, hn, -⟩ := Option.map_eq_some_iff.1 hvalue
    exact ⟨['+'], rest, rfl, .inr (.inl rfl), isDigit_of_mem_digits? hn⟩
  next rest =>
    obtain ⟨n, hn, -⟩ := Option.map_eq_some_iff.1 hvalue
    exact ⟨['-'], rest, rfl, .inr (.inr rfl), isDigit_of_mem_digits? hn⟩
  · obtain ⟨n, hn, -⟩ := Option.map_eq_some_iff.1 hvalue
    exact ⟨[], text, rfl, .inl rfl, isDigit_of_mem_digits? hn⟩

theorem IsNumeral.not_mem (h : IsNumeral text) (hplus : c ≠ '+') (hminus : c ≠ '-')
    (hdigit : ¬ ('0' ≤ c ∧ c ≤ '9')) : c ∉ text := by
  obtain ⟨sign, digits, rfl, hsign, -, hdigits⟩ := h
  intro hc
  rcases List.mem_append.1 hc with hc | hc
  · rcases hsign with rfl | rfl | rfl
    · cases hc
    · exact hplus (List.mem_singleton.1 hc)
    · exact hminus (List.mem_singleton.1 hc)
  · exact hdigit (hdigits c hc)

/-! ## Written numbers -/

theorem digit?_of_isDigit (h : c.isDigit = true) : digit? c = some (c.toNat - '0'.toNat) := by
  obtain ⟨hlow, hhigh⟩ := Char.isDigit_iff_toNat.1 h
  exact if_pos ⟨hlow, hhigh⟩

theorem digitsFrom_of_isDigit (h : ∀ c ∈ text, c.isDigit = true) :
    digitsFrom n text = some (Nat.ofDigitChars 10 text n) := by
  induction text generalizing n with
  | nil => simp [digitsFrom]
  | cons c text ih =>
    obtain ⟨hc, htext⟩ := List.forall_mem_cons.1 h
    rw [digitsFrom, digit?_of_isDigit hc, Option.bind_some, ih htext, Nat.ofDigitChars_cons]

theorem isDigit_of_mem_toString (h : c ∈ (toString n).toList) : c.isDigit = true := by
  rw [Nat.toString_eq_ofList_toDigits, String.toList_ofList] at h
  exact Nat.isDigit_of_mem_toDigits (by decide) (by decide) h

/-- **A written number is read back.** -/
theorem digits?_toString (n : Nat) : digits? (toString n).toList = some n := by
  have hdigits : ∀ c ∈ Nat.toDigits 10 n, c.isDigit = true := fun c hc =>
    Nat.isDigit_of_mem_toDigits (by decide) (by decide) hc
  have hne : Nat.toDigits 10 n ≠ [] := Nat.toDigits_ne_nil
  rw [Nat.toString_eq_ofList_toDigits, String.toList_ofList, digits?,
    if_neg (by simp [hne]), digitsFrom_of_isDigit hdigits, Nat.ofDigitChars_ten_toDigits]

/-- Reads a number, and gives the rest of the text. -/
def number? (text : List Char) : Option (Nat × List Char) :=
  (digits? (text.takeWhile Char.isDigit)).map fun n => (n, text.dropWhile Char.isDigit)

theorem number?_append (n : Nat) (rest : List Char) (h : ∀ c ∈ rest.head?, c.isDigit = false) :
    number? ((toString n).toList ++ rest) = some (n, rest) := by
  have hdigits : ∀ c ∈ (toString n).toList, c.isDigit = true := fun c hc =>
    isDigit_of_mem_toString hc
  obtain ⟨htake, hdrop⟩ := span_append hdigits h
  rw [number?, htake, hdrop, digits?_toString]
  rfl

end StyleCheck.Text
