import Mathlib.Data.List.TakeWhile
import Reckoner.Lexeme.Pattern

/-!
# Numerals are as long as they can be

Splitting a numeral off a text never looks back: digits, then a fraction if one stands
there, then an exponent if one stands there.  This module shows that the three greedy
steps together find the longest numeral, of whatever form, and what form it has.

* `spanDigits_append_of_stop`, `length_le_spanDigits` — a run of digits in front of a text;
* `Numeral.isReal_split`, `Numeral.isDigits_split` — what is split off is a numeral;
* `Numeral.length_split_of_fraction`, `Numeral.length_split_of_exponent` — how much is split
  off in front of a fraction or an exponent;
* `Numeral.length_le_split` — no numeral at the front of a text is longer.
-/

namespace Reckoner

/-- Digits in front of something else are taken, all of them and no more. -/
theorem spanDigits_append_of_stop {ds rest : List Char} (hds : ∀ c ∈ ds, c.isDigit = true)
    (hstop : ∀ c ∈ rest.head?, c.isDigit = false) : spanDigits (ds ++ rest) = (ds, rest) := by
  unfold spanDigits
  rw [List.takeWhile_append_of_pos hds, List.dropWhile_append_of_pos hds]
  cases rest with
  | nil => simp
  | cons c cs =>
      have hc : c.isDigit = false := hstop c (by simp)
      simp [hc]

/-- Digits in front of a text are among those that are taken. -/
theorem length_le_spanDigits {ds : List Char} (hds : ∀ c ∈ ds, c.isDigit = true)
    (rest : List Char) : ds.length ≤ (spanDigits (ds ++ rest)).1.length := by
  unfold spanDigits
  rw [List.takeWhile_append_of_pos hds, List.length_append]
  exact Nat.le_add_right _ _

/-- Only digits are taken. -/
theorem isDigit_of_mem_spanDigits {cs : List Char} {c : Char} (h : c ∈ (spanDigits cs).1) :
    c.isDigit = true :=
  List.mem_takeWhile_imp h

/-- A run of digits is not empty, so what is taken is one. -/
theorem IsDigits.spanDigits {ds : List Char} (h : IsDigits ds) (rest : List Char) :
    IsDigits (spanDigits (ds ++ rest)).1 := by
  refine ⟨fun hnil => h.1 ?_, fun c hc => isDigit_of_mem_spanDigits hc⟩
  have hle := length_le_spanDigits h.2 rest
  rw [hnil] at hle
  exact List.length_eq_zero_iff.1 (Nat.le_zero.1 hle)

/-- A fraction is not empty. -/
theorem IsFraction.ne_nil {s : List Char} (h : IsFraction s) : s ≠ [] := by
  obtain ⟨digits, -, rfl⟩ := h
  exact List.cons_ne_nil _ _

/-- The decimal digits of a whole number. -/
theorem isDigits_toDigits (n : Nat) : IsDigits (Nat.toDigits 10 n) :=
  ⟨Nat.toDigits_ne_nil, fun _ hc => Nat.isDigit_of_mem_toDigits (by decide) (by decide) hc⟩

/-- The decimal digits of a whole number have its value. -/
theorem digitsValue_toDigits (n : Nat) : digitsValue (Nat.toDigits 10 n) = n :=
  Nat.ofDigitChars_ten_toDigits

/-- Zeros are digits. -/
theorem isDigit_of_mem_zeros {n : Nat} {c : Char} (h : c ∈ List.replicate n '0') :
    c.isDigit = true := by
  rw [List.eq_of_mem_replicate h]
  rfl

/-- More digits after a run of digits make a longer one. -/
theorem IsDigits.append {ds es : List Char} (h : IsDigits ds)
    (hes : ∀ c ∈ es, c.isDigit = true) : IsDigits (ds ++ es) := by
  refine ⟨by simp [h.1], fun c hc => ?_⟩
  rcases List.mem_append.1 hc with hc | hc
  · exact h.2 c hc
  · exact hes c hc

/-- More digits after a fraction make a longer one. -/
theorem IsFraction.append {s es : List Char} (h : IsFraction s)
    (hes : ∀ c ∈ es, c.isDigit = true) : IsFraction (s ++ es) := by
  obtain ⟨ds, hds, rfl⟩ := h
  exact ⟨ds ++ es, hds.append hes, rfl⟩

/-- More digits after an exponent make a longer one. -/
theorem IsExponent.append {s es : List Char} (h : IsExponent s)
    (hes : ∀ c ∈ es, c.isDigit = true) : IsExponent (s ++ es) := by
  obtain ⟨e, sign, ds, he, hsign, hds, rfl⟩ := h
  exact ⟨e, sign, ds ++ es, he, hsign, hds.append hes, by simp⟩

/-- A real numeral goes on with every digit. -/
theorem IsReal.append {s es : List Char} (h : IsReal s) (hes : ∀ c ∈ es, c.isDigit = true) :
    IsReal (s ++ es) := by
  rcases h with ⟨whole, fraction, exponent, hwhole, hfraction, hexponent | rfl, rfl⟩ |
    ⟨whole, exponent, hwhole, hexponent, rfl⟩
  · exact .inl ⟨whole, fraction, exponent ++ es, hwhole, hfraction, .inl (hexponent.append hes),
      by simp⟩
  · exact .inl ⟨whole, fraction ++ es, [], hwhole, hfraction.append hes, .inr rfl, by simp⟩
  · exact .inr ⟨whole, exponent ++ es, hwhole, hexponent.append hes, by simp⟩

/-- A fraction begins with its point. -/
theorem IsFraction.head? {s : List Char} (h : IsFraction s) : s.head? = some '.' := by
  obtain ⟨ds, -, rfl⟩ := h
  rfl

/-- An exponent begins with its `e`. -/
theorem IsExponent.head? {s : List Char} (h : IsExponent s) :
    s.head? = some 'e' ∨ s.head? = some 'E' := by
  obtain ⟨e, sign, ds, he | he, -, -, rfl⟩ := h
  · exact .inl (by simp [he])
  · exact .inr (by simp [he])

/-- A fraction ends the digits before it. -/
theorem IsFraction.stop {s : List Char} (h : IsFraction s) (rest : List Char) :
    ∀ c ∈ (s ++ rest).head?, c.isDigit = false := by
  simp [List.head?_append, h.head?]

/-- An exponent ends the digits before it. -/
theorem IsExponent.stop {s : List Char} (h : IsExponent s) (rest : List Char) :
    ∀ c ∈ (s ++ rest).head?, c.isDigit = false := by
  rcases h.head? with hhead | hhead <;> simp [List.head?_append, hhead]

/-- An exponent is no fraction. -/
theorem IsExponent.head?_ne {s : List Char} (h : IsExponent s) (rest : List Char) :
    (s ++ rest).head? ≠ some '.' := by
  rcases h.head? with hhead | hhead <;> simp [List.head?_append, hhead]

/-- A digit is neither a sign nor a point nor an `e`. -/
theorem ne_of_isDigit {c d : Char} (hc : c.isDigit = true) (hd : d.isDigit = false) : c ≠ d := by
  rintro rfl
  rw [hc] at hd
  cases hd

namespace Numeral

/-- What is taken for a fraction is one, or nothing. -/
theorem isFraction_splitFraction (cs : List Char) :
    IsFraction (splitFraction cs).1 ∨ (splitFraction cs).1 = [] := by
  fun_cases splitFraction cs with
  | case1 cs rest h => exact .inr rfl
  | case2 cs digits rest hne h =>
      have hdigits : ∀ c ∈ digits, c.isDigit = true := by
        intro c hc
        have hmem : c ∈ (spanDigits cs).1 := by rwa [h]
        exact isDigit_of_mem_spanDigits hmem
      exact .inl ⟨digits, ⟨hne, hdigits⟩, rfl⟩
  | case3 cs h => exact .inr rfl

/-- What is taken for a sign is one, or nothing. -/
theorem sign_splitSign (cs : List Char) :
    (splitSign cs).1 = [] ∨ (splitSign cs).1 = ['+'] ∨ (splitSign cs).1 = ['-'] := by
  fun_cases splitSign cs with
  | case1 cs => exact .inr (.inl rfl)
  | case2 cs => exact .inr (.inr rfl)
  | case3 cs => exact .inl rfl

/-- What is taken for an exponent is one, or nothing. -/
theorem isExponent_splitExponent (cs : List Char) :
    IsExponent (splitExponent cs).1 ∨ (splitExponent cs).1 = [] := by
  fun_cases splitExponent cs with
  | case1 => exact .inr rfl
  | case2 c cs he rest h => exact .inr rfl
  | case3 c cs he digits rest hne h =>
      have hdigits : ∀ d ∈ digits, d.isDigit = true := by
        intro d hd
        have hmem : d ∈ (spanDigits (splitSign cs).2).1 := by rwa [h]
        exact isDigit_of_mem_spanDigits hmem
      exact .inl ⟨c, (splitSign cs).1, digits, he, sign_splitSign cs, ⟨hne, hdigits⟩, rfl⟩
  | case4 c cs he => exact .inr rfl

/-- A numeral that is split off has digits or a fraction, and nothing else before its
exponent. -/
theorem split_parts {cs : List Char} (h : (split cs).1.spelling ≠ []) :
    (IsDigits (split cs).1.whole ∨ (split cs).1.whole = []) ∧
      (IsFraction (split cs).1.fraction ∨ (split cs).1.fraction = []) ∧
      (IsExponent (split cs).1.exponent ∨ (split cs).1.exponent = []) ∧
      ((split cs).1.whole ≠ [] ∨ (split cs).1.fraction ≠ []) := by
  unfold split at h ⊢
  by_cases hnone : (spanDigits cs).1 = [] ∧ (splitFraction (spanDigits cs).2).1 = []
  · simp [hnone, spelling] at h
  · simp only [hnone, if_false]
    refine ⟨?_, isFraction_splitFraction _, isExponent_splitExponent _, not_and_or.1 hnone⟩
    by_cases hwhole : (spanDigits cs).1 = []
    · exact .inr hwhole
    · exact .inl ⟨hwhole, fun c hc => isDigit_of_mem_spanDigits hc⟩

/-- A real numeral that is split off is one. -/
theorem isReal_split {cs : List Char} (h : (split cs).1.spelling ≠ [])
    (hreal : (split cs).1.isReal = true) : IsReal (split cs).1.spelling := by
  obtain ⟨hwhole, hfraction, hexponent, hsome⟩ := split_parts h
  rcases hfraction with hfraction | hfraction
  · exact .inl ⟨_, _, _, hwhole, hfraction, hexponent, rfl⟩
  · rcases hexponent with hexponent | hexponent
    · have hdigits : IsDigits (split cs).1.whole := by
        rcases hwhole with hwhole | hwhole
        · exact hwhole
        · exact absurd hfraction (hsome.resolve_left (absurd hwhole))
      exact .inr ⟨_, _, hdigits, hexponent, by simp [spelling, hfraction]⟩
    · simp [isReal, hfraction, hexponent] at hreal

/-- A whole number that is split off is one. -/
theorem isDigits_split {cs : List Char} (h : (split cs).1.spelling ≠ [])
    (hwhole : (split cs).1.isReal = false) : IsDigits (split cs).1.spelling := by
  obtain ⟨hdigits, -, -, hsome⟩ := split_parts h
  have hparts : (split cs).1.fraction = [] ∧ (split cs).1.exponent = [] := by
    simpa [isReal] using hwhole
  have hspelling : (split cs).1.spelling = (split cs).1.whole := by
    simp [spelling, hparts]
  rw [hspelling]
  exact hdigits.resolve_right (hsome.resolve_right (absurd hparts.1))

/-- The length of the numeral that is split off, when there are digits or a fraction. -/
theorem length_split {cs : List Char}
    (h : (spanDigits cs).1 ≠ [] ∨ (splitFraction (spanDigits cs).2).1 ≠ []) :
    (split cs).1.spelling.length = (spanDigits cs).1.length
      + (splitFraction (spanDigits cs).2).1.length
      + (splitExponent (splitFraction (spanDigits cs).2).2).1.length := by
  unfold split
  have hsome : ¬ ((spanDigits cs).1 = [] ∧ (splitFraction (spanDigits cs).2).1 = []) :=
    not_and_or.2 h
  simp [hsome, spelling, Nat.add_assoc]

/-- A fraction with no digit after it is taken as it is. -/
theorem splitFraction_of_stop {s rest : List Char} (h : IsFraction s)
    (hstop : ∀ c ∈ rest.head?, c.isDigit = false) : splitFraction (s ++ rest) = (s, rest) := by
  obtain ⟨ds, hds, rfl⟩ := h
  cases ds with
  | nil => exact absurd rfl hds.1
  | cons d ds =>
      have hspan := spanDigits_append_of_stop hds.2 hstop
      simp only [List.cons_append] at hspan
      simp [splitFraction, hspan]

/-- Where no point stands there is no fraction. -/
theorem splitFraction_of_ne {cs : List Char} (h : cs.head? ≠ some '.') :
    splitFraction cs = ([], cs) := by
  fun_cases splitFraction cs with
  | case1 cs rest hspan => simp at h
  | case2 cs digits rest hne hspan => simp at h
  | case3 cs hne => rfl

/-- A sign, or none, before a digit is taken as it is. -/
theorem splitSign_of_isDigit {sign : List Char} (hsign : sign = [] ∨ sign = ['+'] ∨ sign = ['-'])
    {d : Char} (hd : d.isDigit = true) (rest : List Char) :
    splitSign (sign ++ d :: rest) = (sign, d :: rest) := by
  rcases hsign with rfl | rfl | rfl
  · rw [List.nil_append]
    unfold splitSign
    split
    next heq => exact absurd (List.cons.inj heq).1 (ne_of_isDigit hd (by decide))
    next heq => exact absurd (List.cons.inj heq).1 (ne_of_isDigit hd (by decide))
    next => rfl
  · rfl
  · rfl

/-- An exponent with no digit after it is taken as it is. -/
theorem splitExponent_of_stop {s rest : List Char} (h : IsExponent s)
    (hstop : ∀ c ∈ rest.head?, c.isDigit = false) : splitExponent (s ++ rest) = (s, rest) := by
  obtain ⟨e, sign, ds, he, hsign, hds, rfl⟩ := h
  cases ds with
  | nil => exact absurd rfl hds.1
  | cons d ds =>
      have hsplit := splitSign_of_isDigit hsign (hds.2 d (by simp)) (ds ++ rest)
      have hspan := spanDigits_append_of_stop hds.2 hstop
      simp only [List.cons_append] at hspan
      simp [splitExponent, he, hsplit, hspan]

/-- Where no `e` stands there is no exponent. -/
theorem splitExponent_of_ne {cs : List Char} (h : cs.head? ≠ some 'e') (h' : cs.head? ≠ some 'E') :
    splitExponent cs = ([], cs) := by
  cases cs with
  | nil => rfl
  | cons c cs =>
      have hc : ¬ (c = 'e' ∨ c = 'E') := by simpa using And.intro h h'
      simp [splitExponent, hc]

/-- The digits at the front of a text, and the rest, which begins with none. -/
theorem exists_digits (cs : List Char) :
    ∃ ds rest, cs = ds ++ rest ∧ (∀ c ∈ ds, c.isDigit = true) ∧
      ∀ c ∈ rest.head?, c.isDigit = false := by
  refine ⟨cs.takeWhile Char.isDigit, cs.dropWhile Char.isDigit,
    List.takeWhile_append_dropWhile.symm, fun c hc => List.mem_takeWhile_imp hc, ?_⟩
  intro c hc
  have hhead := List.head?_dropWhile_not Char.isDigit cs
  rw [Option.mem_def.1 hc] at hhead
  simpa using hhead

/-- No fraction at the front of a text is longer than the one that is taken. -/
theorem length_le_splitFraction {s : List Char} (h : IsFraction s) (rest : List Char) :
    s.length ≤ (splitFraction (s ++ rest)).1.length := by
  obtain ⟨ds, rest, rfl, hds, hstop⟩ := exists_digits rest
  rw [← List.append_assoc, splitFraction_of_stop (h.append hds) hstop, List.length_append]
  exact Nat.le_add_right _ _

/-- No exponent at the front of a text is longer than the one that is taken. -/
theorem length_le_splitExponent {s : List Char} (h : IsExponent s) (rest : List Char) :
    s.length ≤ (splitExponent (s ++ rest)).1.length := by
  obtain ⟨ds, rest, rfl, hds, hstop⟩ := exists_digits rest
  rw [← List.append_assoc, splitExponent_of_stop (h.append hds) hstop, List.length_append]
  exact Nat.le_add_right _ _

/-- The length of what is split off where digits, or none, stand before a fraction. -/
theorem length_split_of_fraction {whole fraction : List Char}
    (hwhole : IsDigits whole ∨ whole = []) (hfraction : IsFraction fraction) (rest : List Char) :
    (split (whole ++ fraction ++ rest)).1.spelling.length = whole.length
      + (splitFraction (fraction ++ rest)).1.length
      + (splitExponent (splitFraction (fraction ++ rest)).2).1.length := by
  have hdigits : ∀ c ∈ whole, c.isDigit = true := by
    rcases hwhole with hwhole | rfl
    · exact hwhole.2
    · simp
  -- The point ends the digits.
  have hspan : spanDigits (whole ++ fraction ++ rest) = (whole, fraction ++ rest) := by
    rw [List.append_assoc]
    exact spanDigits_append_of_stop hdigits (hfraction.stop rest)
  have hsome : (splitFraction (fraction ++ rest)).1 ≠ [] := by
    have hle := length_le_splitFraction hfraction rest
    have hpos := List.length_pos_iff.2 hfraction.ne_nil
    exact List.length_pos_iff.1 (by omega)
  rw [length_split (by rw [hspan]; exact .inr hsome), hspan]

/-- The length of what is split off where digits stand before an exponent. -/
theorem length_split_of_exponent {whole exponent : List Char} (hwhole : IsDigits whole)
    (hexponent : IsExponent exponent) (rest : List Char) :
    (split (whole ++ exponent ++ rest)).1.spelling.length = whole.length
      + (splitExponent (exponent ++ rest)).1.length := by
  -- The `e` ends the digits, and no point stands between them.
  have hspan : spanDigits (whole ++ exponent ++ rest) = (whole, exponent ++ rest) := by
    rw [List.append_assoc]
    exact spanDigits_append_of_stop hwhole.2 (hexponent.stop rest)
  have hfraction : splitFraction (exponent ++ rest) = ([], exponent ++ rest) :=
    splitFraction_of_ne (hexponent.head?_ne rest)
  rw [length_split (by rw [hspan]; exact .inl hwhole.1), hspan, hfraction, List.length_nil,
    Nat.add_zero]

/-- **The longest numeral.**  No numeral at the front of a text, whole or real, is longer
than the one that is split off. -/
theorem length_le_split {s : List Char} (h : IsReal s ∨ IsDigits s) (rest : List Char) :
    s.length ≤ (split (s ++ rest)).1.spelling.length := by
  rcases h with (⟨whole, fraction, exponent, hwhole, hfraction, hexponent, rfl⟩ |
    ⟨whole, exponent, hwhole, hexponent, rfl⟩) | hwhole
  · rw [List.append_assoc (whole ++ fraction), length_split_of_fraction hwhole hfraction,
      List.length_append, List.length_append]
    rcases hexponent with hexponent | rfl
    · -- The `e` ends the fraction.
      have hle := length_le_splitExponent hexponent rest
      rw [splitFraction_of_stop hfraction (hexponent.stop rest)]
      simp only
      omega
    · have hle := length_le_splitFraction hfraction ([] ++ rest)
      simp only [List.length_nil]
      omega
  · have hle := length_le_splitExponent hexponent rest
    rw [length_split_of_exponent hwhole hexponent, List.length_append]
    omega
  · have hle := length_le_spanDigits hwhole.2 rest
    rw [length_split (.inl (hwhole.spanDigits rest).1)]
    omega

end Numeral

end Reckoner
