import Reckoner.Proofs.Words.Numerals

/-!
# The first word is the longest

The first character of a word settles its kind, numerals apart, which are whole or real
by what follows.  So the word that is cut off a text is the longest of any kind, and
where none is cut off there is none.

* `Kind.Begins` — the characters that a word of a kind can begin with;
* `Kind.eq_of_matches` — no spelling has two kinds;
* `Longest.unique` — no text has two longest words;
* `cut?_eq_some_iff`, `cut?_eq_none_iff` — the longest word is found, and only that.
-/

namespace Reckoner

/-- The characters that a word of the kind can begin with. -/
def Kind.Begins : Kind → Char → Prop
  | .real, c => c.isDigit = true ∨ c = '.'
  | .integer, c => c.isDigit = true
  | .name, c => isNameStart c = true
  | .mark lexeme, c => mark? c = some lexeme
  | .blank, c => isBlank c = true

namespace Kind

/-- A word is not empty. -/
theorem Matches.ne_nil {kind : Kind} {s : List Char} (h : kind.Matches s) : s ≠ [] := by
  cases kind with
  | real =>
      rcases h with ⟨whole, fraction, exponent, -, hfraction, -, rfl⟩ |
        ⟨whole, exponent, hwhole, -, rfl⟩
      · simp [hfraction.ne_nil]
      · simp [hwhole.1]
  | integer => exact h.1
  | name =>
      obtain ⟨first, others, -, -, rfl⟩ := h
      exact List.cons_ne_nil _ _
  | mark lexeme =>
      obtain ⟨c, -, rfl⟩ := h
      exact List.cons_ne_nil _ _
  | blank => exact h.1

/-- A word begins as its kind does. -/
theorem Matches.begins {kind : Kind} {c : Char} {s : List Char} (h : kind.Matches (c :: s)) :
    kind.Begins c := by
  cases kind with
  | real =>
      rcases h with ⟨whole, fraction, exponent, hwhole, hfraction, -, heq⟩ |
        ⟨whole, exponent, hwhole, -, heq⟩
      · rcases hwhole with hwhole | rfl
        · obtain ⟨d, ds, rfl⟩ := List.exists_cons_of_ne_nil hwhole.1
          obtain ⟨rfl, -⟩ := List.cons.inj heq
          exact .inl (hwhole.2 c (by simp))
        · obtain ⟨ds, -, rfl⟩ := hfraction
          obtain ⟨rfl, -⟩ := List.cons.inj heq
          exact .inr rfl
      · obtain ⟨d, ds, rfl⟩ := List.exists_cons_of_ne_nil hwhole.1
        obtain ⟨rfl, -⟩ := List.cons.inj heq
        exact .inl (hwhole.2 c (by simp))
  | integer => exact h.2 c (by simp)
  | name =>
      obtain ⟨first, others, hfirst, -, heq⟩ := h
      obtain ⟨rfl, -⟩ := List.cons.inj heq
      exact hfirst
  | mark lexeme =>
      obtain ⟨d, hd, heq⟩ := h
      obtain ⟨rfl, -⟩ := List.cons.inj heq
      exact hd
  | blank => exact h.2 c (by simp)

/-- A blank begins blanks. -/
theorem Begins.eq_blank {kind : Kind} {c : Char} (h : kind.Begins c) (hc : isBlank c = true) :
    kind = .blank := by
  obtain ⟨hname, hmark, hdigit, hpoint⟩ := not_begins_of_isBlank hc
  cases kind with
  | real => simp [Begins, hdigit, hpoint] at h
  | integer => simp [Begins, hdigit] at h
  | name => simp [Begins, hname] at h
  | mark lexeme => simp [Begins, hmark] at h
  | blank => rfl

/-- A mark begins itself. -/
theorem Begins.eq_mark {kind : Kind} {c : Char} {lexeme : Lexeme} (h : kind.Begins c)
    (hc : mark? c = some lexeme) : kind = .mark lexeme := by
  obtain ⟨hblank, hname, hdigit, hpoint⟩ := not_begins_of_mark? hc
  cases kind with
  | real => simp [Begins, hdigit, hpoint] at h
  | integer => simp [Begins, hdigit] at h
  | name => simp [Begins, hname] at h
  | mark lexeme' => simp_all [Begins]
  | blank => simp [Begins, hblank] at h

/-- A letter begins a name. -/
theorem Begins.eq_name {kind : Kind} {c : Char} (h : kind.Begins c) (hc : isNameStart c = true) :
    kind = .name := by
  obtain ⟨hdigit, hpoint⟩ := not_begins_of_isNameStart hc
  cases kind with
  | real => simp [Begins, hdigit, hpoint] at h
  | integer => simp [Begins, hdigit] at h
  | name => rfl
  | mark lexeme => simp [(not_begins_of_mark? h).2.1] at hc
  | blank => simp [(not_begins_of_isBlank h).1] at hc

/-- Whatever begins no word of another kind begins a numeral. -/
theorem Begins.eq_numeral {kind : Kind} {c : Char} (h : kind.Begins c)
    (hblank : isBlank c = false) (hname : isNameStart c = false) (hmark : mark? c = none) :
    kind = .real ∨ kind = .integer := by
  cases kind with
  | real => exact .inl rfl
  | integer => exact .inr rfl
  | name => simp [Begins, hname] at h
  | mark lexeme => simp [Begins, hmark] at h
  | blank => simp [Begins, hblank] at h

/-- A real numeral is not all digits. -/
theorem not_isDigits_of_isReal {s : List Char} (h : IsReal s) : ¬ IsDigits s := by
  intro hdigits
  have hmem : ∃ c ∈ s, c.isDigit = false := by
    rcases h with ⟨whole, fraction, exponent, -, ⟨ds, -, rfl⟩, -, rfl⟩ |
      ⟨whole, exponent, -, ⟨e, sign, ds, he, -, -, rfl⟩, rfl⟩
    · exact ⟨'.', by simp, by decide⟩
    · rcases he with rfl | rfl
      · exact ⟨'e', by simp, by decide⟩
      · exact ⟨'E', by simp, by decide⟩
  obtain ⟨c, hc, hfalse⟩ := hmem
  rw [hdigits.2 c hc] at hfalse
  cases hfalse

/-- No spelling has two kinds. -/
theorem eq_of_matches {kind kind' : Kind} {s : List Char} (h : kind.Matches s)
    (h' : kind'.Matches s) : kind = kind' := by
  obtain ⟨c, cs, rfl⟩ := List.exists_cons_of_ne_nil h.ne_nil
  cases kind with
  | blank => exact (h'.begins.eq_blank h.begins).symm
  | name => exact (h'.begins.eq_name h.begins).symm
  | mark lexeme => exact (h'.begins.eq_mark h.begins).symm
  | real =>
      cases kind' with
      | real => rfl
      | integer => exact absurd h' (not_isDigits_of_isReal h)
      | name => exact h.begins.eq_name h'.begins
      | mark lexeme => exact h.begins.eq_mark h'.begins
      | blank => exact h.begins.eq_blank h'.begins
  | integer =>
      cases kind' with
      | integer => rfl
      | real => exact absurd h (not_isDigits_of_isReal h')
      | name => exact h.begins.eq_name h'.begins
      | mark lexeme => exact h.begins.eq_mark h'.begins
      | blank => exact h.begins.eq_blank h'.begins

end Kind

/-- No text has two longest words. -/
theorem Longest.unique {cs : List Char} {w w' : Cut} (h : Longest cs w) (h' : Longest cs w') :
    w = w' := by
  obtain ⟨happend, hmatches, hlongest⟩ := h
  obtain ⟨happend', hmatches', hlongest'⟩ := h'
  have hle := hlongest _ _ hmatches' ⟨_, happend'⟩
  have hle' := hlongest' _ _ hmatches ⟨_, happend⟩
  obtain ⟨hspelling, hrest⟩ :=
    List.append_inj (happend.trans happend'.symm) (Nat.le_antisymm hle' hle)
  rw [← hspelling] at hmatches'
  have hkind := Kind.eq_of_matches hmatches hmatches'
  cases w
  cases w'
  simp_all

/-- A run that satisfies a test is no longer than the longest one. -/
theorem length_le_takeWhile {p : Char → Bool} {s cs : List Char} (hs : ∀ c ∈ s, p c = true)
    (h : s <+: cs) : s.length ≤ (cs.takeWhile p).length := by
  obtain ⟨rest, rfl⟩ := h
  rw [List.takeWhile_append_of_pos hs, List.length_append]
  exact Nat.le_add_right _ _

/-- A numeral that is cut off is the longest. -/
theorem longest_of_numeral? {c : Char} {cs : List Char} {w : Cut}
    (hnumeral : ∀ kind : Kind, kind.Begins c → kind = .real ∨ kind = .integer)
    (h : numeral? (c :: cs) = some w) : Longest (c :: cs) w := by
  refine ⟨(numeral?_append h).2, ?_, ?_⟩
  · unfold numeral? at h
    simp only at h
    split at h
    · cases h
    next hne =>
      cases h
      cases hreal : (Numeral.split (c :: cs)).1.isReal with
      | true => exact Numeral.isReal_split hne hreal
      | false => exact Numeral.isDigits_split hne hreal
  · intro kind spelling hmatches hfront
    have hspelling : w.spelling = (Numeral.split (c :: cs)).1.spelling := by
      unfold numeral? at h
      simp only at h
      split at h <;> cases h
      rfl
    obtain ⟨d, ds, rfl⟩ := List.exists_cons_of_ne_nil hmatches.ne_nil
    obtain ⟨rest, hrest⟩ := hfront
    obtain ⟨rfl, -⟩ := List.cons.inj hrest
    rw [hspelling, ← hrest]
    apply Numeral.length_le_split
    rcases hnumeral kind hmatches.begins with rfl | rfl
    · exact .inl hmatches
    · exact .inr hmatches

/-- A word that goes on as long as a test holds is the longest, if only its own kind
begins so and all its spellings pass the test. -/
theorem longest_run {kind : Kind} {p : Char → Bool} {c : Char} {cs : List Char}
    (hmatches : kind.Matches (c :: cs.takeWhile p))
    (honly : ∀ other : Kind, other.Begins c → other = kind)
    (hrun : ∀ s, kind.Matches (c :: s) → ∀ d ∈ s, p d = true) :
    Longest (c :: cs) ⟨kind, c :: cs.takeWhile p, cs.dropWhile p⟩ := by
  refine ⟨by simp, hmatches, ?_⟩
  intro other spelling hother hfront
  obtain ⟨d, s, rfl⟩ := List.exists_cons_of_ne_nil hother.ne_nil
  obtain ⟨rfl, htail⟩ := List.cons_prefix_cons.1 hfront
  obtain rfl := honly other hother.begins
  have hle := length_le_takeWhile (hrun s hother) htail
  simpa using hle

/-- **Maximal munch.**  The word that is cut off is the longest. -/
theorem longest_of_cut? {cs : List Char} {w : Cut} (h : cut? cs = some w) : Longest cs w := by
  fun_cases cut? cs with
  | case1 => simp [cut?] at h
  | case2 c cs hblank =>
      rw [cut?_of_isBlank hblank] at h
      cases h
      refine longest_run ⟨List.cons_ne_nil _ _, fun d hd => ?_⟩ (fun _ hbegins =>
        hbegins.eq_blank hblank) fun s hs d hd => hs.2 d (List.mem_cons_of_mem c hd)
      rcases List.mem_cons.1 hd with rfl | hd
      · exact hblank
      · exact List.mem_takeWhile_imp hd
  | case3 c cs hblank hname =>
      rw [cut?_of_isNameStart hname] at h
      cases h
      refine longest_run ⟨c, _, hname, fun d hd => List.mem_takeWhile_imp hd, rfl⟩
        (fun _ hbegins => hbegins.eq_name hname) fun s hs d hd => ?_
      obtain ⟨first, others, -, hothers, heq⟩ := hs
      obtain ⟨-, rfl⟩ := List.cons.inj heq
      exact hothers d hd
  | case4 c cs hblank hname lexeme hmark =>
      rw [cut?_of_mark? hmark] at h
      cases h
      have htake : cs.takeWhile (fun _ => false) = [] := by cases cs <;> simp
      have hdrop : cs.dropWhile (fun _ => false) = cs := by cases cs <;> simp
      have hmatches : (Kind.mark lexeme).Matches (c :: cs.takeWhile fun _ => false) :=
        ⟨c, hmark, by rw [htake]⟩
      have hrun := longest_run hmatches (fun _ hbegins => hbegins.eq_mark hmark) fun s hs d hd => by
        obtain ⟨first, -, heq⟩ := hs
        obtain ⟨-, rfl⟩ := List.cons.inj heq
        cases hd
      rwa [htake, hdrop] at hrun
  | case5 c cs hblank hname hmark =>
      have hblank : isBlank c = false := by simpa using hblank
      have hname : isNameStart c = false := by simpa using hname
      rw [cut?_of_numeral hblank hname hmark] at h
      exact longest_of_numeral? (fun _ hbegins => hbegins.eq_numeral hblank hname hmark) h

/-- Where some word stands, one is cut off. -/
theorem cut?_isSome_of_matches {kind : Kind} {s cs : List Char} (h : kind.Matches s)
    (hfront : s <+: cs) : (cut? cs).isSome = true := by
  obtain ⟨c, s, rfl⟩ := List.exists_cons_of_ne_nil h.ne_nil
  obtain ⟨rest, rfl⟩ := hfront
  rw [List.cons_append]
  by_cases hblank : isBlank c = true
  · rw [cut?_of_isBlank hblank]
    rfl
  by_cases hname : isNameStart c = true
  · rw [cut?_of_isNameStart hname]
    rfl
  cases hmark : mark? c with
  | some lexeme =>
      rw [cut?_of_mark? hmark]
      rfl
  | none =>
      have hblank : isBlank c = false := by simpa using hblank
      have hname : isNameStart c = false := by simpa using hname
      have hnumeral : IsReal (c :: s) ∨ IsDigits (c :: s) := by
        rcases h.begins.eq_numeral hblank hname hmark with rfl | rfl
        · exact .inl h
        · exact .inr h
      have hle := Numeral.length_le_split hnumeral rest
      have hne : (Numeral.split (c :: (s ++ rest))).1.spelling ≠ [] := by
        rintro hnil
        rw [List.cons_append, hnil] at hle
        simp at hle
      rw [cut?_of_numeral hblank hname hmark]
      simp [numeral?, hne]

/-- **The longest word is found.**  Of all words of any kind the longest is cut off. -/
theorem cut?_eq_some_iff {cs : List Char} {w : Cut} : cut? cs = some w ↔ Longest cs w := by
  constructor
  · exact longest_of_cut?
  · intro h
    obtain ⟨w', hw'⟩ := Option.isSome_iff_exists.1 (cut?_isSome_of_matches h.2.1 ⟨_, h.1⟩)
    rw [hw', (longest_of_cut? hw').unique h]

/-- No word is cut off exactly where none of any kind stands. -/
theorem cut?_eq_none_iff {cs : List Char} :
    cut? cs = none ↔ ∀ (kind : Kind) (s : List Char), kind.Matches s → ¬ s <+: cs := by
  constructor
  · intro h kind s hmatches hfront
    have hsome := cut?_isSome_of_matches hmatches hfront
    simp [h] at hsome
  · intro h
    cases hcut : cut? cs with
    | none => rfl
    | some w =>
        obtain ⟨happend, hmatches, -⟩ := longest_of_cut? hcut
        exact absurd ⟨_, happend⟩ (h _ _ hmatches)

end Reckoner
