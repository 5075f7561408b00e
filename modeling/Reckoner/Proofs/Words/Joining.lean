import Reckoner.Expr.Walk
import Reckoner.Proofs.Words.Tokens

/-!
# Texts cut apart

No word goes on with a bracket or a comma, and none but white space goes on with white
space.  So in front of such a character a text is scanned as it is alone, up to its end or
to its error, and what follows is scanned from where it begins.  Where a text begins only
moves the positions.

* `Parts` — a character that no word beginning with another goes on with;
* `cut?_append_of_parts` — the first word of a text, when such a character follows the text;
* `scan_shift` — a text that starts further to the right;
* `scan_blanks` — white space in front of a text;
* `scan_append` — a text in front of another;
* `tokenize_append_blanks` — two sources with white space between them.
-/

namespace Reckoner

/-- No word that begins with the first character goes on with the other. -/
def Parts (first c : Char) : Prop :=
  ∀ (kind : Kind) (s : List Char), kind.Matches (first :: s) → c ∉ s

/-- Whether the character ends an argument or a group. -/
def Closes (c : Char) : Prop :=
  c = ')' ∨ c = ','

/-- The characters of numerals. -/
def InNumeral (c : Char) : Prop :=
  c.isDigit = true ∨ c ∈ ['.', 'e', 'E', '+', '-']

/-- A fraction has characters of numerals only. -/
theorem IsFraction.inNumeral {s : List Char} (h : IsFraction s) : ∀ c ∈ s, InNumeral c := by
  obtain ⟨digits, hdigits, rfl⟩ := h
  intro c hc
  rcases List.mem_cons.1 hc with rfl | hc
  · exact .inr (by decide)
  · exact .inl (hdigits.2 c hc)

/-- An exponent has characters of numerals only. -/
theorem IsExponent.inNumeral {s : List Char} (h : IsExponent s) : ∀ c ∈ s, InNumeral c := by
  obtain ⟨e, sign, digits, he, hsign, hdigits, rfl⟩ := h
  intro c hc
  rcases List.mem_cons.1 hc with rfl | hc
  · rcases he with rfl | rfl <;> exact .inr (by decide)
  rcases List.mem_append.1 hc with hc | hc
  · rcases hsign with rfl | rfl | rfl
    · cases hc
    · exact .inr (by simp [List.mem_singleton.1 hc])
    · exact .inr (by simp [List.mem_singleton.1 hc])
  · exact .inl (hdigits.2 c hc)

/-- A real numeral has characters of numerals only. -/
theorem IsReal.inNumeral {s : List Char} (h : IsReal s) : ∀ c ∈ s, InNumeral c := by
  intro c hc
  rcases h with ⟨whole, fraction, exponent, hwhole, hfraction, hexponent, rfl⟩ |
    ⟨whole, exponent, hwhole, hexponent, rfl⟩
  · simp only [List.mem_append] at hc
    rcases hc with (hc | hc) | hc
    · rcases hwhole with hwhole | rfl
      · exact .inl (hwhole.2 c hc)
      · cases hc
    · exact hfraction.inNumeral c hc
    · rcases hexponent with hexponent | rfl
      · exact hexponent.inNumeral c hc
      · cases hc
  · rcases List.mem_append.1 hc with hc | hc
    · exact .inl (hwhole.2 c hc)
    · exact hexponent.inNumeral c hc

/-- A character that is in no numeral and in no name parts all words but those of white
space. -/
theorem Kind.Matches.not_mem {kind : Kind} {c first : Char} {s : List Char}
    (h : kind.Matches (first :: s)) (hnumeral : ¬ InNumeral c) (hname : isNameRest c = false)
    (hblank : kind = .blank → isBlank c = false) : c ∉ s := by
  intro hc
  have hmem : c ∈ first :: s := List.mem_cons_of_mem first hc
  cases kind with
  | real => exact hnumeral (h.inNumeral c hmem)
  | integer => exact hnumeral (.inl (h.2 c hmem))
  | name =>
      obtain ⟨first, others, -, hothers, heq⟩ := h
      obtain ⟨-, rfl⟩ := List.cons.inj heq
      rw [hothers c hc] at hname
      cases hname
  | mark lexeme =>
      obtain ⟨first, -, heq⟩ := h
      obtain ⟨-, rfl⟩ := List.cons.inj heq
      cases hc
  | blank =>
      have hfalse := hblank rfl
      rw [h.2 c hmem] at hfalse
      cases hfalse

/-- A bracket or a comma is in no name and in no numeral, and it is no blank. -/
theorem Closes.not_within {c : Char} (h : Closes c) :
    isNameRest c = false ∧ ¬ InNumeral c ∧ isBlank c = false := by
  unfold InNumeral
  rcases h with rfl | rfl <;> decide

/-- A bracket or a comma parts all words. -/
theorem Closes.parts {c : Char} (h : Closes c) (first : Char) : Parts first c := by
  intro kind s hmatches
  obtain ⟨hname, hnumeral, hblank⟩ := h.not_within
  exact hmatches.not_mem hnumeral hname fun _ => hblank

/-- A blank is in no name and in no numeral. -/
theorem not_within_of_isBlank {c : Char} (h : isBlank c = true) :
    isNameRest c = false ∧ ¬ InNumeral c := by
  unfold InNumeral
  simp only [isBlank, Bool.or_eq_true, beq_iff_eq] at h
  rcases h with (((rfl | rfl) | rfl) | rfl) | rfl <;> decide

/-- White space parts all words that do not begin with it. -/
theorem parts_of_isBlank {first c : Char} (hfirst : isBlank first = false)
    (hc : isBlank c = true) : Parts first c := by
  intro kind s hmatches
  obtain ⟨hname, hnumeral⟩ := not_within_of_isBlank hc
  refine hmatches.not_mem hnumeral hname ?_
  rintro rfl
  rw [hmatches.2 first List.mem_cons_self] at hfirst
  cases hfirst

section Front

variable {first : Char} {cs rest : List Char}

/-- A word at the front of two texts is within the first of them. -/
theorem Kind.Matches.prefix_of_parts {kind : Kind} {s : List Char} (h : kind.Matches s)
    (hfront : s <+: first :: cs ++ rest) (hrest : ∀ c ∈ rest.head?, Parts first c) :
    s <+: first :: cs := by
  by_cases hle : s.length ≤ (first :: cs).length
  · exact List.prefix_of_prefix_length_le hfront (List.prefix_append _ rest) hle
  · -- A longer word would go on past the end of the first text.
    obtain ⟨more, rfl⟩ := List.prefix_of_prefix_length_le (List.prefix_append _ rest) hfront
      (by omega)
    obtain ⟨after, hafter⟩ := hfront
    rw [List.append_assoc] at hafter
    have hrest' : more ++ after = rest := List.append_cancel_left hafter
    cases more with
    | nil => simp at hle
    | cons c more =>
        have hparts : Parts first c := hrest c (by simp [← hrest'])
        exact absurd (List.mem_append_right cs List.mem_cons_self) (hparts kind _ h)

/-- The longest word of a text stays the longest when the text goes on. -/
theorem Longest.append {w : Cut} (h : Longest (first :: cs) w)
    (hrest : ∀ c ∈ rest.head?, Parts first c) :
    Longest (first :: cs ++ rest) ⟨w.kind, w.spelling, w.rest ++ rest⟩ := by
  obtain ⟨happend, hmatches, hlongest⟩ := h
  refine ⟨by simp [← happend], hmatches, ?_⟩
  intro kind spelling hother hfront
  exact hlongest kind spelling hother (hother.prefix_of_parts hfront hrest)

/-- **The first word at a seam.**  The first word of a text is the first word of it and
what follows, and where the text has none, both have none. -/
theorem cut?_append_of_parts (hrest : ∀ c ∈ rest.head?, Parts first c) :
    cut? (first :: cs ++ rest)
      = (cut? (first :: cs)).map fun w => ⟨w.kind, w.spelling, w.rest ++ rest⟩ := by
  cases hcut : cut? (first :: cs) with
  | some w => exact cut?_eq_some_iff.2 ((cut?_eq_some_iff.1 hcut).append hrest)
  | none =>
      refine cut?_eq_none_iff.2 fun kind s hmatches hfront => ?_
      exact cut?_eq_none_iff.1 hcut kind s hmatches (hmatches.prefix_of_parts hfront hrest)

end Front

/-- A word of a text that starts further to the right. -/
def Slice.shift (k : Nat) (s : Slice) : Slice :=
  { s with position := k + s.position }

/-- The lexemes of words further to the right are further to the right. -/
theorem placed_shift (k : Nat) (slices : List Slice) :
    placed (slices.map (Slice.shift k))
      = (placed slices).map (PlacedLexeme.mapPosition fun position => k + position) := by
  simp only [placed, List.filter_map, List.map_map]
  rfl

/-- A cut of a text is one wherever the text starts. -/
theorem Sliced.shift {offset : Nat} {cs rest : List Char} {slices : List Slice} (k : Nat)
    (h : Sliced offset cs slices rest) :
    Sliced (k + offset) cs (slices.map (Slice.shift k)) rest := by
  induction h with
  | stop offset cs => exact .stop _ cs
  | cut hlongest hfits hrest ih =>
      rw [← Nat.add_assoc] at ih
      exact .cut hlongest hfits ih

/-- What a cut cannot get past, it cannot get past wherever the text starts. -/
theorem Breaks.shift {offset : Nat} {cs : List Char} {e : ParseError} (k : Nat)
    (h : Breaks offset cs e) :
    Breaks (k + offset) cs (e.mapPosition fun position => k + position) := by
  cases h with
  | tooLarge hlongest hkind hlarge => exact .tooLarge hlongest hkind hlarge
  | noWord hnone => exact .noWord hnone

/-- **Scanning further to the right.**  A text has the same lexemes, or the same error,
wherever it starts; only their positions are moved. -/
theorem scan_shift (k offset : Nat) (cs : List Char) :
    scan (k + offset) cs
      = ((scan offset cs).map
          (List.map (PlacedLexeme.mapPosition fun position => k + position))).mapError
        (ParseError.mapPosition fun position => k + position) := by
  obtain ⟨slices, rest, hsliced, hend⟩ := exists_sliced offset cs
  have hlength : (slices.map (Slice.shift k)).flatMap Slice.spelling
      = slices.flatMap Slice.spelling := by
    rw [List.flatMap_map]
    rfl
  rw [(hsliced.shift k).scan_eq, hsliced.scan_eq, hlength, placed_shift]
  rcases hend with rfl | ⟨e, hbreaks⟩
  · simp [bind, Except.bind, pure, Except.pure, Except.map, Except.mapError]
  · have hshifted := hbreaks.shift k
    rw [← Nat.add_assoc] at hshifted
    rw [hbreaks.scan_eq, hshifted.scan_eq]
    rfl

/-- White space at the front of a text is skipped. -/
theorem scan_dropWhile_isBlank (offset : Nat) (cs : List Char) :
    scan offset cs = scan (offset + utf8Length (cs.takeWhile isBlank)) (cs.dropWhile isBlank) := by
  cases cs with
  | nil => simp
  | cons c cs =>
      cases hblank : isBlank c with
      | false => simp [hblank]
      | true =>
          rw [scan_of_cut?_eq_some (cut?_of_isBlank hblank cs), List.takeWhile_cons_of_pos hblank,
            List.dropWhile_cons_of_pos hblank]
          cases scan (offset + utf8Length (c :: cs.takeWhile isBlank)) (cs.dropWhile isBlank) <;>
            rfl

/-- White space in front of a text is skipped, and the text is scanned behind it. -/
theorem scan_blanks {blanks : List Char} (h : ∀ c ∈ blanks, isBlank c = true) (offset : Nat)
    (rest : List Char) : scan offset (blanks ++ rest) = scan (offset + utf8Length blanks) rest := by
  rw [scan_dropWhile_isBlank, scan_dropWhile_isBlank _ rest, List.takeWhile_append_of_pos h,
    List.dropWhile_append_of_pos h, utf8Length_append, Nat.add_assoc]

/-- A lexeme is put in front of all that follow it. -/
theorem place_append (lexeme : Lexeme) (offset : Nat) (ts us : List PlacedLexeme) :
    place lexeme offset (ts ++ us) = place lexeme offset ts ++ us := by
  cases lexeme <;> rfl

/-- **Scanning across a seam.**  In front of a bracket, a comma or white space a text is
scanned as it is alone, and what follows from where it begins. -/
theorem scan_append {rest : List Char} (hrest : ∀ c ∈ rest.head?, Closes c ∨ isBlank c = true)
    (offset : Nat) (cs : List Char) :
    scan offset (cs ++ rest) = (do
      let ts ← scan offset cs
      let us ← scan (offset + utf8Length cs) rest
      return ts ++ us) := by
  have hparts {first : Char} (hfirst : isBlank first = false) :
      ∀ c ∈ rest.head?, Parts first c := by
    intro c hc
    rcases hrest c hc with hc | hc
    · exact hc.parts first
    · exact parts_of_isBlank hfirst hc
  induction offset, cs using scan.induct with
  | case1 offset =>
      rw [scan_nil]
      cases hscan : scan offset rest <;> simp [hscan, bind, Except.bind, pure, Except.pure]
  | case2 offset c cs hnone =>
      have hblank : isBlank c = false := by
        by_contra hblank
        rw [cut?_of_isBlank (by simpa using hblank)] at hnone
        cases hnone
      have hcut : cut? (c :: cs ++ rest) = none := by
        rw [cut?_append_of_parts (hparts hblank), hnone]
        rfl
      rw [scan_of_cut?_eq_none hnone]
      exact scan_of_cut?_eq_none hcut offset
  | case3 offset c cs w hcut ih =>
      have htext := (cut?_append hcut).2
      have hlength : utf8Length (c :: cs) = utf8Length w.spelling + utf8Length w.rest := by
        rw [← htext, utf8Length_append]
      cases hblank : isBlank c with
      | true =>
          -- The white space may go on behind the seam, so it is skipped and not cut off.
          have hspelling : ∀ d ∈ w.spelling, isBlank d = true := by
            rw [cut?_of_isBlank hblank] at hcut
            cases hcut
            intro d hd
            rcases List.mem_cons.1 hd with rfl | hd
            · exact hblank
            · exact List.mem_takeWhile_imp hd
          rw [← htext, List.append_assoc, scan_blanks hspelling, scan_blanks hspelling, ih,
            utf8Length_append, Nat.add_assoc]
      | false =>
          have hcut' : cut? (c :: cs ++ rest) = some ⟨w.kind, w.spelling, w.rest ++ rest⟩ := by
            rw [cut?_append_of_parts (hparts hblank), hcut]
            rfl
          have hlexeme :
              Cut.lexeme ⟨w.kind, w.spelling, w.rest ++ rest⟩ offset = w.lexeme offset := rfl
          rw [scan_of_cut?_eq_some hcut', scan_of_cut?_eq_some hcut, hlength, ← Nat.add_assoc,
            hlexeme, ih]
          simp only [bind_assoc, pure_bind, place_append]

/-- Two sources with white space between them are scanned one after the other. -/
theorem tokenize_append {s w t : String} (hw : IsBlanks w.toList) :
    tokenize (s ++ w ++ t) = (do
      let ts ← tokenize s
      let us ← scan (s ++ w).utf8ByteSize t.toList
      return ts ++ us) := by
  obtain ⟨blank, blanks, hhead⟩ := List.exists_cons_of_ne_nil hw.1
  have hrest : ∀ c ∈ (w.toList ++ t.toList).head?, Closes c ∨ isBlank c = true := by
    intro c hc
    obtain rfl : blank = c := by simpa [hhead] using hc
    exact .inr (hw.2 blank (by simp [hhead]))
  have hlength : (s ++ w).utf8ByteSize = 0 + utf8Length s.toList + utf8Length w.toList := by
    rw [String.utf8ByteSize_append, Nat.zero_add, utf8Length_toList, utf8Length_toList]
  rw [tokenize, String.toList_append, String.toList_append, List.append_assoc, scan_append hrest,
    scan_blanks hw.2, hlength]
  rfl

/-- **White space between two sources.**  With white space between them, two sources have
the lexemes of the one and then those of the other, further to the right by the bytes in
front of it.  An error in the first source stays where it is, and else an error in the
second one is moved like the lexemes. -/
theorem tokenize_append_blanks {s w t : String} (hw : IsBlanks w.toList) :
    (∀ e, tokenize s = .error e → tokenize (s ++ w ++ t) = .error e) ∧
    (∀ ts us, tokenize s = .ok ts → tokenize t = .ok us →
      tokenize (s ++ w ++ t) = .ok (ts ++ us.map (PlacedLexeme.mapPosition fun position =>
        (s ++ w).utf8ByteSize + position))) ∧
    ∀ ts e, tokenize s = .ok ts → tokenize t = .error e →
      tokenize (s ++ w ++ t) = .error (e.mapPosition fun position =>
        (s ++ w).utf8ByteSize + position) := by
  have hshift := scan_shift (s ++ w).utf8ByteSize 0 t.toList
  rw [Nat.add_zero, ← tokenize] at hshift
  refine ⟨fun e he => ?_, fun ts us hts hus => ?_, fun ts e hts he => ?_⟩
  · rw [tokenize_append hw, he]
    rfl
  · rw [tokenize_append hw, hshift, hts, hus]
    rfl
  · rw [tokenize_append hw, hshift, hts, he]
    rfl

/-- An exponent does not go on across white space, and white space goes on with white
space. -/
theorem tokenize_append_blanks_exponent :
    tokenize ("é" ++ "\t" ++ "2") = .error (.unexpectedToken "é" 0) ∧
    tokenize ("1e " ++ "\x0c\n" ++ " +5") = .ok [⟨.integer 1, 0⟩, ⟨.identifier "e", 1⟩, ⟨.plus, 6⟩,
      ⟨.integer 5, 7⟩] ∧
    tokenize ("1e" ++ " " ++ "5é") = .error (.unexpectedToken "é" 4) := by
  have hone : tokenize "1e " = .ok [⟨.integer 1, 0⟩, ⟨.identifier "e", 1⟩] := by decide +kernel
  have hone' : tokenize "1e" = .ok [⟨.integer 1, 0⟩, ⟨.identifier "e", 1⟩] := by decide +kernel
  have hfive : tokenize " +5" = .ok [⟨.plus, 1⟩, ⟨.integer 5, 2⟩] := by decide +kernel
  have hfirst : tokenize "é" = .error (.unexpectedToken "é" 0) := by decide +kernel
  have hsecond : tokenize "5é" = .error (.unexpectedToken "é" 1) := by decide +kernel
  exact ⟨(tokenize_append_blanks ⟨by decide, by simp [isBlank]⟩).1 _ hfirst,
    (tokenize_append_blanks ⟨by decide, by simp [isBlank]⟩).2.1 _ _ hone hfive,
    (tokenize_append_blanks ⟨by decide, by simp [isBlank]⟩).2.2 _ _ hone' hsecond⟩

end Reckoner
