import Reckoner.Error.Justified
import Reckoner.Proofs.Words.Tokens

/-!
# Errors of the scan

A scan fails at a character where no word stands, or at a whole number that is too large.
Such a number is all of the digits that stand there: a word that ends in a digit goes on
with every digit, so neither the word before it nor the number itself stops among digits.

* `CharAt.isValid` — where a character starts is a boundary inside the source;
* `exists_charAt_of_tokenize` — every lexeme starts at a character;
* `Longest.not_isDigit_of_head?`, `Sliced.not_isDigit_of_getLast?` — no word ends between
  two digits;
* `justifiedByText_of_tokenize` — every error of the scan is justified by the characters.
-/

namespace Reckoner

/-- Where a character starts there is a character boundary before the end. -/
theorem CharAt.isValid {source : String} {position : Nat} {c : Char}
    (h : CharAt source position c) :
    position < source.utf8ByteSize ∧ String.Pos.Raw.IsValid source ⟨position⟩ := by
  obtain ⟨before, after, hsource, rfl⟩ := h
  constructor
  · have hpos := c.utf8Size_pos
    rw [← utf8Length_toList, hsource, utf8Length_append, utf8Length_cons]
    omega
  · refine String.Pos.Raw.isValid_iff_exists_append.2
      ⟨String.ofList before, String.ofList (c :: after), ?_, ?_⟩
    · rw [← String.ofList_append, ← hsource, String.ofList_toList]
    · rw [utf8Length_eq_ofList]
      rfl

/-- Where digits stand a character starts. -/
theorem DigitRun.exists_charAt {source : String} {position : Nat} {digits : List Char}
    (h : DigitRun source position digits) : ∃ c, CharAt source position c := by
  obtain ⟨before, after, hsource, rfl, hdigits, -, -⟩ := h
  obtain ⟨d, ds, rfl⟩ := List.exists_cons_of_ne_nil hdigits.1
  exact ⟨d, before, ds ++ after, hsource, rfl⟩

/-- Where a word stands a character starts. -/
theorem WordAt.exists_charAt {source : String} {t : PlacedLexeme} (h : WordAt source t) :
    ∃ c, CharAt source t.position c := by
  obtain ⟨before, after, w, hsource, hposition, ⟨hafter, hmatches, -⟩, -⟩ := h
  obtain ⟨c, cs, hspelling⟩ := List.exists_cons_of_ne_nil hmatches.ne_nil
  refine ⟨c, before, cs ++ w.rest, ?_, hposition⟩
  rw [hsource, ← hafter, hspelling, List.cons_append]

/-- Every lexeme of a source starts at a character. -/
theorem exists_charAt_of_tokenize {source : String} {ts : List PlacedLexeme}
    (h : tokenize source = .ok ts) {t : PlacedLexeme} (ht : t ∈ ts) :
    ∃ c, CharAt source t.position c :=
  (wordAt_of_tokenize h ht).exists_charAt

/-- A word that ends in a digit goes on with every digit. -/
theorem Kind.Matches.concat {kind : Kind} {s : List Char} {c d : Char} (h : kind.Matches s)
    (hd : d ∈ s.getLast?) (hdigit : d.isDigit = true) (hc : c.isDigit = true) :
    kind.Matches (s ++ [c]) := by
  have hdigits : ∀ e ∈ [c], e.isDigit = true := by simpa using hc
  cases kind with
  | real => exact IsReal.append h hdigits
  | integer => exact IsDigits.append h hdigits
  | name =>
      obtain ⟨first, others, hfirst, hothers, rfl⟩ := h
      refine ⟨first, others ++ [c], hfirst, fun e he => ?_, rfl⟩
      rcases List.mem_append.1 he with he | he
      · exact hothers e he
      · rw [List.mem_singleton.1 he, isNameRest, Char.isAlphanum, hc]
        simp
  | mark lexeme =>
      obtain ⟨first, hmark, rfl⟩ := h
      obtain rfl : first = d := by simpa using hd
      rw [(not_begins_of_mark? hmark).2.2.1] at hdigit
      cases hdigit
  | blank =>
      have hblank := h.2 d (List.mem_of_getLast? hd)
      rw [(not_begins_of_isBlank hblank).2.2.1] at hdigit
      cases hdigit

/-- The longest word does not stop between two digits. -/
theorem Longest.not_isDigit_of_head? {cs : List Char} {w : Cut} (h : Longest cs w) {c d : Char}
    (hd : d ∈ w.spelling.getLast?) (hdigit : d.isDigit = true) (hc : c ∈ w.rest.head?) :
    c.isDigit = false := by
  obtain ⟨happend, hmatches, hlongest⟩ := h
  obtain ⟨rest, hrest⟩ := List.head?_eq_some_iff.1 hc
  cases hcdigit : c.isDigit with
  | false => rfl
  | true =>
      have hfront : w.spelling ++ [c] <+: cs := ⟨rest, by rw [← happend, hrest, ← List.append_cons]⟩
      have hle := hlongest _ _ (hmatches.concat hd hdigit hcdigit) hfront
      rw [List.length_append, List.length_singleton] at hle
      omega

/-- A cut does not stop between two digits. -/
theorem Sliced.not_isDigit_of_getLast? {offset : Nat} {cs rest : List Char} {slices : List Slice}
    (h : Sliced offset cs slices rest) {c d : Char} (hc : c ∈ rest.head?)
    (hcdigit : c.isDigit = true) (hd : d ∈ (slices.flatMap Slice.spelling).getLast?) :
    d.isDigit = false := by
  induction h with
  | stop offset cs => cases hd
  | @cut offset cs rest w slices hlongest hfits hrest ih =>
      rw [List.flatMap_cons, List.getLast?_append] at hd
      cases hlast : (slices.flatMap Slice.spelling).getLast? with
      | some e =>
          rw [hlast] at hd
          exact ih hc (hlast.trans hd)
      | none =>
          -- The word is the last one, and the rest comes right after it.
          rw [hlast] at hd
          have hnil := List.getLast?_eq_none_iff.1 hlast
          have hword : w.rest = rest := by simpa [hnil] using hrest.flatMap_spelling
          cases hdigit : d.isDigit with
          | false => rfl
          | true =>
              have hstop := hlongest.not_isDigit_of_head? hd hdigit (hword ▸ hc)
              rw [hcdigit] at hstop
              cases hstop

/-- A whole number where a cut stops is all the digits that stand there. -/
theorem Sliced.digitRun {source : String} {slices : List Slice} {rest : List Char}
    (h : Sliced 0 source.toList slices rest) {w : Cut} (hw : Longest rest w)
    (hkind : w.kind = .integer) :
    DigitRun source (utf8Length (slices.flatMap Slice.spelling)) w.spelling := by
  have hdigits : Kind.integer.Matches w.spelling := hkind ▸ hw.2.1
  obtain ⟨first, others, hfirst⟩ := List.exists_cons_of_ne_nil hdigits.1
  refine ⟨_, w.rest, ?_, rfl, hdigits, fun d hd => ?_, fun c hc => ?_⟩
  · rw [hw.1]
    exact h.flatMap_spelling
  · refine h.not_isDigit_of_getLast? ?_ (hdigits.2 first (by simp [hfirst])) hd
    simp [← hw.1, hfirst]
  · have hlast := List.getLast?_eq_some_getLast hdigits.1
    exact hw.not_isDigit_of_head? hlast (hdigits.2 _ (List.getLast_mem hdigits.1)) hc

/-- **Errors by characters.**  Whatever source cannot be scanned, the error is justified by
its characters. -/
theorem justifiedByText_of_tokenize {source : String} {e : ParseError}
    (h : tokenize source = .error e) : e.JustifiedByText source := by
  obtain ⟨slices, rest, hsliced, hbreaks⟩ := scan_eq_error_iff.1 h
  rw [Nat.zero_add] at hbreaks
  cases hbreaks with
  | @tooLarge rest w hlongest hkind hlarge =>
      refine ⟨w.spelling, hsliced.digitRun hlongest hkind, ?_⟩
      have hmax : Int64.maxValue.toInt = 9223372036854775807 := by decide
      unfold Number.Fits at hlarge
      omega
  | @noWord c cs hnone => exact ⟨c, ⟨_, cs, hsliced.flatMap_spelling, rfl⟩, rfl⟩

end Reckoner
