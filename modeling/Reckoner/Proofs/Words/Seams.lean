import Reckoner.Proofs.Words.Joining

/-!
# Texts one after the other

A text in front of another keeps its lexemes, as long as the other begins with a
character that no word of the first could go on with.  Marks and white space end every
numeral that is complete and every name.

* `ScansBefore` — the lexemes of a text, whatever follows it;
* `ScansBefore.append`, `ScansBefore.mark_cons` — texts and marks put together;
* `scansBefore_name`, `scansBefore_integer`, `scansBefore_real` — single words;
* `scansBefore_of_tokenize` — a whole text, wherever it starts, in front of a bracket or
  a comma.
-/

namespace Reckoner

/-- Whether the character is a word by itself. -/
def IsMark (c : Char) : Prop :=
  (mark? c).isSome = true

/-- In front of whatever begins as `stop` says, the text has these lexemes, and what
follows is scanned from where it begins. -/
def ScansBefore (stop : Char → Prop) (offset : Nat) (text : List Char)
    (ts : List PlacedLexeme) : Prop :=
  ∀ rest, (∀ c ∈ rest.head?, stop c) →
    scan offset (text ++ rest) = (scan (offset + utf8Length text) rest).map (ts ++ ·)

/-- A mark is one byte long. -/
theorem utf8Size_of_mark? {c : Char} {lexeme : Lexeme} (h : mark? c = some lexeme) :
    c.utf8Size = 1 := by
  unfold mark? at h
  split at h
  case h_8 => cases h
  all_goals decide

/-- Whether the character ends names and numerals: a mark or a blank. -/
def Delimits (c : Char) : Prop :=
  IsMark c ∨ isBlank c = true

/-- A mark ends names and numerals. -/
theorem IsMark.delimits {c : Char} (h : IsMark c) : Delimits c :=
  .inl h

/-- No name and no complete numeral goes on with a mark or a blank. -/
theorem Delimits.ends_word {c : Char} (h : Delimits c) :
    isNameRest c = false ∧ c.isDigit = false ∧ c ≠ '.' ∧ c ≠ 'e' ∧ c ≠ 'E' := by
  rcases h with h | h
  · obtain ⟨lexeme, h⟩ := Option.isSome_iff_exists.1 h
    unfold mark? at h
    split at h
    case h_8 => cases h
    all_goals decide
  · obtain ⟨hname, hnumeral⟩ := not_within_of_isBlank h
    simp only [InNumeral, List.mem_cons, not_or, Bool.not_eq_true] at hnumeral
    exact ⟨hname, hnumeral.1, hnumeral.2.1, hnumeral.2.2.1, hnumeral.2.2.2.1⟩

namespace ScansBefore

variable {stop stop' : Char → Prop} {offset : Nat} {text text' : List Char}
  {ts us : List PlacedLexeme}

/-- No text has no lexemes. -/
theorem nil (stop : Char → Prop) (offset : Nat) : ScansBefore stop offset [] [] := by
  intro rest _
  simp only [List.nil_append, utf8Length_nil, Nat.add_zero]
  cases scan offset rest <;> rfl

/-- A text that is whole has just its own lexemes. -/
theorem scan_eq (h : ScansBefore stop offset text ts) : scan offset text = .ok ts := by
  have hscan := h [] (by simp)
  rw [scan_nil, List.append_nil] at hscan
  rw [hscan]
  simp [Except.map]

/-- What holds in front of more holds in front of less. -/
theorem mono (h : ScansBefore stop offset text ts) (hstop : ∀ c, stop' c → stop c) :
    ScansBefore stop' offset text ts :=
  fun rest hrest => h rest fun c hc => hstop c (hrest c hc)

/-- Two texts have the lexemes of the one and then those of the other, if the other
begins as the first asks for. -/
theorem append (h : ScansBefore stop offset text ts)
    (h' : ScansBefore stop' (offset + utf8Length text) text' us)
    (hhead : ∀ c ∈ text'.head?, stop c) (hstop : text' = [] → ∀ c, stop' c → stop c) :
    ScansBefore stop' offset (text ++ text') (ts ++ us) := by
  intro rest hrest
  have hseam : ∀ c ∈ (text' ++ rest).head?, stop c := by
    cases text' with
    | nil => exact fun c hc => hstop rfl c (hrest c hc)
    | cons d ds => exact hhead
  rw [List.append_assoc, h _ hseam, h' _ hrest, utf8Length_append, Nat.add_assoc]
  cases scan (offset + (utf8Length text + utf8Length text')) rest with
  | error e => rfl
  | ok following => simp [Except.map]

/-- A mark in front of a text adds its lexeme. -/
theorem mark_cons {c : Char} {lexeme : Lexeme} (hmark : mark? c = some lexeme)
    (h : ScansBefore stop (offset + 1) text ts) :
    ScansBefore stop offset (c :: text) (⟨lexeme, offset⟩ :: ts) := by
  intro rest hrest
  have hsize := utf8Size_of_mark? hmark
  have hne := ne_blank_of_mark? hmark
  rw [List.cons_append, scan_of_cut?_eq_some (cut?_of_mark? hmark _)]
  simp only [utf8Length_cons, utf8Length_nil, hsize, Nat.add_zero, Cut.lexeme]
  rw [h _ hrest, ← Nat.add_assoc]
  cases scan (offset + 1 + utf8Length text) rest with
  | error e => rfl
  | ok following => cases lexeme <;> first | rfl | exact absurd rfl hne

/-- A word that stays the longest whatever follows it is one lexeme. -/
theorem of_longest {kind : Kind} {s : List Char} (hne : kind ≠ .blank)
    (hfits : kind = .integer → Number.Fits (digitsValue s))
    (h : ∀ rest, (∀ c ∈ rest.head?, stop c) → Longest (s ++ rest) ⟨kind, s, rest⟩) :
    ScansBefore stop offset s [⟨(Slice.mk kind s offset).lexeme, offset⟩] := by
  intro rest hrest
  have hsliced : Sliced offset (s ++ rest) [⟨kind, s, offset⟩] rest :=
    .cut (h rest hrest) hfits (.stop _ rest)
  rw [hsliced.scan_eq]
  simp only [List.flatMap_cons, List.flatMap_nil, List.append_nil]
  have hplaced : placed [⟨kind, s, offset⟩] = [⟨(Slice.mk kind s offset).lexeme, offset⟩] := by
    simp [placed, hne]
  rw [hplaced]
  cases scan (offset + utf8Length s) rest <;> rfl

end ScansBefore

/-- A name in front of a mark or a blank is one lexeme. -/
theorem scansBefore_name {name : String} (h : IsName name.toList) (offset : Nat) :
    ScansBefore Delimits offset name.toList [⟨.identifier name, offset⟩] := by
  have hword : ScansBefore Delimits offset name.toList
      [⟨(Slice.mk .name name.toList offset).lexeme, offset⟩] := by
    refine .of_longest (by simp) (by simp) ?_
    intro rest hrest
    apply longest_of_cut?
    obtain ⟨first, others, hfirst, hothers, hname⟩ := h
    have htake : rest.takeWhile isNameRest = [] := by
      cases rest with
      | nil => rfl
      | cons c cs => simp [(hrest c (by simp)).ends_word.1]
    have hdrop : rest.dropWhile isNameRest = rest := by
      cases rest with
      | nil => rfl
      | cons c cs => simp [(hrest c (by simp)).ends_word.1]
    rw [hname, List.cons_append, cut?_of_isNameStart hfirst, List.takeWhile_append_of_pos hothers,
      List.dropWhile_append_of_pos hothers, htake, hdrop, List.append_nil]
  simpa [Slice.lexeme] using hword

/-- No numeral in front of a mark or a blank takes more than what it is. -/
theorem Numeral.length_split_append {s rest : List Char} (h : IsReal s ∨ IsDigits s)
    (hrest : ∀ c ∈ rest.head?, Delimits c) : (split (s ++ rest)).1.spelling.length = s.length := by
  have hdigit : ∀ c ∈ rest.head?, c.isDigit = false := by
    intro c hc
    exact (hrest c hc).ends_word.2.1
  have hpoint : rest.head? ≠ some '.' := fun hc => (hrest _ hc).ends_word.2.2.1 rfl
  have hlower : rest.head? ≠ some 'e' := fun hc => (hrest _ hc).ends_word.2.2.2.1 rfl
  have hupper : rest.head? ≠ some 'E' := fun hc => (hrest _ hc).ends_word.2.2.2.2 rfl
  rcases h with (⟨whole, fraction, exponent, hwhole, hfraction, hexponent, rfl⟩ |
    ⟨whole, exponent, hwhole, hexponent, rfl⟩) | hwhole
  · have hstop : ∀ c ∈ (exponent ++ rest).head?, c.isDigit = false := by
      rcases hexponent with hexponent | rfl
      · exact hexponent.stop rest
      · exact hdigit
    have hsplit : splitFraction (fraction ++ (exponent ++ rest)) = (fraction, exponent ++ rest) :=
      splitFraction_of_stop hfraction hstop
    have hexp : splitExponent (exponent ++ rest) = (exponent, rest) := by
      rcases hexponent with hexponent | rfl
      · exact splitExponent_of_stop hexponent hdigit
      · exact splitExponent_of_ne hlower hupper
    rw [List.append_assoc (whole ++ fraction), length_split_of_fraction hwhole hfraction, hsplit,
      hexp]
    simp only [List.length_append]
  · rw [length_split_of_exponent hwhole hexponent, splitExponent_of_stop hexponent hdigit,
      List.length_append]
  · have hspan : spanDigits (s ++ rest) = (s, rest) := spanDigits_append_of_stop hwhole.2 hdigit
    rw [length_split (by rw [hspan]; exact .inl hwhole.1), hspan, splitFraction_of_ne hpoint,
      splitExponent_of_ne hlower hupper]
    simp only [List.length_nil, Nat.add_zero]

/-- A digit or a point begins numerals only. -/
theorem Kind.Begins.eq_numeral_of_numeral {kind : Kind} {c : Char} (h : kind.Begins c)
    (hc : c.isDigit = true ∨ c = '.') : kind = .real ∨ kind = .integer := by
  have hblank : isBlank c = false := by
    by_contra hblank
    obtain ⟨-, -, hdigit, hpoint⟩ := not_begins_of_isBlank (by simpa using hblank)
    simp [hdigit, hpoint] at hc
  have hname : isNameStart c = false := by
    by_contra hname
    obtain ⟨hdigit, hpoint⟩ := not_begins_of_isNameStart (by simpa using hname)
    simp [hdigit, hpoint] at hc
  have hmark : mark? c = none := by
    apply Option.eq_none_iff_forall_ne_some.2
    intro lexeme hmark
    obtain ⟨-, -, hdigit, hpoint⟩ := not_begins_of_mark? hmark
    simp [hdigit, hpoint] at hc
  exact h.eq_numeral hblank hname hmark

/-- A numeral in front of a mark or a blank is the longest word. -/
theorem longest_numeral {kind : Kind} {s rest : List Char} (hkind : kind = .real ∨ kind = .integer)
    (h : kind.Matches s) (hrest : ∀ c ∈ rest.head?, Delimits c) :
    Longest (s ++ rest) ⟨kind, s, rest⟩ := by
  have hnumeral : IsReal s ∨ IsDigits s := by
    rcases hkind with rfl | rfl
    · exact .inl h
    · exact .inr h
  refine ⟨rfl, h, ?_⟩
  intro other spelling hother hfront
  -- Both begin with the same character, so the other word is a numeral too.
  obtain ⟨c, cs, rfl⟩ := List.exists_cons_of_ne_nil h.ne_nil
  obtain ⟨d, ds, rfl⟩ := List.exists_cons_of_ne_nil hother.ne_nil
  obtain ⟨after, hafter⟩ := hfront
  obtain ⟨rfl, -⟩ := List.cons.inj hafter
  have hbegins : d.isDigit = true ∨ d = '.' := by
    rcases hkind with rfl | rfl
    · exact h.begins
    · exact .inl h.begins
  have hnumeral' : IsReal (d :: ds) ∨ IsDigits (d :: ds) := by
    rcases hother.begins.eq_numeral_of_numeral hbegins with rfl | rfl
    · exact .inl hother
    · exact .inr hother
  have hle := Numeral.length_le_split hnumeral' after
  rwa [hafter, Numeral.length_split_append hnumeral hrest] at hle

/-- Digits in front of a mark or a blank are one lexeme, unless their value is too large. -/
theorem scansBefore_integer {s : List Char} (h : IsDigits s)
    (hfits : Number.Fits (digitsValue s)) (offset : Nat) :
    ScansBefore Delimits offset s [⟨.integer (Int64.ofNat (digitsValue s)), offset⟩] :=
  .of_longest (show Kind.integer ≠ .blank by decide) (fun _ => hfits) fun _ hrest =>
    longest_numeral (.inr rfl) h hrest

/-- A real numeral in front of a mark or a blank is one lexeme. -/
theorem scansBefore_real {s : List Char} (h : IsReal s) (offset : Nat) :
    ScansBefore Delimits offset s [⟨.real (readReal s), offset⟩] :=
  .of_longest (show Kind.real ≠ .blank by decide) (by simp) fun _ hrest =>
    longest_numeral (.inl rfl) h hrest

/-- **Texts are scanned alike everywhere.**  Wherever a text starts, in front of a bracket
or a comma it has the lexemes that it has alone. -/
theorem scansBefore_of_tokenize {source : String} {ts : List PlacedLexeme}
    (h : tokenize source = .ok ts) (offset : Nat) :
    ScansBefore Closes offset source.toList
      (ts.map (PlacedLexeme.mapPosition fun position => offset + position)) := by
  intro rest hrest
  have hshift := scan_shift offset 0 source.toList
  rw [Nat.add_zero, ← tokenize, h] at hshift
  rw [scan_append (fun c hc => .inl (hrest c hc)), hshift]
  cases scan (offset + utf8Length source.toList) rest <;> rfl

end Reckoner
