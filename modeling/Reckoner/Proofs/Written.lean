import Reckoner.Proofs.Reading.Sound
import Reckoner.Proofs.Words.Seams

/-!
# Texts that are phrases

A text that stands for a phrase of the grammar, with each node of the tree at the offset
of its token.  Such texts are put together as the phrases are: a minus sign in front, an
operator between, brackets around, a name and commas.  What the seams ask for is that no
word goes on across them.

* `Written` — a text and the phrase that it stands for;
* `Written.integer`, `Written.real` — numerals;
* `Written.negate`, `Written.group`, `Written.operate`, `Written.call` — texts put together;
* `Written.read` — such a text is read as its tree.
-/

namespace Reckoner

/-- In front of whatever begins as `stop` says, the text that starts at the offset is the
phrase, with this tree and this nesting. -/
def Written (stop : Char → Prop) (phrase : Phrase) (offset : Nat) (text : List Char) (e : Expr)
    (n : Nat) : Prop :=
  ∃ ts, ScansBefore stop offset text ts ∧ Derives phrase ts e n

/-- In front of whatever begins as `stop` says, the text that starts at the offset is
arguments, put together by `join`, with these trees and this deepest nesting. -/
def WrittenArguments (join : List Argument → List PlacedLexeme) (stop : Char → Prop)
    (offset : Nat) (text : List Char) (trees : List Expr) (n : Nat) : Prop :=
  ∃ arguments, ScansBefore stop offset text (join arguments) ∧
    arguments.map Argument.tree = trees ∧
    (∀ a ∈ arguments, Derives .expression a.lexemes a.tree a.nesting) ∧
    Argument.deepest arguments = n

variable {stop stop' : Char → Prop} {phrase phrase' : Phrase} {offset m n : Nat}
  {text text' : List Char} {e e' : Expr} {trees : List Expr}

/-- The symbol of an operator is one character, a mark. -/
theorem Operator.exists_symbol (op : Operator) :
    ∃ c, op.symbol.toList = [c] ∧ mark? c = some op.lexeme := by
  cases op with
  | add => exact ⟨'+', rfl, rfl⟩
  | sub => exact ⟨'-', rfl, rfl⟩
  | mul => exact ⟨'*', rfl, rfl⟩
  | div => exact ⟨'/', rfl, rfl⟩

/-- The symbol of an operator consists of marks. -/
theorem Operator.isMark_of_mem_symbol (op : Operator) : ∀ c ∈ op.symbol.toList, IsMark c := by
  obtain ⟨c, hop, hmark⟩ := op.exists_symbol
  simp [hop, IsMark, hmark]

namespace Written

/-- Digits are the integer whose value they have. -/
theorem integer {digits : List Char} {value : Int64} (h : IsDigits digits)
    (hvalue : (digitsValue digits : Int) = value.toInt) (offset : Nat) :
    Written Delimits .primary offset digits (.literal (.integer value) offset) 0 := by
  have hfits : Number.Fits (digitsValue digits) := by
    rw [hvalue]
    exact Number.fits_toInt value
  have hread : Int64.ofNat (digitsValue digits) = value := by
    rw [← Int64.ofInt_eq_ofNat, hvalue, Int64.ofInt_toInt]
  have hscan := scansBefore_integer h hfits offset
  rw [hread] at hscan
  exact ⟨_, hscan, .integer value offset⟩

/-- A real numeral is the real that it is read as. -/
theorem real {spelling : List Char} (h : IsReal spelling) (offset : Nat) :
    Written Delimits .primary offset spelling (.literal (.real (readReal spelling)) offset) 0 :=
  ⟨_, scansBefore_real h offset, .real _ offset⟩

/-- What stands in front of more stands in front of less. -/
theorem mono (h : Written stop phrase offset text e n) (hstop : ∀ c, stop' c → stop c) :
    Written stop' phrase offset text e n := by
  obtain ⟨ts, hscan, hderives⟩ := h
  exact ⟨ts, hscan.mono hstop, hderives⟩

/-- A phrase stands for those of the levels above. -/
theorem widen (h : Written stop phrase offset text e n) (hlevel : phrase.level ≤ phrase'.level) :
    Written stop phrase' offset text e n := by
  obtain ⟨ts, hscan, hderives⟩ := h
  exact ⟨ts, hscan, hderives.widen hlevel⟩

/-- A minus sign goes in front of an operand. -/
theorem negate (h : Written stop .unary (offset + 1) text e n) :
    Written stop .unary offset ('-' :: text) (.negate e offset) (n + 1) := by
  obtain ⟨ts, hscan, hderives⟩ := h
  exact ⟨_, .mark_cons rfl hscan, .negate hderives⟩

/-- Brackets go around an expression that a bracket ends. -/
theorem group (hclose : stop ')') (h : Written stop .expression (offset + 1) text e n) :
    Written stop' .primary offset ('(' :: (text ++ [')'])) e (n + 1) := by
  obtain ⟨ts, hscan, hderives⟩ := h
  have hclosing : ScansBefore stop' (offset + 1 + utf8Length text) [')']
      [⟨.rightParen, offset + 1 + utf8Length text⟩] := .mark_cons rfl (.nil _ _)
  exact ⟨_, .mark_cons rfl (hscan.append hclosing (by simpa using hclose) (by simp)),
    .group hderives⟩

/-- An operator goes between two operands, if the first may have its symbol after it. -/
theorem operate {op : Operator} (hsymbol : ∀ c ∈ op.symbol.toList, stop c)
    (h : Written stop op.chain offset text e m)
    (h' : Written stop' op.operand (offset + utf8Length text + 1) text' e' n) :
    Written stop' op.chain offset (text ++ op.symbol.toList ++ text')
      (.binary e op e' (offset + utf8Length text)) (max m n) := by
  obtain ⟨ls, hleft, hls⟩ := h
  obtain ⟨rs, hright, hrs⟩ := h'
  obtain ⟨c, hop, hmark⟩ := op.exists_symbol
  have hc : stop c := hsymbol c (by simp [hop])
  rw [hop, List.append_assoc]
  exact ⟨_, hleft.append (.mark_cons hmark hright) (by simpa using hc) (by simp),
    .operate _ hls hrs⟩

/-- A name and brackets go around arguments that a bracket ends. -/
theorem call {name : String} (hname : IsName name.toList) (hclose : stop ')')
    (h : WrittenArguments Argument.joined stop (offset + utf8Length name.toList + 1) text trees n) :
    Written stop' .primary offset (name.toList ++ '(' :: (text ++ [')'])) (.call name trees offset)
      (n + 1) := by
  obtain ⟨arguments, hscan, rfl, hderives, rfl⟩ := h
  have hclosing : ScansBefore stop' (offset + utf8Length name.toList + 1 + utf8Length text) [')']
      [⟨.rightParen, offset + utf8Length name.toList + 1 + utf8Length text⟩] :=
    .mark_cons rfl (.nil _ _)
  have hinside := hscan.append hclosing (by simpa using hclose) (by simp)
  have hbracket : ∀ c ∈ ('(' :: (text ++ [')'])).head?, Delimits c := by
    simp [Delimits, IsMark, mark?]
  exact ⟨_, (scansBefore_name hname offset).append (.mark_cons rfl hinside) hbracket (by simp),
    .call hderives⟩

/-- A text that is an expression and does not nest too deep is read as its tree. -/
theorem read (h : Written stop .expression 0 text e n) (hn : n ≤ maxNesting) :
    ∃ ts, tokenize (String.ofList text) = .ok ts ∧ parse ts = .ok e := by
  obtain ⟨ts, hscan, hderives⟩ := h
  refine ⟨ts, ?_, parse_eq_ok_iff.2 ⟨n, hderives, hn⟩⟩
  rw [tokenize, String.toList_ofList]
  exact hscan.scan_eq

end Written

namespace WrittenArguments

/-- No arguments are no text. -/
theorem nil {join : List Argument → List PlacedLexeme} (hjoin : join [] = []) (stop : Char → Prop)
    (offset : Nat) : WrittenArguments join stop offset [] [] 0 :=
  ⟨[], hjoin ▸ .nil stop offset, rfl, by simp, rfl⟩

/-- An argument goes in front of arguments that each have a comma. -/
theorem cons (hcomma : stop ',') (hhead : ∀ c ∈ text'.head?, c = ',')
    (h : Written stop .expression offset text e m)
    (h' : WrittenArguments Argument.following stop (offset + utf8Length text) text' trees n) :
    WrittenArguments Argument.joined stop offset (text ++ text') (e :: trees) (max m n) := by
  obtain ⟨ts, hscan, hderives⟩ := h
  obtain ⟨arguments, hscan', rfl, hderives', rfl⟩ := h'
  have hseam : ∀ c ∈ text'.head?, stop c := fun c hc => hhead c hc ▸ hcomma
  refine ⟨⟨ts, e, m, 0⟩ :: arguments, hscan.append hscan' hseam fun _ _ hc => hc, rfl, ?_, rfl⟩
  intro a ha
  rcases List.mem_cons.1 ha with rfl | ha
  · exact hderives
  · exact hderives' a ha

/-- A comma goes in front of arguments, if there are any. -/
theorem comma_cons
    (h : WrittenArguments Argument.joined stop (offset + 1) text (e :: trees) n) :
    WrittenArguments Argument.following stop offset (',' :: text) (e :: trees) n := by
  obtain ⟨arguments, hscan, htrees, hderives, rfl⟩ := h
  obtain ⟨a, others, rfl, rfl, rfl⟩ := List.map_eq_cons_iff.1 htrees
  refine ⟨{ a with comma := offset } :: others, .mark_cons rfl hscan, rfl, ?_, rfl⟩
  intro b hb
  rcases List.mem_cons.1 hb with rfl | hb
  · exact hderives a (by simp)
  · exact hderives b (by simp [hb])

end WrittenArguments

end Reckoner
