import Reckoner.Expr.Printer
import Reckoner.Proofs.Written

/-!
# Reading undoes printing

The printed text of a tree is a phrase of the grammar, and the brackets that are left
out are those that the grammar does not ask for.  No word of the text goes on into the
next, since between two of them stands a mark.  So the text is read as the tree, with
each node where its token is printed.

* `Expr.phrase` — the phrase that a printed tree is;
* `Expr.Printable.written` — a printed tree is that phrase;
* `read_print` — a printed tree is read back;
* `Expr.mapPositions_relocate` — the tree that is read differs in its positions only.
-/

namespace Reckoner

/-- Brackets go around a phrase of any kind, or around none that can do without. -/
theorem Written.bracketed {stop : Char → Prop} {phrase phrase' : Phrase} {offset n : Nat}
    {text : List Char} {e : Expr} {needed : Bool} (hclose : stop ')')
    (h : Written stop phrase (offset + bracketCount needed) text e n)
    (hlevel : needed = false → phrase.level ≤ phrase'.level) :
    Written stop phrase' offset (bracketed needed text) e (bracketCount needed + n) := by
  cases needed with
  | false =>
      rw [bracketCount, if_neg Bool.false_ne_true, Nat.add_zero] at h
      simpa [Reckoner.bracketed, bracketCount] using h.widen (hlevel rfl)
  | true =>
      have hinside : Written stop .expression (offset + 1) text e n :=
        Written.widen h (by cases phrase <;> decide)
      have hgroup : Written stop .primary offset ('(' :: (text ++ [')'])) e (n + 1) :=
        hinside.group hclose
      simpa [Reckoner.bracketed, bracketCount, Nat.add_comm] using
        hgroup.widen (Nat.zero_le phrase'.level)

namespace Expr

/-- The phrase that a printed tree is. -/
def phrase : Expr → Phrase
  | literal _ _ | call _ _ _ => .primary
  | negate _ _ => .unary
  | binary _ op _ _ => op.chain

variable {spell : Spelling} {e left right : Expr} {op : Operator}

/-- What is no chain can stand under a minus sign. -/
theorem level_phrase_of_not_isBinary (h : e.isBinary = false) :
    e.phrase.level ≤ Phrase.unary.level := by
  cases e with
  | binary left op right position => cases h
  | _ => simp [phrase, Phrase.level]

/-- A left operand without brackets is a chain of its operator's kind. -/
theorem level_phrase_of_not_leftNeeds (h : leftNeeds op left = false) :
    left.phrase.level ≤ op.chain.level := by
  cases left with
  | binary left op' right position =>
      have hkind : op.isMultiplicative = true → op'.isMultiplicative = true := by
        simpa [leftNeeds, isSum] using h
      cases op <;> cases op' <;> simp_all [phrase, Operator.chain, Operator.isMultiplicative,
        Phrase.level]
  | _ => cases op <;> simp [phrase, Operator.chain, Operator.isMultiplicative, Phrase.level]

/-- A right operand without brackets is an operand of its operator. -/
theorem level_phrase_of_not_rightNeeds (h : rightNeeds op right = false) :
    right.phrase.level ≤ op.operand.level := by
  cases right with
  | binary left op' right position =>
      have hkind : op.isMultiplicative = false ∧ op'.isMultiplicative = true := by
        simpa [rightNeeds, isBinary, isSum] using h
      simp [phrase, Operator.chain, Operator.operand, hkind]
  | _ => cases op <;> simp [phrase, Operator.operand, Operator.isMultiplicative, Phrase.level]

/-- A whole number is written in digits that have its value. -/
theorem written_integer {value : Int64} (h : 0 ≤ value.toInt) (offset : Nat) :
    Written IsMark .primary offset (Nat.toDigits 10 value.toInt.natAbs)
      (literal (.integer value) offset) 0 := by
  have hvalue : (digitsValue (Nat.toDigits 10 value.toInt.natAbs) : Int) = value.toInt := by
    rw [digitsValue_toDigits, Int.natAbs_of_nonneg h]
  exact (Written.integer (isDigits_toDigits _) hvalue offset).mono fun _ => IsMark.delimits

/-- A real is written as it is spelt. -/
theorem written_real {value : Float} {offset : Nat} (hspelling : IsReal (spell offset value))
    (hread : readReal (spell offset value) = value) :
    Written IsMark .primary offset (spell offset value) (literal (.real value) offset) 0 := by
  have hwritten := (Written.real hspelling offset).mono fun _ => IsMark.delimits
  rwa [hread] at hwritten

/-- What follows the first argument begins with a comma. -/
theorem head?_printFollowing (offset : Nat) (arguments : List Expr) :
    ∀ c ∈ (printFollowing spell offset arguments).head?, c = ',' := by
  cases arguments with
  | nil => simp [printFollowing]
  | cons a others => simp [printFollowing, eq_comm]

/-- Arguments that are each written as expressions are written with commas before them. -/
theorem written_printFollowing {arguments : List Expr}
    (h : ∀ a ∈ arguments, ∀ offset, Written IsMark .expression offset (a.print spell offset)
      (a.relocate spell offset) a.printNesting) (offset : Nat) :
    WrittenArguments Argument.following IsMark offset (printFollowing spell offset arguments)
      (relocateAll spell (offset + 1) arguments) ((arguments.map printNesting).foldr max 0) := by
  induction arguments generalizing offset with
  | nil => simpa [printFollowing, relocateAll] using WrittenArguments.nil rfl IsMark offset
  | cons a others ih =>
      have hothers := ih (fun b hb => h b (List.mem_cons_of_mem a hb))
        (offset + 1 + utf8Length (a.print spell (offset + 1)))
      have hjoined := WrittenArguments.cons (by simp [IsMark, mark?]) (head?_printFollowing _ others)
        (h a List.mem_cons_self (offset + 1)) hothers
      simpa [printFollowing, relocateAll] using hjoined.comma_cons

/-- Arguments that are each written as expressions are written with commas between them. -/
theorem written_printAll {arguments : List Expr}
    (h : ∀ a ∈ arguments, ∀ offset, Written IsMark .expression offset (a.print spell offset)
      (a.relocate spell offset) a.printNesting) (offset : Nat) :
    WrittenArguments Argument.joined IsMark offset (printAll spell offset arguments)
      (relocateAll spell offset arguments) ((arguments.map printNesting).foldr max 0) := by
  cases arguments with
  | nil => simpa [printAll, relocateAll] using WrittenArguments.nil rfl IsMark offset
  | cons a others =>
      have hothers := written_printFollowing (fun b hb => h b (List.mem_cons_of_mem a hb))
        (offset + utf8Length (a.print spell offset))
      have hjoined := WrittenArguments.cons (by simp [IsMark, mark?]) (head?_printFollowing _ others)
        (h a List.mem_cons_self offset) hothers
      simpa [printAll, relocateAll] using hjoined

/-- **Printed trees are phrases.**  The text of a tree is the phrase that the tree asks
for, and it means the tree with each node where its token is printed. -/
theorem Printable.written (h : e.Printable spell) (offset : Nat) :
    Written IsMark e.phrase offset (e.print spell offset) (e.relocate spell offset)
      e.printNesting := by
  have hclose : IsMark ')' := rfl
  induction h generalizing offset with
  | integer hn => simpa [phrase, print, relocate, printNesting] using written_integer hn offset
  | real hspelling hread =>
      simpa [phrase, print, relocate, printNesting] using
        written_real (hspelling offset) (hread offset)
  | @negate operand position hoperand ih =>
      have hinside := (ih (offset + 1 + bracketCount operand.isBinary)).bracketed hclose
        level_phrase_of_not_isBinary
      simpa [phrase, print, relocate, printNesting] using hinside.negate
  | @binary left right op position hleft hright ihleft ihright =>
      have hbefore := (ihleft (offset + bracketCount (leftNeeds op left))).bracketed hclose
        level_phrase_of_not_leftNeeds
      have hafter := (ihright (offset + utf8Length (bracketed (leftNeeds op left)
        (left.print spell (offset + bracketCount (leftNeeds op left)))) + 1
          + bracketCount (rightNeeds op right))).bracketed hclose level_phrase_of_not_rightNeeds
      simpa [phrase, print, relocate, printNesting] using
        hbefore.operate op.isMark_of_mem_symbol hafter
  | @call name arguments position hname harguments ih =>
      have hall := written_printAll (fun a ha offset => (ih a ha offset).widen
        (by cases a.phrase <;> decide)) (offset + utf8Length name.toList + 1)
      simpa [phrase, print, relocate, printNesting] using Written.call hname hclose hall

/-- Relocating changes nothing but positions. -/
theorem mapPositions_relocate (e : Expr) (offset : Nat) :
    (e.relocate spell offset).mapPositions (fun _ => 0) = e.mapPositions (fun _ => 0) := by
  induction e generalizing offset with
  | literal value position => simp [relocate, mapPositions]
  | negate operand position ih => simp [relocate, mapPositions, ih]
  | binary left op right position ihleft ihright => simp [relocate, mapPositions, ihleft, ihright]
  | call name arguments position ih =>
      have hall : ∀ offset, (relocateAll spell offset arguments).map (mapPositions fun _ => 0)
          = arguments.map (mapPositions fun _ => 0) := by
        clear position
        induction arguments with
        | nil => simp [relocateAll]
        | cons a others ihothers =>
            intro offset
            simp [relocateAll, ih a List.mem_cons_self,
              ihothers fun b hb => ih b (List.mem_cons_of_mem a hb)]
      simp [relocate, mapPositions, hall]

end Expr

/-- **Reading undoes printing.**  The text of a tree that nests no deeper than the limit
is scanned and read, as the tree itself, with each node where its token is printed. -/
theorem read_print {spell : Spelling} {e : Expr} (h : e.Printable spell)
    (hn : e.printNesting ≤ maxNesting) :
    (∃ ts, tokenize (String.ofList (e.print spell 0)) = .ok ts ∧
      parse ts = .ok (e.relocate spell 0)) ∧
    (e.relocate spell 0).mapPositions (fun _ => 0) = e.mapPositions (fun _ => 0) := by
  have hwritten : Written IsMark .expression 0 (e.print spell 0) (e.relocate spell 0)
      e.printNesting := (h.written 0).widen (by cases e.phrase <;> decide)
  exact ⟨hwritten.read hn, e.mapPositions_relocate 0⟩

/-- Neither two minus signs in a row nor a sign and a point are taken for one word. -/
theorem read_print_signs :
    ∃ ts, tokenize "2--F(1+.5)*3" = .ok ts ∧
      parse ts = .ok (.binary (.literal (.integer 2) 0) .sub
        (.binary
          (.negate (.call "F" [.binary (.literal (.integer 1) 5) .add
            (.literal (.real (readReal ['.', '5'])) 7) 6] 3) 2)
          .mul (.literal (.integer 3) 11) 10) 1) := by
  have hreal : IsReal ['.', '5'] :=
    .inl ⟨[], ['.', '5'], [], .inr rfl, ⟨['5'], by simp [IsDigits], rfl⟩, .inr rfl, rfl⟩
  have hname : IsName "F".toList := ⟨'F', [], rfl, by simp, rfl⟩
  have hargument : Expr.Printable (fun _ _ => ['.', '5'])
      (.binary (.literal (.integer 1) 0) .add (.literal (.real (readReal ['.', '5'])) 0) 0) :=
    .binary (.integer (by decide)) (.real (fun _ => hreal) fun _ => rfl)
  have hprintable : Expr.Printable (fun _ _ => ['.', '5'])
      (.binary (.literal (.integer 2) 0) .sub
        (.binary
          (.negate (.call "F" [.binary (.literal (.integer 1) 0) .add
            (.literal (.real (readReal ['.', '5'])) 0) 0] 0) 0)
          .mul (.literal (.integer 3) 0) 0) 0) :=
    .binary (.integer (by decide)) (.binary (.negate (.call hname (by simpa using hargument)))
      (.integer (by decide)))
  exact (read_print hprintable (by simp [Expr.printNesting, bracketCount, Expr.leftNeeds,
    Expr.rightNeeds, Expr.isBinary, Expr.isSum, Operator.isMultiplicative, maxNesting])).1

end Reckoner
