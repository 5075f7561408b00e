import Reckoner.Proofs.Evaluation
import Reckoner.Proofs.Written

/-!
# Texts inside texts

An expression that stands in brackets, or as an argument of a call, has the value that it
has alone.  Where it starts only moves the positions of its nodes, the bracket or comma
after it does not lengthen its last word, and it has one nesting level less to spend.

* `Readable` — a source that is an expression, when some constructs are open already;
* `Derives.mapPositions` — phrases are the same at other positions;
* `Readable.exists_written` — a source inside another text, with its value;
* `executeText_inside` — calls, operators and minus signs around sources.
-/

namespace Reckoner

/-- The whole source is an expression, when `depth` constructs are open already. -/
def Readable (depth : Nat) (source : String) : Prop :=
  ∃ ts e, tokenize source = .ok ts ∧ parseRule .expression depth ts = .ok (e, [])

namespace Argument

/-- The argument at other positions. -/
def mapPositions (f : Nat → Nat) (a : Argument) : Argument :=
  { lexemes := a.lexemes.map (PlacedLexeme.mapPosition f)
    tree := a.tree.mapPositions f
    nesting := a.nesting
    comma := f a.comma }

/-- Arguments with their commas are the same at other positions. -/
theorem following_mapPositions (f : Nat → Nat) (arguments : List Argument) :
    following (arguments.map (mapPositions f))
      = (following arguments).map (PlacedLexeme.mapPosition f) := by
  induction arguments with
  | nil => rfl
  | cons a others ih => simp [following, mapPositions, PlacedLexeme.mapPosition, ih]

/-- Arguments are the same at other positions. -/
theorem joined_mapPositions (f : Nat → Nat) (arguments : List Argument) :
    joined (arguments.map (mapPositions f))
      = (joined arguments).map (PlacedLexeme.mapPosition f) := by
  cases arguments with
  | nil => rfl
  | cons a others => simp [joined, mapPositions, following_mapPositions]

/-- Arguments nest as deep at other positions. -/
theorem deepest_mapPositions (f : Nat → Nat) (arguments : List Argument) :
    deepest (arguments.map (mapPositions f)) = deepest arguments := by
  simp [deepest, List.foldr_map, mapPositions]

end Argument

/-- A phrase is the same at other positions. -/
theorem Derives.mapPositions {phrase : Phrase} {ts : List PlacedLexeme} {e : Expr} {n : Nat}
    (f : Nat → Nat) (h : Derives phrase ts e n) :
    Derives phrase (ts.map (PlacedLexeme.mapPosition f)) (e.mapPositions f) n := by
  induction h with
  | expression _ ih => exact .expression ih
  | term _ ih => exact .term ih
  | sum hkind _ _ ihleft ihright =>
      simpa [Expr.mapPositions, PlacedLexeme.mapPosition] using Derives.sum hkind ihleft ihright
  | factor _ ih => exact .factor ih
  | product hkind _ _ ihleft ihright =>
      simpa [Expr.mapPositions, PlacedLexeme.mapPosition] using Derives.product hkind ihleft ihright
  | negate _ ih => simpa [Expr.mapPositions, PlacedLexeme.mapPosition] using Derives.negate ih
  | primary _ ih => exact .primary ih
  | integer value position =>
      simpa [Expr.mapPositions, PlacedLexeme.mapPosition] using Derives.integer value (f position)
  | real value position =>
      simpa [Expr.mapPositions, PlacedLexeme.mapPosition] using Derives.real value (f position)
  | @group ts e n bracket closing _ ih =>
      have hgroup := @Derives.group _ _ _ (f bracket) (f closing) ih
      simpa [PlacedLexeme.mapPosition] using hgroup
  | @call name position bracket closing arguments _ ih =>
      have hall : ∀ a ∈ arguments.map (Argument.mapPositions f),
          Derives .expression a.lexemes a.tree a.nesting := by
        intro a ha
        obtain ⟨b, hb, rfl⟩ := List.mem_map.1 ha
        exact ih b hb
      have hcall := @Derives.call name (f position) (f bracket) (f closing) _ hall
      rw [Argument.joined_mapPositions, Argument.deepest_mapPositions, List.map_map] at hcall
      simpa [Expr.mapPositions, PlacedLexeme.mapPosition, Argument.mapPositions,
        Function.comp_def] using hcall

/-- A text that is an expression and does not nest too deep has the value of its tree. -/
theorem Written.executeText {stop : Char → Prop} {text : List Char} {e : Expr} {n : Nat}
    (h : Written stop .expression 0 text e n) (hn : n ≤ maxNesting) (c : Calculator) :
    c.executeText (String.ofList text) = (c.meaning e).mapError .runtime := by
  obtain ⟨ts, hscan, hparse⟩ := h.read hn
  exact executeText_of_parse hscan hparse c

/-- **A source inside a text.**  Wherever a readable source starts, in front of a bracket
or a comma it is an expression, and what it means there is the value that it has alone. -/
theorem Readable.exists_written {depth : Nat} {source : String} (h : Readable depth source)
    (offset : Nat) :
    ∃ e n, n ≤ maxNesting - depth ∧ Written Closes .expression offset source.toList e n ∧
      ∀ c : Calculator, c.executeText source = (c.meaning e).mapError .runtime := by
  obtain ⟨ts, e, hscan, hread⟩ := h
  obtain ⟨front, hfront, ⟨n, hderives, hn⟩, -⟩ := derives_of_parseRule hread
  rw [List.append_nil] at hfront
  subst hfront
  have hwritten : ∀ offset, Written Closes .expression offset source.toList
      (e.mapPositions fun position => offset + position) n := by
    intro offset
    exact ⟨_, scansBefore_of_tokenize hscan offset, hderives.mapPositions _⟩
  refine ⟨_, n, hn, hwritten offset, ?_⟩
  intro c
  have hvalue := (hwritten 0).executeText (Nat.le_trans hn (Nat.sub_le _ _)) c
  rw [String.ofList_toList, Calculator.meaning_mapPositions] at hvalue
  rw [hvalue, Calculator.meaning_mapPositions]

/-- **Sources as arguments.**  Readable sources with commas between them are arguments,
and what these mean are the values of the sources. -/
theorem exists_writtenArguments {depth : Nat} {source : String} {others : List String}
    (h : ∀ s ∈ source :: others, Readable depth s) (offset : Nat) :
    ∃ e trees n, n ≤ maxNesting - depth ∧
      WrittenArguments Argument.joined Closes offset
        (String.intercalate "," (source :: others)).toList (e :: trees) n ∧
      ∀ c : Calculator, (source :: others).mapM c.executeText
        = ((e :: trees).mapM c.meaning).mapError .runtime := by
  induction others generalizing source offset with
  | nil =>
      obtain ⟨e, n, hn, hwritten, hvalue⟩ := (h source List.mem_cons_self).exists_written offset
      refine ⟨e, [], max n 0, by simpa using hn, ?_, ?_⟩
      · have hnone : WrittenArguments Argument.following Closes
            (offset + utf8Length source.toList) [] [] 0 := .nil rfl Closes _
        rw [String.intercalate_singleton]
        simpa using WrittenArguments.cons (.inr rfl) (by simp) hwritten hnone
      · intro c
        simp only [List.mapM_cons, List.mapM_nil, hvalue]
        cases c.meaning e <;> rfl
  | cons next others ih =>
      obtain ⟨e, n, hn, hwritten, hvalue⟩ := (h source List.mem_cons_self).exists_written offset
      obtain ⟨e', trees, m, hm, hall, hvalues⟩ := ih
        (fun s hs => h s (List.mem_cons_of_mem source hs)) (offset + utf8Length source.toList + 1)
      refine ⟨e, e' :: trees, max n m, Nat.max_le.2 ⟨hn, hm⟩, ?_, ?_⟩
      · rw [String.intercalate_cons_cons, String.toList_append, String.toList_append,
          List.append_assoc]
        exact WrittenArguments.cons (.inr rfl) (by simp) hwritten hall.comma_cons
      · intro c
        rw [List.mapM_cons, hvalues, hvalue, List.mapM_cons (a := e)]
        cases c.meaning e with
        | error e => rfl
        | ok value => cases (e' :: trees).mapM c.meaning <;> rfl

/-- A call of readable sources applies the operation to their values. -/
theorem executeText_call (c : Calculator) {name : String} {sources : List String}
    (hname : IsName name.toList) (h : ∀ s ∈ sources, Readable 1 s) :
    c.executeText (name ++ "(" ++ String.intercalate "," sources ++ ")") = (do
      let values ← sources.mapM c.executeText
      (c.execute name values).mapError .runtime) := by
  obtain ⟨trees, n, hn, hwritten, hvalues⟩ : ∃ trees n, n ≤ maxNesting - 1 ∧
      WrittenArguments Argument.joined Closes (0 + utf8Length name.toList + 1)
        (String.intercalate "," sources).toList trees n ∧
      sources.mapM c.executeText = (trees.mapM c.meaning).mapError .runtime := by
    cases sources with
    | nil => exact ⟨[], 0, Nat.zero_le _, .nil rfl Closes _, rfl⟩
    | cons source others =>
        obtain ⟨e, trees, n, hn, hwritten, hvalues⟩ := exists_writtenArguments h
          (0 + utf8Length name.toList + 1)
        exact ⟨e :: trees, n, hn, hwritten, hvalues c⟩
  have hcall : Written Closes .expression 0 _ _ _ :=
    (Written.call hname (.inl rfl) hwritten).widen (by decide)
  have hvalue := hcall.executeText (Nat.add_le_of_le_sub (by decide) hn) c
  have htext : String.ofList (name.toList ++ '(' :: ((String.intercalate "," sources).toList
      ++ [')'])) = name ++ "(" ++ String.intercalate "," sources ++ ")" := by
    rw [← String.toList_inj]
    simp
  rw [htext] at hvalue
  rw [hvalue, hvalues, Calculator.meaning]
  cases trees.mapM c.meaning <;> rfl

/-- An operator between readable sources in brackets applies its operation to their
values. -/
theorem executeText_operate (c : Calculator) (op : Operator) {left right : String}
    (hleft : Readable 1 left) (hright : Readable 1 right) :
    c.executeText ("(" ++ left ++ ")" ++ op.symbol ++ "(" ++ right ++ ")") = (do
      let a ← c.executeText left
      let b ← c.executeText right
      (c.execute op.operationName [a, b]).mapError .runtime) := by
  obtain ⟨e, m, hm, hwritten, hvalue⟩ := hleft.exists_written (0 + 1)
  have hgroup : Written IsMark op.chain 0 ('(' :: (left.toList ++ [')'])) e (m + 1) :=
    (hwritten.group (.inl rfl)).widen (Nat.zero_le _)
  obtain ⟨e', n, hn, hwritten', hvalue'⟩ := hright.exists_written
    (0 + utf8Length ('(' :: (left.toList ++ [')'])) + 1 + 1)
  have hgroup' : Written Closes op.operand _ ('(' :: (right.toList ++ [')'])) e' (n + 1) :=
    (hwritten'.group (.inl rfl)).widen (Nat.zero_le _)
  have hboth : Written Closes .expression 0 _ _ _ :=
    (hgroup.operate op.isMark_of_mem_symbol hgroup').widen (by cases op <;> decide)
  have hnesting : max (m + 1) (n + 1) ≤ maxNesting :=
    Nat.max_le.2 ⟨Nat.add_le_of_le_sub (by decide) hm, Nat.add_le_of_le_sub (by decide) hn⟩
  have htotal := hboth.executeText hnesting c
  have htext : String.ofList ('(' :: (left.toList ++ [')']) ++ op.symbol.toList
      ++ '(' :: (right.toList ++ [')'])) = "(" ++ left ++ ")" ++ op.symbol ++ "(" ++ right ++ ")" := by
    rw [← String.toList_inj]
    simp
  rw [htext] at htotal
  rw [htotal, hvalue, hvalue', Calculator.meaning]
  cases c.meaning e with
  | error error => rfl
  | ok value => cases c.meaning e' <;> rfl

/-- A minus sign before a readable source in brackets negates its value. -/
theorem executeText_negate (c : Calculator) {source : String} (h : Readable 2 source) :
    c.executeText ("-(" ++ source ++ ")") = (do
      let value ← c.executeText source
      value.neg.mapError .runtime) := by
  obtain ⟨e, n, hn, hwritten, hvalue⟩ := h.exists_written (0 + 1 + 1)
  have hgroup : Written Closes .unary (0 + 1) ('(' :: (source.toList ++ [')'])) e (n + 1) :=
    (hwritten.group (.inl rfl)).widen (by decide)
  have hnegate : Written Closes .expression 0 _ _ _ := hgroup.negate.widen (by decide)
  have hnesting : n + 2 ≤ maxNesting := Nat.add_le_of_le_sub (by decide) hn
  have htotal := hnegate.executeText hnesting c
  have htext : String.ofList ('-' :: '(' :: (source.toList ++ [')'])) = "-(" ++ source ++ ")" := by
    rw [← String.toList_inj]
    simp
  rw [htext] at htotal
  rw [htotal, hvalue, Calculator.meaning]
  cases c.meaning e <;> rfl

/-- **Sources inside a text.**  A call of readable sources, an operator between two of
them in brackets, and a minus sign before one in brackets have the values that the call,
the operation and the negation have on the values of the sources.  The first source
without a value decides. -/
theorem executeText_inside (c : Calculator) :
    (∀ (name : String) (sources : List String), IsName name.toList →
      (∀ s ∈ sources, Readable 1 s) →
      c.executeText (name ++ "(" ++ String.intercalate "," sources ++ ")") = (do
        let values ← sources.mapM c.executeText
        (c.execute name values).mapError .runtime)) ∧
    (∀ (op : Operator) (left right : String), Readable 1 left → Readable 1 right →
      c.executeText ("(" ++ left ++ ")" ++ op.symbol ++ "(" ++ right ++ ")") = (do
        let a ← c.executeText left
        let b ← c.executeText right
        (c.execute op.operationName [a, b]).mapError .runtime)) ∧
    ∀ source : String, Readable 2 source →
      c.executeText ("-(" ++ source ++ ")") = (do
        let value ← c.executeText source
        value.neg.mapError .runtime) :=
  ⟨fun _ _ hname h => executeText_call c hname h,
    fun op _ _ hleft hright => executeText_operate c op hleft hright,
    fun _ h => executeText_negate c h⟩

/-- Two sources, one with white space around it and one in brackets, inside others. -/
theorem executeText_inside_one_two :
    Calculator.new.executeText "F( 1 ,(-2))"
      = (Calculator.new.execute "F" [.integer 1, .integer (-2)]).mapError .runtime ∧
    Calculator.new.executeText "( 1 )-((-2))"
      = (Calculator.new.execute "SUB" [.integer 1, .integer (-2)]).mapError .runtime ∧
    Calculator.new.executeText "-((-2))" = .ok (.integer 2) := by
  have hscan : tokenize " 1 " = .ok [⟨.integer 1, 1⟩] := by decide +kernel
  have hscan' : tokenize "(-2)"
      = .ok [⟨.leftParen, 0⟩, ⟨.minus, 1⟩, ⟨.integer 2, 2⟩, ⟨.rightParen, 3⟩] := by
    decide +kernel
  have hone : Readable 1 " 1 " := ⟨_, .literal (.integer 1) 1, hscan, rfl⟩
  have htwo : Readable 1 "(-2)" := ⟨_, .negate (.literal (.integer 2) 2) 1, hscan', rfl⟩
  have htwo' : Readable 2 "(-2)" := ⟨_, .negate (.literal (.integer 2) 2) 1, hscan', rfl⟩
  have hvalue : Calculator.new.executeText " 1 " = .ok (.integer 1) := by
    have hparse : parse [⟨.integer 1, 1⟩] = .ok (.literal (.integer 1) 1) := rfl
    rw [executeText_of_parse hscan hparse, Calculator.meaning]
    rfl
  have hvalue' : Calculator.new.executeText "(-2)" = .ok (.integer (-2)) := by
    have hparse : parse [⟨.leftParen, 0⟩, ⟨.minus, 1⟩, ⟨.integer 2, 2⟩, ⟨.rightParen, 3⟩]
        = .ok (.negate (.literal (.integer 2) 2) 1) := rfl
    rw [executeText_of_parse hscan' hparse, Calculator.meaning, Calculator.meaning]
    rfl
  obtain ⟨hcall, hoperate, hnegate⟩ := executeText_inside Calculator.new
  have hname : IsName "F".toList := ⟨'F', [], rfl, by simp, rfl⟩
  have hcall := hcall "F" [" 1 ", "(-2)"] hname (by simp [hone, htwo])
  have hoperate := hoperate .sub " 1 " "(-2)" hone htwo
  have hnegate := hnegate "(-2)" htwo'
  rw [List.mapM_cons, hvalue, List.mapM_cons, hvalue', List.mapM_nil] at hcall
  rw [hvalue, hvalue'] at hoperate
  rw [hvalue'] at hnegate
  exact ⟨hcall, hoperate, hnegate⟩

end Reckoner
