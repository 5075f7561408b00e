import Reckoner.Grammar
import Reckoner.Proofs.Reading.Transitions

/-!
# Every phrase of the grammar is read

A derivation is a tree and a reading is a walk.  The walk along the lexemes of a
phrase is found by induction on the derivation.  What the induction carries depends on
the phrase: an operand leaves the pending operators alone, a product may leave a
pending `*` or `/` behind, and a sum a pending `+` or `-` too.

* `Phrase.Reads` — what reading a phrase does, wherever it may begin;
* `Derives.reads` — a derivation makes its lexemes read so.
-/

namespace Reckoner

open State

/-- What reading the lexemes of a phrase does, wherever it may begin and where there is
room for its nesting. -/
def Phrase.Reads : Phrase → List PlacedLexeme → Expr → Nat → Prop
  | .primary, ts, e, n | .unary, ts, e, n =>
    ∀ s : State, s.AwaitsOperand → n ≤ maxNesting - s.level.nesting →
      Reaches s ts (complete s.level s.frames e)
  | .multiplicative, ts, e, n =>
    ∀ s : State, s.AwaitsOperand → s.level.minuses = [] → s.level.product = none →
      n ≤ maxNesting - s.level.depth →
      ∃ product operand, Pending.join product operand = e ∧
        Reaches s ts ⟨{ s.level with product }, s.frames, .operator operand⟩
  | .additive, ts, e, n | .expression, ts, e, n =>
    ∀ s : State, s.AwaitsOperand → s.level.minuses = [] → s.level.product = none →
      s.level.sum = none → s.level.rule ≠ .multiplicative → n ≤ maxNesting - s.level.depth →
      ∃ sum product operand, Pending.join sum (Pending.join product operand) = e ∧
        Reaches s ts ⟨{ s.level with sum, product }, s.frames, .operator operand⟩

/-- An operator that a chain admits continues it. -/
theorem Rule.continuation?_of_admits {rule : Rule} {op : Operator}
    (hadmits : rule.admits op = true) : rule.continuation? op.lexeme = some op := by
  simp [continuation?, Option.filter, hadmits]

/-- Every kind of chain but a product admits every operator. -/
theorem Rule.admits_of_ne {rule : Rule} (h : rule ≠ .multiplicative) (op : Operator) :
    rule.admits op = true := by
  cases rule with
  | multiplicative => exact absurd rfl h
  | _ => rfl

/-- Every kind of chain admits `*` and `/`. -/
theorem Rule.admits_of_isMultiplicative (rule : Rule) {op : Operator}
    (h : op.isMultiplicative = true) : rule.admits op = true := by
  cases rule <;> first | rfl | exact h

@[simp] theorem Level.nesting_of_minuses_nil {level : Level} (h : level.minuses = []) :
    level.nesting = level.depth := by
  simp [nesting, h]

/-- A whole expression read from its beginning, in brackets or not. -/
theorem Phrase.Reads.fresh {ts : List PlacedLexeme} {e : Expr} {n : Nat}
    (h : Phrase.Reads .expression ts e n) (depth : Nat) (hroom : n ≤ maxNesting - depth)
    (frames : List Frame) {expected : Expected}
    (hexpected : expected = .operand ∨ expected = .argument) :
    ∃ level operand, level.depth = depth ∧ level.total operand = e ∧
      Reaches ⟨.start .expression depth, frames, expected⟩ ts
        ⟨level, frames, .operator operand⟩ := by
  obtain ⟨sum, product, operand, htotal, hreaches⟩ :=
    h ⟨.start .expression depth, frames, expected⟩ hexpected rfl rfl rfl (by simp [Level.start])
      hroom
  exact ⟨{ Level.start .expression depth with sum, product }, operand, rfl, htotal, hreaches⟩

/-- The arguments after the first, and the bracket that closes the call. -/
theorem reaches_following {arguments : List Argument} (depth : Nat)
    (hreads : ∀ a ∈ arguments, Phrase.Reads .expression a.lexemes a.tree a.nesting)
    (hroom : ∀ a ∈ arguments, a.nesting ≤ maxNesting - depth) (outer : Level)
    (frames : List Frame) (name : String) (position bracket closing : Nat) (before : List Expr)
    {level : Level} (operand : Expr) (hdepth : level.depth = depth) :
    Reaches ⟨level, ⟨.call name position bracket before, outer⟩ :: frames, .operator operand⟩
      (Argument.following arguments ++ [⟨.rightParen, closing⟩])
      (complete outer frames
        (.call name (before.reverse ++ level.total operand :: arguments.map Argument.tree)
          position)) := by
  induction arguments generalizing before level operand with
  | nil =>
      have hclose : Leads
          ⟨level, ⟨.call name position bracket before, outer⟩ :: frames, .operator operand⟩
          ⟨.rightParen, closing⟩
          (complete outer frames
            (.call name (level.total operand :: before).reverse position)) :=
        .closeCall name position bracket closing
      simpa [Argument.following] using hclose.reaches
  | cons a others ih =>
      have hcomma : Leads
          ⟨level, ⟨.call name position bracket before, outer⟩ :: frames, .operator operand⟩
          ⟨.comma, a.comma⟩
          ⟨.start .expression level.depth,
            ⟨.call name position bracket (level.total operand :: before), outer⟩ :: frames,
            .operand⟩ :=
        .comma name position bracket a.comma
      have hfirst : a.nesting ≤ maxNesting - level.depth := hdepth ▸ hroom a (by simp)
      obtain ⟨level', operand', hdepth', htotal', hreaches⟩ :=
        (hreads a (by simp)).fresh level.depth hfirst
          (⟨.call name position bracket (level.total operand :: before), outer⟩ :: frames) (.inl rfl)
      have hrest := ih (fun b hb => hreads b (by simp [hb])) (fun b hb => hroom b (by simp [hb]))
        (level.total operand :: before) operand' (hdepth'.trans hdepth)
      rw [htotal'] at hrest
      simpa [Argument.following] using Reaches.step hcomma (hreaches.append hrest)

/-- A derivation makes its lexemes read as its phrase. -/
theorem Derives.reads {phrase : Phrase} {ts : List PlacedLexeme} {e : Expr} {n : Nat}
    (h : Derives phrase ts e n) : phrase.Reads ts e n := by
  induction h with
  | expression _ ih => exact ih
  | term _ ih =>
      intro s hs hminuses hproduct hsum _ hroom
      obtain ⟨product, operand, hjoin, hreaches⟩ := ih s hs hminuses hproduct hroom
      exact ⟨none, product, operand, hjoin, hsum ▸ hreaches⟩
  | @sum ls rs left right m n position op hkind _ _ ihleft ihright =>
      intro s hs hminuses hproduct hsum hrule hroom
      obtain ⟨sum, product, operand, hjoin, hreaches⟩ :=
        ihleft s hs hminuses hproduct hsum hrule (by omega)
      have hop : s.level.rule.continuation? op.lexeme = some op :=
        Rule.continuation?_of_admits (Rule.admits_of_ne hrule op)
      have hoperate : Leads ⟨{ s.level with sum, product }, s.frames, .operator operand⟩
          ⟨op.lexeme, position⟩ ⟨_, s.frames, .operand⟩ := .operate hop
      simp only [Level.operate, hkind, Bool.false_eq_true, if_false, Level.total, Level.productOf,
        hjoin] at hoperate
      obtain ⟨product', operand', hjoin', hreaches'⟩ :=
        ihright ⟨{ s.level with sum := some ⟨left, op, position⟩, product := none }, s.frames,
          .operand⟩ (.inl rfl) hminuses rfl (by simp only; omega)
      exact ⟨some ⟨left, op, position⟩, product', operand', by rw [hjoin']; rfl,
        hreaches.append (.step hoperate hreaches')⟩
  | factor _ ih =>
      intro s hs hminuses hproduct hroom
      have hreaches := ih s hs (by rw [Level.nesting_of_minuses_nil hminuses]; exact hroom)
      refine ⟨none, _, rfl, ?_⟩
      simpa [complete, Level.negated, hminuses, hproduct] using hreaches
  | @product ls rs left right m n position op hkind _ _ ihleft ihright =>
      intro s hs hminuses hproduct hroom
      obtain ⟨product, operand, hjoin, hreaches⟩ := ihleft s hs hminuses hproduct (by omega)
      have hop : s.level.rule.continuation? op.lexeme = some op :=
        Rule.continuation?_of_admits (Rule.admits_of_isMultiplicative _ hkind)
      have hoperate : Leads ⟨{ s.level with product }, s.frames, .operator operand⟩
          ⟨op.lexeme, position⟩ ⟨_, s.frames, .operand⟩ := .operate hop
      simp only [Level.operate, hkind, if_true, Level.productOf, hjoin] at hoperate
      have hright : n ≤ maxNesting - s.level.nesting := by
        rw [Level.nesting_of_minuses_nil hminuses]
        omega
      have hreaches' := ihright
        ⟨{ s.level with product := some ⟨left, op, position⟩ }, s.frames, .operand⟩ (.inl rfl) hright
      refine ⟨some ⟨left, op, position⟩, right, rfl, hreaches.append (.step hoperate ?_)⟩
      simpa [complete, Level.negated, hminuses] using hreaches'
  | @negate ts e n position _ ih =>
      intro s hs hroom
      have hminus := Leads.minus position hs (by omega)
      have hreaches := ih ⟨{ s.level with minuses := position :: s.level.minuses }, s.frames,
        .operand⟩ (.inl rfl) (by simp only [Level.nesting, List.length_cons] at hroom ⊢; omega)
      exact .step hminus hreaches
  | primary _ ih => exact ih
  | integer value position =>
      intro s hs _
      exact (Leads.literal (.integer value) position hs).reaches
  | real value position =>
      intro s hs _
      exact (Leads.literal (.real value) position hs).reaches
  | @group ts e n bracket closing _ ih =>
      intro s hs hroom
      obtain ⟨level, operand, -, rfl, hreaches⟩ :=
        Phrase.Reads.fresh ih (s.level.nesting + 1) (by omega)
          (⟨.group bracket, s.level⟩ :: s.frames) (.inl rfl)
      have hclose : Leads ⟨level, ⟨.group bracket, s.level⟩ :: s.frames, .operator operand⟩
          ⟨.rightParen, closing⟩ (complete s.level s.frames (level.total operand)) :=
        .closeGroup bracket closing
      exact .step (.openGroup bracket hs (by omega)) (hreaches.append hclose.reaches)
  | @call name position bracket closing arguments _ ih =>
      intro s hs hroom
      have hname := Leads.name name position hs
      have hopen : Leads ⟨s.level, s.frames, .bracket name position⟩ ⟨.leftParen, bracket⟩
          ⟨.start .expression (s.level.nesting + 1),
            ⟨.call name position bracket [], s.level⟩ :: s.frames, .argument⟩ :=
        .openCall name position bracket (by omega)
      refine .step hname (.step hopen ?_)
      cases arguments with
      | nil => exact (Leads.closeEmpty name position bracket closing).reaches
      | cons a others =>
          have hroom' : ∀ b ∈ a :: others, b.nesting ≤ maxNesting - (s.level.nesting + 1) := by
            intro b hb
            have hle := Argument.nesting_le_deepest hb
            omega
          obtain ⟨level, operand, hdepth, htotal, hreaches⟩ :=
            Phrase.Reads.fresh (ih a (by simp)) (s.level.nesting + 1) (hroom' a (by simp))
              (⟨.call name position bracket [], s.level⟩ :: s.frames) (.inr rfl)
          have hrest := reaches_following (s.level.nesting + 1)
            (fun b hb => ih b (List.mem_cons_of_mem a hb))
            (fun b hb => hroom' b (List.mem_cons_of_mem a hb)) s.level s.frames name position
            bracket closing [] operand hdepth
          rw [htotal] at hrest
          simpa [Argument.joined] using hreaches.append hrest

/-- A phrase of the rule is read up to where it ends, whatever follows there. -/
theorem Derives.parseRule_append {rule : Rule} {depth n : Nat} {ts rest : List PlacedLexeme}
    {e : Expr} (h : Derives rule.phrase ts e n) (hroom : n ≤ maxNesting - depth)
    (hends : rule.Ends rest) : parseRule rule depth (ts ++ rest) = .ok (e, rest) := by
  have hends' : ∀ t ∈ rest.head?, rule.continuation? t.lexeme = none :=
    fun t ht => Rule.continuation?_eq_none.2 (hends t ht)
  have hstart : (start rule depth).AwaitsOperand := .inl rfl
  unfold parseRule
  cases rule with
  | multiplicative =>
      obtain ⟨product, operand, rfl, hreaches⟩ := h.reads _ hstart rfl rfl hroom
      rw [hreaches.run_append]
      exact run_of_ends operand hends'
  | expression =>
      obtain ⟨sum, product, operand, rfl, hreaches⟩ :=
        h.reads _ hstart rfl rfl rfl (by simp [start, Level.start]) hroom
      rw [hreaches.run_append]
      exact run_of_ends operand hends'
  | additive =>
      obtain ⟨sum, product, operand, rfl, hreaches⟩ :=
        h.reads _ hstart rfl rfl rfl (by simp [start, Level.start]) hroom
      rw [hreaches.run_append]
      exact run_of_ends operand hends'

end Reckoner
