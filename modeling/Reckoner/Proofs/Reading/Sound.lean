import Reckoner.Proofs.Reading.Complete

/-!
# What is read is a phrase of the grammar

A state is half a derivation: the operands that are complete are derived, and what is
open around them waits for the rest.  This module says which lexemes a state stands
for, shows that each transition adds its lexeme to them, and so that a reading that
ends has derived what it read.

* `DerivesAt` — a derivation that fits where so many constructs are open;
* `Level.Spells`, `Level.SpellsWith`, `State.Spells` — the lexemes of half a derivation;
* `State.Leads.spells`, `State.Reaches.spells` — transitions add the lexemes they read;
* `reading_iff_derives` — reading finds the derivations, all of them and nothing else.
-/

namespace Reckoner

/-- The lexemes make up the phrase, with this tree, and nest no deeper than they may
where `depth` constructs are open. -/
def DerivesAt (depth : Nat) (phrase : Phrase) (ts : List PlacedLexeme) (e : Expr) : Prop :=
  ∃ n, Derives phrase ts e n ∧ n ≤ maxNesting - depth

namespace DerivesAt

variable {depth : Nat} {ts ls rs : List PlacedLexeme} {e left right : Expr}

theorem sum {op : Operator} (position : Nat) (hkind : op.isMultiplicative = false)
    (hleft : DerivesAt depth .additive ls left)
    (hright : DerivesAt depth .multiplicative rs right) :
    DerivesAt depth .additive (ls ++ ⟨op.lexeme, position⟩ :: rs)
      (.binary left op right position) := by
  obtain ⟨m, hleft, hm⟩ := hleft
  obtain ⟨n, hright, hn⟩ := hright
  exact ⟨max m n, .sum hkind hleft hright, by omega⟩

theorem product {op : Operator} (position : Nat) (hkind : op.isMultiplicative = true)
    (hleft : DerivesAt depth .multiplicative ls left) (hright : DerivesAt depth .unary rs right) :
    DerivesAt depth .multiplicative (ls ++ ⟨op.lexeme, position⟩ :: rs)
      (.binary left op right position) := by
  obtain ⟨m, hleft, hm⟩ := hleft
  obtain ⟨n, hright, hn⟩ := hright
  exact ⟨max m n, .product hkind hleft hright, by omega⟩

theorem factor (h : DerivesAt depth .unary ts e) : DerivesAt depth .multiplicative ts e := by
  obtain ⟨n, h, hn⟩ := h
  exact ⟨n, .factor h, hn⟩

theorem term (h : DerivesAt depth .multiplicative ts e) : DerivesAt depth .additive ts e := by
  obtain ⟨n, h, hn⟩ := h
  exact ⟨n, .term h, hn⟩

theorem expression (h : DerivesAt depth .additive ts e) : DerivesAt depth .expression ts e := by
  obtain ⟨n, h, hn⟩ := h
  exact ⟨n, .expression h, hn⟩

theorem primary (h : DerivesAt depth .primary ts e) : DerivesAt depth .unary ts e := by
  obtain ⟨n, h, hn⟩ := h
  exact ⟨n, .primary h, hn⟩

/-- A literal nests nothing, so it fits everywhere. -/
theorem literal (value : Number) (position : Nat) :
    DerivesAt depth .primary [⟨value.lexeme, position⟩] (.literal value position) := by
  cases value with
  | integer value => exact ⟨0, .integer value position, Nat.zero_le _⟩
  | real value => exact ⟨0, .real value position, Nat.zero_le _⟩

/-- A minus sign takes one level. -/
theorem negate (position : Nat) (hroom : depth < maxNesting)
    (h : DerivesAt (depth + 1) .unary ts e) :
    DerivesAt depth .unary (⟨.minus, position⟩ :: ts) (.negate e position) := by
  obtain ⟨n, h, hn⟩ := h
  exact ⟨n + 1, .negate h, by omega⟩

/-- A pair of brackets takes one level. -/
theorem group (bracket closing : Nat) (hroom : depth < maxNesting)
    (h : DerivesAt (depth + 1) .expression ts e) :
    DerivesAt depth .primary (⟨.leftParen, bracket⟩ :: (ts ++ [⟨.rightParen, closing⟩])) e := by
  obtain ⟨n, h, hn⟩ := h
  exact ⟨n + 1, .group h, by omega⟩

/-- A call takes one level, whatever the number of its arguments. -/
theorem call {arguments : List Argument} (name : String) (position bracket closing : Nat)
    (hroom : depth < maxNesting)
    (h : ∀ a ∈ arguments, Derives .expression a.lexemes a.tree a.nesting ∧
      a.nesting ≤ maxNesting - (depth + 1)) :
    DerivesAt depth .primary
      (⟨.identifier name, position⟩ :: ⟨.leftParen, bracket⟩ ::
        (Argument.joined arguments ++ [⟨.rightParen, closing⟩]))
      (.call name (arguments.map Argument.tree) position) := by
  have hdeepest : Argument.deepest arguments ≤ maxNesting - (depth + 1) :=
    Argument.deepest_le fun a ha => (h a ha).2
  exact ⟨_, .call fun a ha => (h a ha).1, by omega⟩

/-- Minus signs take one level each, the innermost the deepest. -/
theorem negations {minuses : List Nat} (hroom : minuses = [] ∨ depth + minuses.length ≤ maxNesting)
    (h : DerivesAt (depth + minuses.length) .unary ts e) :
    DerivesAt depth .unary (minuses.reverse.map (PlacedLexeme.mk .minus) ++ ts)
      (minuses.foldl Expr.negate e) := by
  induction minuses generalizing ts e with
  | nil => simpa using h
  | cons position others ih =>
      have hroom : depth + others.length + 1 ≤ maxNesting := by
        rcases hroom with hnil | hle
        · cases hnil
        · simpa [Nat.add_assoc] using hle
      have hstep := ih (.inr (by omega)) (negate position hroom h)
      simpa using hstep

end DerivesAt

/-- The lexemes of a left operand and of the operator after it.  With no operator that
waits there are none. -/
inductive Pending.Spells (depth : Nat) (phrase : Phrase) (multiplicative : Bool) :
    Option Pending → List PlacedLexeme → Prop
  | none : Spells depth phrase multiplicative none []
  | some {left : Expr} {op : Operator} {ls : List PlacedLexeme} (position : Nat)
      (hkind : op.isMultiplicative = multiplicative) (hleft : DerivesAt depth phrase ls left) :
      Spells depth phrase multiplicative (some ⟨left, op, position⟩)
        (ls ++ [⟨op.lexeme, position⟩])

/-- The product that a right operand completes. -/
theorem Pending.Spells.product {depth : Nat} {pending : Option Pending}
    {ls rs : List PlacedLexeme} {right : Expr} (h : Spells depth .multiplicative true pending ls)
    (hright : DerivesAt depth .unary rs right) :
    DerivesAt depth .multiplicative (ls ++ rs) (join pending right) := by
  cases h with
  | none => exact hright.factor
  | some position hkind hleft => simpa [join] using hleft.product position hkind hright

/-- The sum that a right operand completes. -/
theorem Pending.Spells.sum {depth : Nat} {pending : Option Pending} {ls rs : List PlacedLexeme}
    {right : Expr} (h : Spells depth .additive false pending ls)
    (hright : DerivesAt depth .multiplicative rs right) :
    DerivesAt depth .additive (ls ++ rs) (join pending right) := by
  cases h with
  | none => exact hright.term
  | some position hkind hleft => simpa [join] using hleft.sum position hkind hright

/-- The pending operators of an expression: their lexemes, and that a product has no
sum around it. -/
structure Level.SpellsPending (l : Level) (sums products : List PlacedLexeme) : Prop where
  sum : Pending.Spells l.depth .additive false l.sum sums
  product : Pending.Spells l.depth .multiplicative true l.product products
  rule : l.rule = .multiplicative → l.sum = none

/-- The lexemes of an expression of which an operand is to come. -/
inductive Level.Spells (l : Level) : List PlacedLexeme → Prop
  | intro {sums products : List PlacedLexeme} (hpending : l.SpellsPending sums products)
      (hroom : l.minuses = [] ∨ l.nesting ≤ maxNesting) :
      Spells l (sums ++ (products ++ l.minuses.reverse.map (PlacedLexeme.mk .minus)))

/-- The lexemes of an expression up to an operand that is complete. -/
inductive Level.SpellsWith (l : Level) (operand : Expr) : List PlacedLexeme → Prop
  | intro {sums products us : List PlacedLexeme} (hpending : l.SpellsPending sums products)
      (hminuses : l.minuses = []) (hoperand : DerivesAt l.depth .unary us operand) :
      SpellsWith l operand (sums ++ (products ++ us))

namespace Level

/-- An expression of which nothing is read has no lexemes. -/
theorem spells_start (rule : Rule) (depth : Nat) : (start rule depth).Spells [] :=
  Spells.intro (l := start rule depth) ⟨.none, .none, fun _ => rfl⟩ (.inl rfl)

/-- A minus sign before the operand. -/
theorem Spells.minus {l : Level} {ts : List PlacedLexeme} (h : l.Spells ts) (position : Nat)
    (hroom : l.nesting < maxNesting) :
    ({ l with minuses := position :: l.minuses } : Level).Spells
      (ts ++ [⟨.minus, position⟩]) := by
  cases h with
  | @intro sums products hpending _ =>
      have hroom' : l.depth + (position :: l.minuses).length ≤ maxNesting := by
        simpa [nesting, Nat.add_assoc, Nat.lt_iff_add_one_le] using hroom
      have h := Spells.intro (l := { l with minuses := position :: l.minuses })
        ⟨hpending.sum, hpending.product, hpending.rule⟩ (.inr hroom')
      simpa using h

/-- An operand and the minus signs before it. -/
theorem Spells.complete {l : Level} {ts us : List PlacedLexeme} {operand : Expr}
    (h : l.Spells ts) (hoperand : DerivesAt l.nesting .primary us operand) :
    ({ l with minuses := [] } : Level).SpellsWith (l.negated operand) (ts ++ us) := by
  cases h with
  | intro hpending hroom =>
      have hunary := DerivesAt.negations hroom hoperand.primary
      have h := SpellsWith.intro (l := { l with minuses := [] })
        ⟨hpending.sum, hpending.product, hpending.rule⟩ rfl hunary
      simpa [negated] using h

/-- An operand that ends the expression makes it a phrase. -/
theorem SpellsWith.total {l : Level} {ts : List PlacedLexeme} {operand : Expr}
    (h : l.SpellsWith operand ts) : DerivesAt l.depth l.rule.phrase ts (l.total operand) := by
  cases h with
  | intro hpending _ hoperand =>
      have hproduct := hpending.product.product hoperand
      have hsum := hpending.sum.sum hproduct
      cases hrule : l.rule with
      | expression => exact hsum.expression
      | additive => exact hsum
      | multiplicative =>
          have hnone := hpending.rule hrule
          have hsums := hpending.sum
          simp only [hnone] at hsums
          cases hsums
          simpa [Rule.phrase, Level.total, productOf, Pending.join, hnone] using hproduct

/-- An operator after the operand. -/
theorem SpellsWith.operate {l : Level} {ts : List PlacedLexeme} {operand : Expr}
    (h : l.SpellsWith operand ts) {t : PlacedLexeme} {op : Operator}
    (hop : l.rule.continuation? t.lexeme = some op) :
    (l.operate operand op t.position).Spells (ts ++ [t]) := by
  obtain ⟨hlexeme, hadmits⟩ := Option.filter_eq_some_iff.1 hop
  obtain ⟨lexeme, position⟩ := t
  obtain rfl := Lexeme.eq_lexeme_of_operator? hlexeme
  cases h with
  | @intro sums products us hpending hminuses hoperand =>
      have hproduct := hpending.product.product hoperand
      cases hkind : op.isMultiplicative with
      | true =>
          have h := Spells.intro
            (l := { l with product := some ⟨l.productOf operand, op, position⟩ })
            ⟨hpending.sum, .some position hkind hproduct, hpending.rule⟩ (.inl hminuses)
          simpa [Level.operate, hkind, hminuses] using h
      | false =>
          -- Only a product does not admit the operator, so there is a sum to go on with.
          have hrule : l.rule ≠ .multiplicative := by
            intro heq
            simp [heq, Rule.admits, hkind] at hadmits
          have hsum := hpending.sum.sum hproduct
          have h := Spells.intro
            (l := { l with sum := some ⟨l.total operand, op, position⟩, product := none })
            ⟨.some position hkind hsum, .none, fun heq => absurd heq hrule⟩ (.inl hminuses)
          simpa [Level.operate, hkind, hminuses] using h

end Level

namespace Argument

/-- The lexemes of arguments that wait for one more, the comma before it included. -/
def opened (arguments : List Argument) (comma : Nat) : List PlacedLexeme :=
  match arguments with
  | [] => []
  | a :: others => joined (a :: others) ++ [⟨.comma, comma⟩]

/-- One more argument after those that wait for it. -/
theorem joined_concat (arguments : List Argument) (a : Argument) :
    joined (arguments ++ [a]) = opened arguments a.comma ++ a.lexemes := by
  have hfollowing (others : List Argument) :
      following (others ++ [a]) = following others ++ ⟨.comma, a.comma⟩ :: a.lexemes := by
    induction others with
    | nil => simp [following]
    | cons b others ih => simp [following, ih]
  cases arguments with
  | nil => simp [joined, following, opened]
  | cons b others => simp [joined, opened, hfollowing]

/-- Arguments that are not empty, and the comma after them. -/
theorem opened_concat (arguments : List Argument) (a : Argument) (comma : Nat) :
    opened (arguments ++ [a]) comma = joined (arguments ++ [a]) ++ [⟨.comma, comma⟩] := by
  cases arguments <;> rfl

end Argument

/-- The lexemes before the innermost expression, by its kind and by how many constructs
are open around it.  Reading began with `rule` and `depth`. -/
inductive Frame.Spell (rule : Rule) (depth : Nat) :
    List Frame → Rule → Nat → List PlacedLexeme → Prop
  | outermost : Spell rule depth [] rule depth []
  | group {frames : List Frame} {outer : Level} {us ls : List PlacedLexeme} (bracket : Nat)
      (hframes : Spell rule depth frames outer.rule outer.depth us) (houter : outer.Spells ls)
      (hroom : outer.nesting < maxNesting) :
      Spell rule depth (⟨.group bracket, outer⟩ :: frames) .expression (outer.nesting + 1)
        (us ++ (ls ++ [⟨.leftParen, bracket⟩]))
  | call {frames : List Frame} {outer : Level} {us ls : List PlacedLexeme} {trees : List Expr}
      (name : String) (position bracket comma : Nat) (arguments : List Argument)
      (hframes : Spell rule depth frames outer.rule outer.depth us) (houter : outer.Spells ls)
      (hroom : outer.nesting < maxNesting)
      (htrees : trees.reverse = arguments.map Argument.tree)
      (harguments : ∀ a ∈ arguments, Derives .expression a.lexemes a.tree a.nesting ∧
        a.nesting ≤ maxNesting - (outer.nesting + 1)) :
      Spell rule depth (⟨.call name position bracket trees, outer⟩ :: frames) .expression
        (outer.nesting + 1)
        (us ++ (ls ++ ⟨.identifier name, position⟩ :: ⟨.leftParen, bracket⟩ ::
          Argument.opened arguments comma))

/-- Inside a bracket stands a whole expression. -/
theorem Frame.Spell.rule_inside {rule inner : Rule} {depth room : Nat} {frame : Frame}
    {frames : List Frame} {us : List PlacedLexeme}
    (h : Spell rule depth (frame :: frames) inner room us) : inner = .expression := by
  cases h <;> rfl

/-- Outside all brackets stands what reading began with. -/
theorem Frame.Spell.outside {rule inner : Rule} {depth room : Nat} {us : List PlacedLexeme}
    (h : Spell rule depth [] inner room us) : inner = rule ∧ room = depth ∧ us = [] := by
  cases h
  exact ⟨rfl, rfl, rfl⟩

/-- A call with one more argument. -/
theorem Frame.Spell.extend {rule inner : Rule} {depth room : Nat} {frames : List Frame}
    {outer : Level} {us vs : List PlacedLexeme} {name : String} {position bracket : Nat}
    {trees : List Expr} {e : Expr}
    (h : Spell rule depth (⟨.call name position bracket trees, outer⟩ :: frames) inner room us)
    (he : DerivesAt room .expression vs e) :
    ∃ us' ls arguments, Spell rule depth frames outer.rule outer.depth us' ∧ outer.Spells ls ∧
      outer.nesting < maxNesting ∧ room = outer.nesting + 1 ∧
      (e :: trees).reverse = arguments.map Argument.tree ∧
      (∀ a ∈ arguments, Derives .expression a.lexemes a.tree a.nesting ∧
        a.nesting ≤ maxNesting - (outer.nesting + 1)) ∧
      us ++ vs = us' ++ (ls ++ ⟨.identifier name, position⟩ :: ⟨.leftParen, bracket⟩ ::
        Argument.joined arguments) ∧
      ∀ comma, Argument.opened arguments comma
        = Argument.joined arguments ++ [⟨.comma, comma⟩] := by
  cases h with
  | @call _ _ us' ls _ _ _ _ comma arguments hframes houter hroom htrees harguments =>
      obtain ⟨n, hderives, hn⟩ := he
      refine ⟨us', ls, arguments ++ [⟨vs, e, n, comma⟩], hframes, houter, hroom, rfl, ?_, ?_, ?_,
        Argument.opened_concat arguments _⟩
      · simp [htrees]
      · intro a ha
        rcases List.mem_append.1 ha with ha | ha
        · exact harguments a ha
        · obtain rfl := List.mem_singleton.1 ha
          exact ⟨hderives, hn⟩
      · simp [Argument.joined_concat]

namespace State

variable {rule : Rule} {depth : Nat}

/-- The lexemes of a state.  Reading began with `rule` and `depth`. -/
inductive Spells (rule : Rule) (depth : Nat) : State → List PlacedLexeme → Prop
  | operand {l : Level} {frames : List Frame} {us ls : List PlacedLexeme}
      (hframes : Frame.Spell rule depth frames l.rule l.depth us)
      (hlevel : l.Spells ls) : Spells rule depth ⟨l, frames, .operand⟩ (us ++ ls)
  | argument {frames : List Frame} {outer : Level} {us : List PlacedLexeme} {inner : Nat}
      (name : String) (position bracket : Nat)
      (hframes : Frame.Spell rule depth (⟨.call name position bracket [], outer⟩ :: frames)
        .expression inner us) :
      Spells rule depth
        ⟨.start .expression inner, ⟨.call name position bracket [], outer⟩ :: frames, .argument⟩ us
  | bracket {l : Level} {frames : List Frame} {us ls : List PlacedLexeme} (name : String)
      (position : Nat) (hframes : Frame.Spell rule depth frames l.rule l.depth us)
      (hlevel : l.Spells ls) :
      Spells rule depth ⟨l, frames, .bracket name position⟩
        (us ++ (ls ++ [⟨.identifier name, position⟩]))
  | operator {l : Level} {frames : List Frame} {us ls : List PlacedLexeme} {operand : Expr}
      (hframes : Frame.Spell rule depth frames l.rule l.depth us)
      (hlevel : l.SpellsWith operand ls) :
      Spells rule depth ⟨l, frames, .operator operand⟩ (us ++ ls)

/-- Before the first lexeme nothing has been read. -/
theorem spells_start : (start rule depth).Spells rule depth [] :=
  .operand .outermost (Level.spells_start rule depth)

/-- Where an operand can begin, the lexemes are those around the expression and those
of the expression itself. -/
theorem Spells.awaiting {s : State} {ts : List PlacedLexeme} (h : s.Spells rule depth ts)
    (hs : s.AwaitsOperand) :
    ∃ us ls, ts = us ++ ls ∧ Frame.Spell rule depth s.frames s.level.rule s.level.depth us ∧
      s.level.Spells ls := by
  cases h with
  | operand hframes hlevel => exact ⟨_, _, rfl, hframes, hlevel⟩
  | argument name position bracket hframes =>
      exact ⟨ts, [], by simp, hframes, Level.spells_start _ _⟩
  | bracket name position hframes hlevel => rcases hs with hs | hs <;> cases hs
  | operator hframes hlevel => rcases hs with hs | hs <;> cases hs

/-- Inside a bracket, an operand that is complete ends an expression. -/
theorem Spells.inside {level : Level} {frame : Frame} {frames : List Frame} {operand : Expr}
    {ts : List PlacedLexeme}
    (h : Spells rule depth ⟨level, frame :: frames, .operator operand⟩ ts) :
    ∃ us vs inner, ts = us ++ vs ∧ Frame.Spell rule depth (frame :: frames) .expression inner us ∧
      DerivesAt inner .expression vs (level.total operand) ∧ inner = level.depth := by
  cases h with
  | @operator _ _ us vs _ hframes hlevel =>
      have hrule := hframes.rule_inside
      have htotal := hlevel.total
      rw [hrule] at hframes htotal
      exact ⟨us, vs, level.depth, rfl, hframes, htotal, rfl⟩

/-- An operand that is complete adds its lexemes. -/
theorem spells_complete {level : Level} {frames : List Frame} {us ls vs : List PlacedLexeme}
    {operand : Expr} (hframes : Frame.Spell rule depth frames level.rule level.depth us)
    (hlevel : level.Spells ls) (hoperand : DerivesAt level.nesting .primary vs operand) :
    (complete level frames operand).Spells rule depth (us ++ (ls ++ vs)) :=
  .operator (l := { level with minuses := [] }) hframes (hlevel.complete hoperand)

/-- **One transition.**  A lexeme that leads on is added to the lexemes of the state. -/
theorem Leads.spells {s s' : State} {t : PlacedLexeme} {ts : List PlacedLexeme}
    (h : Leads s t s') (hs : s.Spells rule depth ts) : s'.Spells rule depth (ts ++ [t]) := by
  cases h with
  | literal value position hawaits =>
      obtain ⟨us, ls, rfl, hframes, hlevel⟩ := hs.awaiting hawaits
      simpa using spells_complete hframes hlevel (.literal value position)
  | minus position hawaits hroom =>
      obtain ⟨us, ls, rfl, hframes, hlevel⟩ := hs.awaiting hawaits
      rw [List.append_assoc]
      exact .operand (l := { s.level with minuses := _ }) hframes (hlevel.minus position hroom)
  | openGroup bracket hawaits hroom =>
      obtain ⟨us, ls, rfl, hframes, hlevel⟩ := hs.awaiting hawaits
      have hinner := Frame.Spell.group bracket hframes hlevel hroom
      simpa using Spells.operand (l := .start .expression (s.level.nesting + 1)) hinner
        (Level.spells_start _ _)
  | name name position hawaits =>
      obtain ⟨us, ls, rfl, hframes, hlevel⟩ := hs.awaiting hawaits
      simpa using Spells.bracket name position hframes hlevel
  | openCall name position bracket hroom =>
      cases hs with
      | @bracket _ _ us ls _ _ hframes hlevel =>
          have htrees : ([] : List Expr).reverse = ([] : List Argument).map Argument.tree := rfl
          have hinner := Frame.Spell.call name position bracket 0 [] hframes hlevel hroom htrees
            (by simp)
          simpa [Argument.opened] using Spells.argument name position bracket hinner
  | closeEmpty name position bracket closing =>
      cases hs with
      | argument _ _ _ hframes =>
          cases hframes with
          | call _ _ _ comma arguments hframes houter hroom htrees harguments =>
              cases arguments with
              | cons a others => cases htrees
              | nil =>
                  have hcall := DerivesAt.call name position bracket closing hroom harguments
                  simpa [Argument.opened, Argument.joined] using
                    spells_complete hframes houter hcall
  | operate hop =>
      cases hs with
      | operator hframes hlevel =>
          rw [List.append_assoc]
          refine .operand ?_ (hlevel.operate hop)
          unfold Level.operate
          split <;> exact hframes
  | closeGroup bracket closing =>
      obtain ⟨us, vs, inner, rfl, hframes, htotal, -⟩ := hs.inside
      cases hframes with
      | group _ hframes houter hroom =>
          have hgroup := DerivesAt.group bracket closing hroom htotal
          simpa using spells_complete hframes houter hgroup
  | closeCall name position bracket closing =>
      obtain ⟨us, vs, inner, rfl, hframes, htotal, -⟩ := hs.inside
      obtain ⟨us', ls, arguments, hframes', houter, hroom, -, htrees, harguments, hlexemes, -⟩ :=
        hframes.extend htotal
      have hcall := DerivesAt.call name position bracket closing hroom harguments
      rw [hlexemes, htrees]
      simpa using spells_complete hframes' houter hcall
  | comma name position bracket comma =>
      obtain ⟨us, vs, inner, rfl, hframes, htotal, rfl⟩ := hs.inside
      obtain ⟨us', ls, arguments, hframes', houter, hroom, hinner, htrees, harguments, hlexemes,
        hopened⟩ := hframes.extend htotal
      have hcall := Frame.Spell.call name position bracket comma arguments hframes' houter hroom
        htrees harguments
      rw [hlexemes, hinner]
      simpa [hopened] using Spells.operand (l := .start .expression _) hcall
        (Level.spells_start _ _)

/-- **Transitions.**  The lexemes along transitions are added to those of the state. -/
theorem Reaches.spells {s s' : State} {ts us : List PlacedLexeme} (h : Reaches s us s')
    (hs : s.Spells rule depth ts) : s'.Spells rule depth (ts ++ us) := by
  induction h generalizing ts with
  | refl s => simpa using hs
  | step hleads _ ih => simpa using ih (hleads.spells hs)

/-- Where no bracket is open, an operand that is complete ends a phrase. -/
theorem Spells.total {level : Level} {operand : Expr} {ts : List PlacedLexeme}
    (h : Spells rule depth ⟨level, [], .operator operand⟩ ts) :
    level.rule = rule ∧ DerivesAt depth rule.phrase ts (level.total operand) := by
  cases h with
  | operator hframes hlevel =>
      obtain ⟨hrule, hdepth, rfl⟩ := hframes.outside
      have htotal := hlevel.total
      rw [hrule, hdepth] at htotal
      exact ⟨hrule, htotal⟩

end State

/-- What a reading takes derives from its rule, and the rest does not go on with it. -/
theorem derives_of_parseRule {rule : Rule} {depth : Nat} {ts rest : List PlacedLexeme} {e : Expr}
    (h : parseRule rule depth ts = .ok (e, rest)) :
    ∃ front, ts = front ++ rest ∧ DerivesAt depth rule.phrase front e ∧ rule.Ends rest := by
  obtain ⟨front, level, operand, rfl, hreaches, rfl, hends⟩ := State.run_eq_ok_iff.1 h
  obtain ⟨hrule, hderives⟩ := (hreaches.spells State.spells_start).total
  refine ⟨front, rfl, by simpa using hderives, ?_⟩
  intro t ht
  exact Rule.continuation?_eq_none.1 (hrule ▸ hends t ht)

/-- A whole text is read exactly when it is an expression that does not nest too deep. -/
theorem parse_eq_ok_iff {ts : List PlacedLexeme} {e : Expr} :
    parse ts = .ok e ↔ DerivesAt 0 .expression ts e := by
  unfold parse
  constructor
  · intro h
    obtain ⟨⟨value, rest⟩, hread, hend⟩ := bind_eq_ok_iff.1 h
    obtain ⟨front, rfl, hderives, -⟩ := derives_of_parseRule hread
    cases rest with
    | nil =>
        cases hend
        simpa [Rule.phrase] using hderives
    | cons t rest => cases hend
  · rintro ⟨n, hderives, hn⟩
    have hread : parseRule .expression 0 (ts ++ []) = .ok (e, []) :=
      Derives.parseRule_append (show Derives (Rule.phrase .expression) ts e n from hderives) hn
        (Rule.ends_nil .expression)
    rw [List.append_nil] at hread
    rw [hread]
    rfl

/-- **Reading is exact.**  A rule takes a front of the lexemes and gives a tree exactly
when that front derives from the rule with that tree, nests no deeper than the limit
leaves room for, and is not followed by an operator that the rule goes on with.  The
whole of the lexemes is read exactly when all of it is an expression within the limit. -/
theorem reading_iff_derives :
    (∀ (rule : Rule) (depth : Nat) (ts rest : List PlacedLexeme) (e : Expr),
      parseRule rule depth ts = .ok (e, rest) ↔
        ∃ front n, ts = front ++ rest ∧ Derives rule.phrase front e n ∧ n ≤ maxNesting - depth ∧
          rule.Ends rest) ∧
      ∀ (ts : List PlacedLexeme) (e : Expr),
        parse ts = .ok e ↔ ∃ n, Derives .expression ts e n ∧ n ≤ maxNesting := by
  refine ⟨fun rule depth ts rest e => ⟨?_, ?_⟩, fun ts e => parse_eq_ok_iff⟩
  · intro h
    obtain ⟨front, hts, ⟨n, hderives, hn⟩, hends⟩ := derives_of_parseRule h
    exact ⟨front, n, hts, hderives, hn, hends⟩
  · rintro ⟨front, n, rfl, hderives, hn, hends⟩
    exact hderives.parseRule_append hn hends

end Reckoner
