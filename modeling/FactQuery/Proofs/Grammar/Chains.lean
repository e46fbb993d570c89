import FactQuery.Proofs.Grammar.Tokens

/-!
# Reading rows of operands

A row of operands under operators that group to the left is taken operand by operand.  What has been
taken is itself a value that the row can go on from, so a row is described from its end.
-/

set_option autoImplicit false

namespace FactQuery.Grammar

variable {α β : Type}

/-- The parser takes a first operand for the value, or a row and one more operator and operand for
their combination.  Nothing is said of the operators behind the row. -/
inductive ReadsChain (operator : Parser β) (combine : β → α → α → α) (operand : Parser α) :
    List Char → α → List Char → Prop where
  | single {text rest : List Char} {value : α} (reads : Reads operand text value rest) :
      ReadsChain operator combine operand text value rest
  | more {text signText last rest : List Char} {sign : β} {left right : α}
      (nonempty : signText ≠ [])
      (row : ReadsChain operator combine operand text left (signText ++ (last ++ rest)))
      (signReads : Reads operator signText sign (last ++ rest))
      (reads : Reads operand last right rest) :
      ReadsChain operator combine operand (text ++ (signText ++ last)) (combine sign left right)
        rest

theorem ReadsChain.reads {operator : Parser β} {combine : β → α → α → α} {operand : Parser α}
    {text rest : List Char} {value : α}
    (chain : ReadsChain operator combine operand text value rest)
    (alone : Misses operator rest) :
    Reads (Parser.leftChain operator combine operand) text value rest := by
  have within : ∀ {text behind : List Char} {value : α},
      ReadsChain operator combine operand text value behind →
      ∀ {others : List Char} {steps : List (β × α)}, behind = others ++ rest →
      ReadsEach (do
        let sign ← operator
        let next ← operand
        return (sign, next)) others steps rest →
      Reads (Parser.leftChain operator combine operand) (text ++ others)
        (steps.foldl (fun left step => combine step.1 left step.2) value) rest := by
    intro text behind value chain
    induction chain with
    | single reads =>
        rintro others steps rfl later
        exact reads.bind later.many.bind_pure
    | @more text signText last behind sign left right nonempty row signReads reads
        inductionHypothesis =>
        rintro others steps rfl later
        have step : Reads (do
            let sign ← operator
            let next ← operand
            return (sign, next)) (signText ++ last) (sign, right) (others ++ rest) :=
          signReads.bind reads.bind_pure
        have whole := inductionHypothesis (by simp only [List.append_assoc])
          (ReadsEach.more (by simp [nonempty]) step later)
        rw [List.append_assoc] at whole ⊢
        rw [List.append_assoc]
        exact whole
  have whole := within chain rfl (ReadsEach.stop alone.bind)
  rw [List.append_nil] at whole
  exact whole

theorem Reads.separated1 {separator : Parser Unit} {parser : Parser α}
    {text others rest : List Char} {value : α} {values : List α}
    (first : Reads parser text value (others ++ rest))
    (later : ReadsEach (do separator; parser) others values rest) :
    Reads (Parser.separated1 separator parser) (text ++ others) (value :: values) rest :=
  first.bind later.many.bind_pure

end FactQuery.Grammar
