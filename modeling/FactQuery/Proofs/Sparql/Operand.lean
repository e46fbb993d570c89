import FactQuery.Proofs.Grammar.Ensures
import FactQuery.Proofs.Token.LiteralSuffix
import FactQuery.Proofs.Token.Names
import FactQuery.Sparql.Grammar

/-!
# Terms and operands that have been read

The names, labels and tags of a term that has been read are such as its token can hold.  An operand
of a filter is moreover no prefixed name from which a truth value would be read.  This depends on
what stands in front of the operand, and so it is carried through the levels of an expression.
-/

set_option autoImplicit false

namespace FactQuery.Sparql

open FactQuery.Text FactQuery.Grammar FactQuery.Token

/-! ## Terms -/

def IsVariableName (name : String) : Prop :=
  (name.toList.head?.any isNameStart) = true ∧ ∀ c ∈ name.toList, isNameChar c = true

def IsBlankName (label : String) : Prop :=
  label.toList ≠ [] ∧ ∀ c ∈ label.toList, isNameChar c = true

def IsResourceName : Iri → Prop
  | .full value => IsIriText value
  | .prefixed label localPart => IsLabel label ∧ IsLocal localPart

/-- The parts of a term are texts that its token can hold. -/
def Term.IsWellFormed : Term → Prop
  | .variable name => IsVariableName name
  | .iri name => IsResourceName name
  | .colonless _ => False
  | .literal _ language datatype =>
    (∀ tag, language = some tag → IsTag tag) ∧ (∀ name, datatype = some name → IsIriText name) ∧
      (language = none ∨ datatype = none)
  | .blank label => IsBlankName label

theorem isNameChar_of_isNameStart {c : Char} (starts : isNameStart c = true) :
    isNameChar c = true := by
  simp only [isNameStart, isNameChar, Char.isAlphanum, Bool.or_eq_true] at starts ⊢
  rcases starts with letter | underscore
  · exact Or.inl (Or.inl letter)
  · exact Or.inr underscore

theorem scanVariable_sound {text token rest : List Char}
    (found : scanVariable text = some (token, rest)) :
    IsVariableName (String.ofList (token.drop 1)) := by
  cases text with
  | nil => contradiction
  | cons mark behind =>
      rw [scanVariable] at found
      split at found
      · obtain ⟨⟨name, last⟩, scanned, same⟩ := Option.map_eq_some_iff.1 found
        obtain ⟨rfl, rfl⟩ := Prod.mk.inj same
        rw [List.drop_succ_cons, List.drop_zero, IsVariableName, String.toList_ofList]
        cases behind with
        | nil => contradiction
        | cons c others =>
            rw [scanWord] at scanned
            split at scanned
            · rename_i starts
              obtain ⟨rfl, rfl⟩ := Prod.mk.inj (Option.some.inj scanned)
              refine ⟨by simpa using starts, ?_⟩
              rw [List.forall_mem_cons]
              exact ⟨isNameChar_of_isNameStart starts, List.all_eq_true.1 List.all_takeWhile⟩
            · contradiction
      · contradiction

theorem variableName_yields : Yields variableName IsVariableName :=
  (Yields.lexeme fun _ _ _ found => scanVariable_sound found).bind fun _ isName =>
    Yields.pure isName

theorem scanBlankNode_sound {text token rest : List Char}
    (found : scanBlankNode text = some (token, rest)) :
    IsBlankName (String.ofList (token.drop 2)) := by
  unfold scanBlankNode at found
  split at found
  · obtain ⟨⟨label, last⟩, scanned, same⟩ := Option.map_eq_some_iff.1 found
    obtain ⟨rfl, rfl⟩ := Prod.mk.inj same
    simp only [scanRun, List.isEmpty_iff] at scanned
    split at scanned
    · contradiction
    · rename_i nonempty
      obtain ⟨rfl, rfl⟩ := Prod.mk.inj (Option.some.inj scanned)
      rw [List.drop_succ_cons, List.drop_succ_cons, List.drop_zero, IsBlankName,
        String.toList_ofList]
      exact ⟨nonempty, List.all_eq_true.1 List.all_takeWhile⟩
  · contradiction

theorem prefixLabel_yields : Yields prefixLabel IsLabel := by
  have token : Yields (lexeme scanPrefixLabel) fun token =>
      ∃ label, IsLabel label ∧ token = label.toList ++ [':'] := by
    refine Yields.lexeme fun text token rest found => ?_
    obtain ⟨label, isLabel, written, _⟩ := scanPrefixLabel_sound found
    exact ⟨label, isLabel, written⟩
  refine token.bind fun written good => Yields.pure ?_
  obtain ⟨label, isLabel, rfl⟩ := good
  rw [List.dropLast_concat, String.ofList_toList]
  exact isLabel

theorem iriRef_yields : Yields iriRef IsIriText :=
  (Yields.lexeme fun _ _ _ found => scanIriRef_sound found).bind fun _ isText =>
    Yields.pure isText

theorem iri_yields : Yields iri IsResourceName := by
  have token : Yields (lexeme scanPrefixedName) fun token => ∃ label localPart,
      IsLabel label ∧ IsLocal localPart ∧ token = colonJoined label localPart := by
    refine Yields.lexeme fun text token rest found => ?_
    obtain ⟨label, localPart, isLabel, isLocal, written, _⟩ := scanPrefixedName_sound found
    exact ⟨label, localPart, isLabel, isLocal, written⟩
  refine Yields.firstOf fun parser inside => ?_
  simp only [List.mem_cons, List.not_mem_nil, or_false] at inside
  rcases inside with rfl | rfl
  · exact iriRef_yields.bind fun value isText => Yields.pure isText
  · refine token.bind fun written good => Yields.pure ?_
    obtain ⟨label, localPart, isLabel, isLocal, rfl⟩ := good
    rw [prefixedNameOf_colonJoined isLabel]
    exact ⟨isLabel, isLocal⟩

theorem isIriText_written {name : Iri} (isName : IsResourceName name) : IsIriText name.written := by
  cases name with
  | full value => exact isName
  | «prefixed» label localPart => exact isIriText_colonJoined isName.1 isName.2

def IsSuffix : LiteralSuffix → Prop
  | .language tag => IsTag tag
  | .datatype name => IsResourceName name

theorem literalSuffix_yields : Yields literalSuffix IsSuffix := by
  refine Yields.firstOf fun parser inside => ?_
  simp only [List.mem_cons, List.not_mem_nil, or_false] at inside
  rcases inside with rfl | rfl
  · have tag : Yields languageTag IsTag :=
      (Yields.lexeme fun _ _ _ found => scanLanguageTag_sound found).bind fun _ isTag =>
        Yields.pure isTag
    exact tag.map fun _ isTag => isTag
  · have name : Yields datatype IsResourceName := Yields.after fun _ => iri_yields
    exact name.map fun _ isName => isName

def Term.IsLiteral (term : Term) : Prop :=
  term.IsWellFormed ∧ ∃ value language datatype, term = .literal value language datatype

theorem quotedLiteral_yields : Yields quotedLiteral Term.IsLiteral := by
  refine Yields.after fun value => ?_
  refine literalSuffix_yields.optional.bind fun suffix isSuffix => ?_
  cases suffix with
  | none => exact Yields.pure ⟨⟨by simp, by simp, Or.inl rfl⟩, _, _, _, rfl⟩
  | some suffix =>
      have good := isSuffix suffix rfl
      cases suffix with
      | language tag =>
          refine Yields.pure ⟨⟨?_, by simp, Or.inr rfl⟩, _, _, _, rfl⟩
          intro other same
          cases same
          exact good
      | datatype name =>
          refine Yields.pure ⟨⟨by simp, ?_, Or.inl rfl⟩, _, _, _, rfl⟩
          intro other same
          cases same
          exact isIriText_written good

theorem isLiteral_typed {value datatype : String} (isText : IsIriText datatype) :
    (Term.literal value none (some datatype)).IsLiteral := by
  refine ⟨⟨by simp, ?_, Or.inl rfl⟩, value, none, some datatype, rfl⟩
  intro other same
  cases same
  exact isText

theorem number_yields : Yields number Term.IsLiteral := by
  refine Yields.firstOf fun parser inside => ?_
  simp only [List.mem_cons, List.not_mem_nil, or_false] at inside
  rcases inside with rfl | rfl | rfl
  · exact Yields.after fun value => Yields.pure (isLiteral_typed (by decide +kernel))
  · exact Yields.after fun value => Yields.pure (isLiteral_typed (by decide +kernel))
  · exact Yields.after fun value => Yields.pure (isLiteral_typed (by decide +kernel))

theorem boolean_yields : Yields boolean Term.IsLiteral := by
  refine Yields.firstOf fun parser inside => ?_
  simp only [List.mem_cons, List.not_mem_nil, or_false] at inside
  rcases inside with rfl | rfl
  · exact Yields.after fun _ => Yields.pure (isLiteral_typed (by decide +kernel))
  · exact Yields.after fun _ => Yields.pure (isLiteral_typed (by decide +kernel))

theorem graphTerm_yields : Yields graphTerm Term.IsWellFormed := by
  refine Yields.firstOf fun parser inside => ?_
  simp only [List.mem_cons, List.not_mem_nil, or_false] at inside
  rcases inside with rfl | rfl | rfl | rfl | rfl | rfl
  · exact variableName_yields.map fun _ isName => isName
  · exact iri_yields.map fun _ isName => isName
  · exact quotedLiteral_yields.mono fun _ good => good.1
  · exact number_yields.mono fun _ good => good.1
  · exact boolean_yields.mono fun _ good => good.1
  · exact (Yields.lexeme fun _ _ _ found => scanBlankNode_sound found).bind fun _ isName =>
      Yields.pure isName

def Term.IsVerb (term : Term) : Prop :=
  term.IsWellFormed ∧ ((∃ name, term = .variable name) ∨ ∃ name, term = .iri name)

theorem verb_yields : Yields verb Term.IsVerb := by
  refine Yields.firstOf fun parser inside => ?_
  simp only [List.mem_cons, List.not_mem_nil, or_false] at inside
  rcases inside with rfl | rfl | rfl
  · exact variableName_yields.map fun name isName => ⟨isName, Or.inl ⟨name, rfl⟩⟩
  · exact iri_yields.map fun name isName => ⟨isName, Or.inr ⟨name, rfl⟩⟩
  · have isText : IsIriText Vocabulary.rdfType := by decide +kernel
    exact Yields.after fun _ => Yields.pure ⟨isText, Or.inr ⟨_, rfl⟩⟩

/-! ## Operands -/

/-- The identifier characters at the front of a label spell a truth value. -/
def SpellsTruth (label : String) : Prop :=
  (label.toList.takeWhile (foldsToIdentifier capital)).map capital = "TRUE".toList ∨
    (label.toList.takeWhile (foldsToIdentifier capital)).map capital = "FALSE".toList

/-- What can stand beside a comparison. -/
structure Term.IsOperand (term : Term) : Prop where
  wellFormed : term.IsWellFormed
  notBlank : ∀ label, term ≠ .blank label
  notTruth : ∀ label localPart, term = .iri (.prefixed label localPart) → ¬SpellsTruth label

/-- A node, and each side of a binary operation, is an operand if it is a term. -/
def Node.HoldsOperands : Node → Prop
  | .term value => value.IsOperand
  | .binary _ left right => left.HoldsOperands ∧ right.HoldsOperands
  | _ => True

theorem takeWhile_colon {belongs : Char → Bool} (outside : belongs ':' = false)
    (front rest : List Char) :
    (front ++ ':' :: rest).takeWhile belongs = front.takeWhile belongs := by
  induction front with
  | nil => simp [outside]
  | cons c front inductionHypothesis =>
      rw [List.cons_append, List.takeWhile_cons, List.takeWhile_cons, inductionHypothesis]

theorem andThen_eq_missed {α β : Type} {outcome : Outcome α} {change : α → β}
    (missed : (outcome.andThen fun value place => .matched (change value) place) = .missed) :
    outcome = .missed := by
  cases outcome with
  | matched value place => cases missed
  | missed => rfl
  | aborted error place => cases missed

theorem firstOf_eq_missed {α : Type} {parsers : List (Parser α)} {place : Cursor}
    (missed : Parser.firstOf parsers place = .missed) :
    ∀ parser ∈ parsers, parser place = .missed := by
  induction parsers with
  | nil => simp
  | cons parser others inductionHypothesis =>
      simp only [Parser.firstOf] at missed
      split at missed
      · cases missed
      · rename_i firstMissed
        rw [List.forall_mem_cons]
        exact ⟨firstMissed, inductionHypothesis missed⟩
      · cases missed

/-- Where no truth value is read, no label that spells one is read either. -/
theorem not_spellsTruth {place : Cursor} {label : String} {rest : List Char} (clear : Clear place)
    (ahead : place.skipLayout.rest = label.toList ++ ':' :: rest)
    (missed : boolean place = .missed) : ¬SpellsTruth label := by
  have boundary : isBoundary capital place.skipLayout.before = true :=
    clear.skipLayout (by simp [ahead])
  have run : place.skipLayout.rest.takeWhile (foldsToIdentifier capital) =
      label.toList.takeWhile (foldsToIdentifier capital) := by
    rw [ahead]
    exact takeWhile_colon (by decide) label.toList rest
  have refused : ∀ word : String, IsKeyword capital word →
      caselessKeyword word place = .missed →
      (label.toList.takeWhile (foldsToIdentifier capital)).map capital ≠ word.toList := by
    intro word isKeyword wordMissed same
    rw [caselessKeyword, foldedWord_apply isKeyword.2.1, run, if_pos ⟨boundary, same⟩] at wordMissed
    cases wordMissed
  have each := firstOf_eq_missed missed
  simp only [List.forall_mem_cons] at each
  intro spells
  rcases spells with spellsTrue | spellsFalse
  · exact refused "TRUE" (by decide) (andThen_eq_missed each.1) spellsTrue
  · exact refused "FALSE" (by decide) (andThen_eq_missed each.2.1) spellsFalse

/-- A prefixed name that has been read stands ahead, label and colon first. -/
theorem iri_eq_matched_prefixed {place next : Cursor} {label localPart : String}
    (run : iri place = .matched (.prefixed label localPart) next) :
    ∃ rest, place.skipLayout.rest = label.toList ++ ':' :: rest := by
  simp only [iri, Parser.firstOf] at run
  split at run
  · rename_i value behind fullRun
    cases run
    obtain ⟨found, stop, _, done⟩ := andThen_eq_matched fullRun
    cases done
  · split at run
    · rename_i value behind prefixedRun
      cases run
      obtain ⟨token, stop, scanned, done⟩ := andThen_eq_matched prefixedRun
      obtain ⟨readLabel, readLocal, isLabel, _, rfl, whole⟩ :=
        scanPrefixedName_sound (lexeme_eq_matched scanned).1
      rw [prefixedNameOf_colonJoined isLabel] at done
      cases done
      refine ⟨localPart.toList ++ next.rest, ?_⟩
      rw [whole, colonJoined, List.append_assoc, List.cons_append]
    · cases run
    · cases run
  · cases run

theorem isOperand_of_isLiteral {term : Term} (isLiteral : term.IsLiteral) : term.IsOperand := by
  obtain ⟨wellFormed, value, language, datatype, rfl⟩ := isLiteral
  refine ⟨wellFormed, ?_, ?_⟩
  · intro label same
    cases same
  · intro label localPart same
    cases same

theorem functionCall_yields (inner : Parser Node) :
    Yields (functionCall inner) Node.HoldsOperands :=
  Yields.after fun _ => Yields.after fun _ => Yields.after fun _ => Yields.after fun _ =>
    Yields.pure trivial

theorem parenthesised_yields {inner : Parser Node}
    (deeper : Ensures Clear inner fun node _ => node.HoldsOperands) :
    Yields (parenthesised inner) Node.HoldsOperands := by
  have opens : Ensures (fun _ => True) (symbol "(") fun _ next => Clear next :=
    symbol_clear rfl (by decide)
  refine Ensures.yields (opens.bind fun _ => deeper.bind fun node => ?_)
  intro place holds value next run
  obtain ⟨_, _, _, done⟩ := andThen_eq_matched run
  cases done
  exact holds

theorem operand_ensures {inner : Parser Node}
    (deeper : Ensures Clear inner fun node _ => node.HoldsOperands) :
    Ensures Clear (operand inner) fun node _ => node.HoldsOperands := by
  have literal : ∀ parser : Parser Term, Yields parser Term.IsLiteral →
      Yields (Node.term <$> parser) Node.HoldsOperands := by
    intro parser yields
    exact yields.map fun term isLiteral => isOperand_of_isLiteral isLiteral
  have variableOperand : Yields ((Node.term ∘ Term.variable) <$> variableName)
      Node.HoldsOperands := by
    refine variableName_yields.map fun name isName => ⟨isName, ?_, ?_⟩
    · intro label same
      cases same
    · intro label localPart same
      cases same
  refine Ensures.firstOf_cons (functionCall_yields inner).ensures ?_
  refine Ensures.firstOf_cons variableOperand.ensures ?_
  refine Ensures.firstOf_cons (literal _ quotedLiteral_yields).ensures ?_
  refine Ensures.firstOf_cons (literal _ number_yields).ensures ?_
  refine Ensures.firstOf_cons (literal _ boolean_yields).ensures ?_
  refine Ensures.firstOf_cons ?_ ?_
  · -- The name stands where no truth value was read, which is what keeps it from spelling one.
    rintro place ⟨⟨⟨⟨⟨clear, _⟩, _⟩, _⟩, _⟩, noTruth⟩ node next run
    obtain ⟨name, stop, nameRun, done⟩ := andThen_eq_matched run
    cases done
    refine ⟨iri_yields place name next nameRun, ?_, ?_⟩
    · intro label same
      cases same
    · intro label localPart same
      cases same
      obtain ⟨rest, ahead⟩ := iri_eq_matched_prefixed nameRun
      exact not_spellsTruth clear ahead (andThen_eq_missed noTruth)
  · refine Ensures.firstOf_cons ?_ Ensures.firstOf_nil
    exact (parenthesised_yields deeper).ensures

/-! ## Expressions -/

theorem leftChain_ensures {operator : Parser String} {parser : Parser Node}
    (leads : Ensures (fun _ => True) operator fun _ next => Clear next)
    (each : Ensures Clear parser fun node _ => node.HoldsOperands) :
    Ensures Clear (Parser.leftChain operator .binary parser) fun node _ => node.HoldsOperands := by
  have fitting : Ensures (fun _ => True) operator fun _ next => True ∧ Clear next :=
    fun place fulfilled sign next run => ⟨trivial, leads place fulfilled sign next run⟩
  exact Ensures.leftChain fitting each fun _ _ _ _ leftHolds rightHolds => ⟨leftHolds, rightHolds⟩

theorem product_ensures {inner : Parser Node}
    (deeper : Ensures Clear inner fun node _ => node.HoldsOperands) :
    Ensures Clear (product inner) fun node _ => node.HoldsOperands := by
  refine leftChain_ensures (oneOf_clear ?_) (operand_ensures deeper)
  simp only [List.forall_mem_cons]
  exact ⟨⟨_, rfl, by decide⟩, ⟨_, rfl, by decide⟩, by simp⟩

theorem sum_ensures {inner : Parser Node}
    (deeper : Ensures Clear inner fun node _ => node.HoldsOperands) :
    Ensures Clear (sum inner) fun node _ => node.HoldsOperands := by
  refine leftChain_ensures (oneOf_clear ?_) (product_ensures deeper)
  simp only [List.forall_mem_cons]
  exact ⟨⟨_, rfl, by decide⟩, ⟨_, rfl, by decide⟩, by simp⟩

theorem comparisonOperator_clear :
    Ensures (fun _ => True) comparisonOperator fun _ next => Clear next := by
  refine oneOf_clear ?_
  simp only [List.forall_mem_cons]
  exact ⟨⟨_, rfl, by decide⟩, ⟨_, rfl, by decide⟩, ⟨_, rfl, by decide⟩, ⟨_, rfl, by decide⟩,
    ⟨_, rfl, by decide⟩, ⟨_, rfl, by decide⟩, ⟨_, rfl, by decide⟩, ⟨_, rfl, by decide⟩, by simp⟩

theorem comparison_ensures {inner : Parser Node}
    (deeper : Ensures Clear inner fun node _ => node.HoldsOperands) :
    Ensures Clear (comparison inner) fun node _ => node.HoldsOperands := by
  have right : Yields (do
      let operator ← comparisonOperator
      let right ← sum inner
      return (operator, right)) fun behind => behind.2.HoldsOperands := by
    refine Ensures.yields (comparisonOperator_clear.bind fun _ => (sum_ensures deeper).bind ?_)
    exact fun _ => Ensures.pure fun _ holds => holds
  refine (sum_ensures deeper).bind fun left => ?_
  intro place leftHolds node next run
  refine Yields.bind right.optional (fun behind holds => ?_) place node next run
  cases behind with
  | none => exact Yields.pure leftHolds
  | some pair => exact Yields.pure ⟨leftHolds, holds pair rfl⟩

theorem negation_ensures {inner : Parser Node}
    (deeper : Ensures Clear inner fun node _ => node.HoldsOperands) :
    Ensures Clear (negation inner) fun node _ => node.HoldsOperands := by
  have sign : Ensures (fun _ => True) (symbol "!") fun _ next => Clear next :=
    symbol_clear rfl (by decide)
  refine (sign.weaken.optional fun _ clear => clear).bind fun found => ?_
  refine (comparison_ensures deeper).bind fun node => ?_
  split
  · exact Ensures.pure fun _ _ => trivial
  · exact Ensures.pure fun _ holds => holds

theorem connected_ensures {connective : Connective} {parser : Parser Node} {last : Char}
    (ends : connective.symbol.toList.getLast? = some last)
    (boundary : isBoundary capital (some last) = true)
    (each : Ensures Clear parser fun node _ => node.HoldsOperands) :
    Ensures Clear (connected connective parser) fun node _ => node.HoldsOperands := by
  refine (Ensures.separated1 (symbol_clear ends boundary) each).bind fun operands => ?_
  split
  · refine Ensures.pure fun _ holds => ?_
    exact holds.2 _ (List.mem_singleton.2 rfl)
  · exact Ensures.pure fun _ _ => trivial

theorem expression_ensures : Ensures Clear expression fun node _ => node.HoldsOperands := by
  refine Ensures.nested fun inner deeper => ?_
  have conjunctions : Ensures Clear (connected .and (negation inner))
      fun node _ => node.HoldsOperands :=
    connected_ensures rfl (by decide : isBoundary capital (some '&') = true)
      (negation_ensures deeper)
  exact connected_ensures rfl (by decide : isBoundary capital (some '|') = true) conjunctions

end FactQuery.Sparql
