import FactQuery.Proofs.Literal.Reading
import FactQuery.Proofs.Sparql.HeldTerms
import FactQuery.Proofs.Sparql.ReadBack

/-!
# Printed literals

A literal is printed with its value between quotes as it is.  In every place that a query has for a
literal the printed text is read as the same literal exactly if the value holds no quote, backslash,
line end or tab, and the datatype, if there is one, has a name.
-/

set_option autoImplicit false

namespace FactQuery.Literal

open FactQuery.Text FactQuery.Grammar FactQuery.Token

/-- A query is read with the literal in its place, and accepted if its labels are declared. -/
structure IsFilled (source : List Char) (fill : Sparql.Term → Sparql.Query)
    (literal : Sparql.Term) : Prop where
  parsed : Sparql.Query.parse (String.ofList source) = .ok (fill literal)
  held : literal ∈ Sparql.Node.termsOf (fill literal).group
  accepted : (fill literal).undeclared? = none →
    Sparql.Query.ofText (String.ofList source) = .ok (fill literal)

theorem isFilled_at {here behind last : Cursor} {source : List Char}
    {fill : Sparql.Term → Sparql.Query} {literal : Sparql.Term}
    (place : Sparql.Place here behind .query (Cursor.start (expandTabs source)) fill last)
    (read : Sparql.quotedLiteral here = .matched literal behind) : IsFilled source fill literal := by
  have parsed := parse_at place read
  exact ⟨parsed, place.hasSlots.1.mem literal, fun declared =>
    Sparql.Query.ofText_eq_ok_iff.2 ⟨parsed, declared⟩⟩

/-- A printed literal of which nothing needs an escape is read in front of what cannot be taken for
a part of it. -/
theorem quotedLiteral_at_printed {here : Cursor} {value : String} {language datatype : Option String}
    {more : List Char} (wellFormed : (Sparql.Term.literal value language datatype).IsWellFormed)
    (plain : (Sparql.Term.literal value language datatype).isPlain = true)
    (ahead : here.skipLayout.rest =
      (Sparql.Term.literal value language datatype).text.toList ++ more) (ends : EndsLiteral more) :
    ∃ behind, behind.rest = more ∧
      Sparql.quotedLiteral here = .matched (.literal value language datatype) behind := by
  have reads := Sparql.quotedLiteral_reads IsGap.nil wellFormed plain ends
  have passes : PassesLayout Sparql.quotedLiteral := quotedText_passes.bind
  exact passes.matched ahead reads

/-- Wherever the printed text of a literal of a query stands, it is read as this literal exactly if
it is plain; and where it is, a query with a place for a literal has the literal there. -/
theorem printed_literals_read_back_iff {text : String} {found : Sparql.Query} {value : String}
    {language datatype : Option String} (read : Sparql.Query.ofText text = .ok found)
    (held : .literal value language datatype ∈ Sparql.Node.termsOf found.group)
    (front back : List Char) :
    let literal := Sparql.Term.literal value language datatype
    let source := front ++ (literal.text.toList ++ back)
    let shown := expandTabsFrom (columnBehind 0 front) literal.text.toList
    let more := expandTabsFrom (columnBehind (columnBehind 0 front) literal.text.toList) back
    expandTabs source = expandTabs front ++ (shown ++ more) ∧
      ∀ here : Cursor, here.skipLayout.rest = shown ++ more → EndsLiteral more →
        (literal.isPlain = true ↔
          ∃ behind, behind.rest = more ∧ Sparql.quotedLiteral here = .matched literal behind) ∧
        ∀ behind, Sparql.quotedLiteral here = .matched literal behind → ∀ fill last,
          Sparql.Place here behind .query (Cursor.start (expandTabs source)) fill last →
            IsFilled source fill literal := by
  intro literal source shown more
  have wellFormed : literal.IsWellFormed :=
    Sparql.Query.isWellFormed_of_mem_terms read literal held
  refine ⟨?_, fun here ahead ends => ⟨⟨fun plain => ?_, ?_⟩, fun behind run fill last place => ?_⟩⟩
  · rw [expandTabs, expandTabsFrom_append, expandTabsFrom_append]
    rfl
  · have unchanged : shown = literal.text.toList :=
      expandTabsFrom_eq_self (Sparql.tab_not_mem_term wellFormed plain) _
    rw [unchanged] at ahead
    exact quotedLiteral_at_printed wellFormed plain ahead ends
  · rintro ⟨behind, rest, run⟩
    exact Sparql.isPlain_of_read wellFormed ahead ends.noSuffix rest run
  · exact isFilled_at place run

theorem printed_literals_read_back_iff_named :
    let text := "SELECT * WHERE \x7b ?s ?p ?o FILTER(?o = 'it\\'s'^^p:t) \x7d"
    let literal := Sparql.Term.literal "it's" none (some "p:t")
    ∃ found, Sparql.Query.ofText text = .ok found ∧ literal ∈ Sparql.Node.termsOf found.group ∧
      IsFilled ("PREFIX p: <http://e.org/> ASK \x7b ?s ?p ".toList ++
          (literal.text.toList ++ " \x7d".toList))
        (fun literal => ⟨.ofList [("p", "http://e.org/")], .ask [.triples
          [⟨.term (.variable "s"), .term (.variable "p"), .term literal⟩]]⟩) literal := by
  intro text literal
  have checked : (Sparql.Query.ofText text).toOption.map (fun found =>
      decide (literal ∈ Sparql.Node.termsOf found.group)) = some true := by
    decide +kernel
  cases read : Sparql.Query.ofText text with
  | error error =>
      rw [read] at checked
      contradiction
  | ok found =>
      rw [read] at checked
      have held : literal ∈ Sparql.Node.termsOf found.group :=
        of_decide_eq_true (Option.some.inj checked)
      refine ⟨found, rfl, held, ?_⟩
      have source : expandTabs ("PREFIX p: <http://e.org/> ASK \x7b ?s ?p ".toList ++
          (literal.text.toList ++ " \x7d".toList)) = "PREFIX p: <http://e.org/> ASK \x7b ?s ?p".toList ++
            ' ' :: (literal.text.toList ++ " \x7d".toList) := by
        decide +kernel
      obtain ⟨-, further⟩ := printed_literals_read_back_iff read held
        "PREFIX p: <http://e.org/> ASK \x7b ?s ?p ".toList " \x7d".toList
      rw [source] at further
      have ends : EndsLiteral " \x7d".toList :=
        ⟨rfl, by decide, literalSuffix_misses IsGap.space rfl rfl⟩
      obtain ⟨reads, filled⟩ := further
        ⟨some 'p', ' ' :: (literal.text.toList ++ " \x7d".toList)⟩ (by decide +kernel) ends
      obtain ⟨⟨mark, ahead⟩, rest, run⟩ := reads.1 (by decide +kernel)
      subst rest
      exact filled _ run _ _ (place_in_pattern mark _)

/-- A quote in the value ends the string that is printed, a backslash becomes an escape, and a
datatype without a name is not printed. -/
theorem printed_literal_is_not_read_back :
    let termsOf := fun text => (Sparql.Query.ofText text).toOption.map fun found =>
      Sparql.Node.termsOf found.group
    let printed := fun literal : Sparql.Term => termsOf ("ASK \x7b ?s ?p " ++ literal.text ++ " \x7d")
    let around := fun literal : Sparql.Term => [.variable "s", .variable "p", literal]
    let quote := Sparql.Term.literal "a\"b" none none
    let backslash := Sparql.Term.literal "a\\tb" none none
    let nameless := Sparql.Term.literal "v" none (some "")
    (termsOf "ASK \x7b ?s ?p \"a\\\"b\" \x7d" = some (around quote) ∧ printed quote = none) ∧
      (termsOf "ASK \x7b ?s ?p \"a\\\\tb\" \x7d" = some (around backslash) ∧
        printed backslash = some (around (.literal "a\tb" none none))) ∧
      (termsOf "ASK \x7b ?s ?p \"v\"^^<> \x7d" = some (around nameless) ∧
        printed nameless = some (around (.literal "v" none none))) := by
  decide +kernel

end FactQuery.Literal
