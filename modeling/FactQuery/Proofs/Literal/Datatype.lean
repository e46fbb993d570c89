import FactQuery.Evaluation.Join
import FactQuery.Proofs.Literal.Reading

/-!
# Short names of datatypes

The datatype of a literal can be written by a short name.  A document spells the name out by the
directives before its statement, and ends with a fault where they do not declare the label.  A
query keeps the name as it was written: its label is not looked at, and no table of prefixes
changes it.  So both have the same datatype only for a label that is declared to stand for itself
and its colon.
-/

set_option autoImplicit false

namespace FactQuery.Literal

open FactQuery.Text FactQuery.Grammar FactQuery.Token FactQuery.TripleText

def short (label localPart : String) : Option LiteralSuffix :=
  some (.datatype (.prefixed label localPart))

/-- The name of the datatype is read up to where its local part ends. -/
theorem short_at {past : Cursor} {label localPart : String} {more : List Char}
    (isLabel : IsLabel label)
    (ahead : past.skipLayout.rest = "^^".toList ++ (colonJoined label localPart ++ more))
    (ends : splitLocal (localPart.toList ++ more) = (localPart.toList, more)) :
    ∃ behind, behind.rest = more ∧
      Parser.optional literalSuffix past = .matched (short label localPart) behind := by
  have name : Reads iri (colonJoined label localPart) (.prefixed label localPart) more := by
    have read := iri_reads_ending IsGap.nil isLabel ends
    rwa [List.nil_append] at read
  rw [← List.append_assoc] at ahead
  obtain ⟨behind, rest, run⟩ := literalSuffix_passes.matched ahead (literalSuffix_reads_name name)
  exact ⟨behind, rest, optional_matched run⟩

/-! ## In a query -/

/-- The query has the literal with the name as it was written.  It is accepted if it is for a
literal without a datatype, and refused for the same label if not; and the literal keeps the name
under every table of prefixes. -/
structure KeepsName (source : List Char) (fill : Sparql.Term → Sparql.Query)
    (text label localPart : String) : Prop where
  isAsked : IsAsked source fill text (short label localPart)
  refused : ∀ other, (fill (asked "" none)).undeclared? = some other →
    Sparql.Query.ofText (String.ofList source) = .error (.undeclared other)
  resolved : ∀ prefixes : PrefixTable,
    ResolvedTerm.ofNode prefixes (.term (asked text (short label localPart))) =
      .ok (.literal text (some (label ++ ":" ++ localPart)) none)

theorem keepsName_at {here behind last : Cursor} {source : List Char}
    {fill : Sparql.Term → Sparql.Query} {text label localPart : String}
    (place : Sparql.Place here behind .query (Cursor.start (expandTabs source)) fill last)
    (read : Sparql.quotedLiteral here = .matched (asked text (short label localPart)) behind) :
    KeepsName source fill text label localPart := by
  have isAsked := isAsked_at place read
  refine ⟨isAsked, fun other undeclared => ?_, fun prefixes => rfl⟩
  rw [undeclared?_at place (asked "" none) (asked text (short label localPart)) ⟨rfl, rfl⟩]
    at undeclared
  simp [Sparql.Query.ofText, isAsked.parsed, undeclared]
  rfl

/-! ## In a document -/

/-- The document has the literal in one of its statements.  If for a literal without a datatype it
is told without a fault, then with the name it is told in the same way, with the datatype that the
statements before declare; if they do not declare the label, it ends there with that fault. -/
structure SpellsName (source : List Char) (fill : Turtle.Object → List Turtle.Statement)
    (text label localPart : String) : Prop where
  isStated : IsStated source fill text (short label localPart)
  spelled : ∃ (before after : List Turtle.Statement) (filled : Turtle.Object → Turtle.Statement),
    (∀ literal, fill literal = before ++ filled literal :: after) ∧
    ∀ next, (Turtle.tellStatements .initial next (fill (stated text none))).error = none →
      ∃ (earlier later : List Fact) (subject predicate : String) (middle last : Nat),
        Turtle.tell next (String.ofList source) =
          match Turtle.declared? label before.reverse with
          | some iri => ⟨earlier ++
              ⟨subject, predicate, text, some (iri ++ localPart), none⟩ :: later, last, none⟩
          | none => ⟨earlier, middle, some (.undeclared label)⟩

theorem spellsName_at {here behind last : Cursor} {source : List Char}
    {fill : Turtle.Object → List Turtle.Statement} {text label localPart : String}
    (place : Turtle.Place here behind .document (Cursor.start (expandTabs source)) fill last)
    (read : Turtle.quotedLiteral here = .matched (stated text (short label localPart)) behind) :
    SpellsName source fill text label localPart := by
  have isStated := isStated_at place read
  obtain ⟨before, after, filled, whole, told⟩ := place.told_literal
  refine ⟨isStated, before, after, filled, whole, fun next faultless => ?_⟩
  obtain ⟨scope, earlier, later, middle, last, subject, predicate, follows, same⟩ :=
    told next text none none faultless
  refine ⟨earlier, later, subject, predicate, middle, last, ?_⟩
  rw [isStated.told, follows.label]
  refine (same text none (some (.prefixed label localPart))).trans ?_
  rw [Turtle.Scope.expandDatatype, Turtle.Scope.expand]
  cases scope.prefixes.find? label <;> rfl

/-! ## Both together -/

/-- Behind any quoted string the short name of a datatype is read, in every place that a query or a
document has for a literal.  The query keeps it and the document spells it out, and this comes to
the same only if the label stands for itself with its colon. -/
theorem short_datatypes_are_spelled_in_documents_only {here past : Cursor} {text label localPart : String}
    {more : List Char} (quoted : quotedText here = .matched text past) (isLabel : IsLabel label)
    (ahead : past.skipLayout.rest = "^^".toList ++ (colonJoined label localPart ++ more))
    (ends : splitLocal (localPart.toList ++ more) = (localPart.toList, more)) :
    ∃ behind, behind.rest = more ∧ ∀ source,
      (∀ fill last,
        Sparql.Place here behind .query (Cursor.start (expandTabs source)) fill last →
          KeepsName source fill text label localPart) ∧
      (∀ fill last,
        Turtle.Place here behind .document (Cursor.start (expandTabs source)) fill last →
          SpellsName source fill text label localPart) ∧
      ∀ iri, iri ++ localPart = label ++ ":" ++ localPart ↔ iri = label ++ ":" := by
  obtain ⟨behind, rest, carried⟩ := short_at isLabel ahead ends
  refine ⟨behind, rest, fun source => ⟨fun fill last place => ?_, fun fill last place => ?_,
    fun iri => ?_⟩⟩
  · exact keepsName_at place (quotedLiteral_asked quoted carried)
  · exact spellsName_at place (quotedLiteral_stated quoted carried)
  · exact String.append_left_inj localPart

theorem short_datatypes_are_spelled_in_documents_only_declared :
    let inDocument := "\"v\"^^p:t .".toList
    let inQuery := "\"v\"^^p:t \x7d".toList
    IsLabel "p" ∧
      SpellsName ("@prefix p: <http://e.org/> . <s> <p>".toList ++ ' ' :: inDocument)
        (fun literal => [.declare "p" "http://e.org/",
          .triples (.iri (.full "s")) [(.full "p", literal)]]) "v" "p" "t" ∧
      KeepsName ("PREFIX p: <http://e.org/> ASK \x7b ?s ?p".toList ++ ' ' :: inQuery)
        (fun literal => ⟨.ofList [("p", "http://e.org/")], .ask [.triples
          [⟨.term (.variable "s"), .term (.variable "p"), .term literal⟩]]⟩) "v" "p" "t" := by
  intro inDocument inQuery
  have isLabel : IsLabel "p" := by decide
  refine ⟨isLabel, ?_, ?_⟩
  · obtain ⟨⟨before, past⟩, carried, quoted⟩ := @quotedText_at_keep (.short '\x22') ['v']
      "^^p:t .".toList ⟨some '>', ' ' :: inDocument⟩ (by decide) (by decide) (by decide +kernel)
      nofun
    subst carried
    have ahead : (Cursor.mk before "^^p:t .".toList).skipLayout.rest =
        "^^".toList ++ (colonJoined "p" "t" ++ " .".toList) := rfl
    have ends : splitLocal ("t".toList ++ " .".toList) = ("t".toList, " .".toList) := by
      decide +kernel
    have source : expandTabs ("@prefix p: <http://e.org/> . <s> <p>".toList ++ ' ' :: inDocument) =
        "@prefix p: <http://e.org/> . <s> <p>".toList ++ ' ' :: inDocument := by
      decide +kernel
    obtain ⟨⟨mark, more⟩, rest, read⟩ :=
      short_datatypes_are_spelled_in_documents_only quoted isLabel ahead ends
    subst rest
    refine (read _).2.1 _ ⟨some '.', []⟩ ?_
    rw [source]
    exact place_in_statement mark inDocument
  · obtain ⟨⟨before, past⟩, carried, quoted⟩ := @quotedText_at_keep (.short '\x22') ['v']
      "^^p:t \x7d".toList ⟨some 'p', ' ' :: inQuery⟩ (by decide) (by decide) (by decide +kernel)
      nofun
    subst carried
    have ahead : (Cursor.mk before "^^p:t \x7d".toList).skipLayout.rest =
        "^^".toList ++ (colonJoined "p" "t" ++ " \x7d".toList) := rfl
    have ends : splitLocal ("t".toList ++ " \x7d".toList) = ("t".toList, " \x7d".toList) := by
      decide +kernel
    have source : expandTabs
        ("PREFIX p: <http://e.org/> ASK \x7b ?s ?p".toList ++ ' ' :: inQuery) =
          "PREFIX p: <http://e.org/> ASK \x7b ?s ?p".toList ++ ' ' :: inQuery := by
      decide +kernel
    obtain ⟨⟨mark, more⟩, rest, read⟩ :=
      short_datatypes_are_spelled_in_documents_only quoted isLabel ahead ends
    subst rest
    refine (read _).1 _ ⟨some '\x7d', []⟩ ?_
    rw [source]
    exact place_in_pattern mark inQuery

/-- A document has the datatype in full where the query keeps the short name, and ends with a fault
where the query is accepted. -/
theorem short_datatype_disagrees :
    let termsOf := fun text => (Sparql.Query.ofText text).toOption.map fun found =>
      Sparql.Node.termsOf found.group
    Turtle.tell 0 "@prefix p: <http://e.org/> . <s> <p> \"v\"^^p:t ." =
        ⟨[⟨"s", "p", "v", some "http://e.org/t", none⟩], 0, none⟩ ∧
      termsOf "PREFIX p: <http://e.org/> ASK \x7b ?s ?p \"v\"^^p:t \x7d" =
        some [.variable "s", .variable "p", .literal "v" none (some "p:t")] ∧
      Turtle.tell 0 "<s> <p> \"v\"^^p:t ." = ⟨[], 0, some (.undeclared "p")⟩ ∧
      termsOf "ASK \x7b ?s ?p \"v\"^^p:t \x7d" =
        some [.variable "s", .variable "p", .literal "v" none (some "p:t")] := by
  decide +kernel

end FactQuery.Literal
