import FactQuery.Proofs.Sparql.LiteralTerms
import FactQuery.Proofs.Token.KeptString
import FactQuery.Proofs.TripleText.Written
import FactQuery.Proofs.Turtle.LiteralTelling
import FactQuery.Sparql.Reading

/-!
# A text between quotes is read as it is

Wherever a document or a query has a literal, any text can stand there between quotes of any style,
with the few escapes that it needs and every other character as it is.  Both languages read the text
back, except that a tab does not survive: it becomes spaces before anything is read.
-/

set_option autoImplicit false

namespace FactQuery.Literal

open FactQuery.Text FactQuery.Grammar FactQuery.Token FactQuery.TripleText

/-! ## A string and what it carries -/

def stated (text : String) (suffix : Option LiteralSuffix) : Turtle.Object :=
  .literal text (language? suffix) (datatype? suffix)

def asked (text : String) (suffix : Option LiteralSuffix) : Sparql.Term :=
  .literal text (language? suffix) ((datatype? suffix).map Iri.written)

section Reading

variable {here past behind last : Cursor} {text : String} {suffix : Option LiteralSuffix}
  {source : List Char}

theorem quotedLiteral_stated (quoted : quotedText here = .matched text past)
    (carried : Parser.optional literalSuffix past = .matched suffix behind) :
    Turtle.quotedLiteral here = .matched (stated text suffix) behind := by
  simp only [Turtle.quotedLiteral, Parser.bind_apply, quoted, carried, Outcome.andThen]
  rcases suffix with _ | (tag | name) <;> rfl

theorem quotedLiteral_asked (quoted : quotedText here = .matched text past)
    (carried : Parser.optional literalSuffix past = .matched suffix behind) :
    Sparql.quotedLiteral here = .matched (asked text suffix) behind := by
  simp only [Sparql.quotedLiteral, Parser.bind_apply, quoted, carried, Outcome.andThen]
  rcases suffix with _ | (tag | name) <;> rfl

theorem parseStatements_at {fill : Turtle.Object → List Turtle.Statement} {literal : Turtle.Object}
    (place : Turtle.Place here behind .document (Cursor.start (expandTabs source)) fill last)
    (read : Turtle.quotedLiteral here = .matched literal behind) :
    Turtle.parseStatements (String.ofList source) = .ok (fill literal) := by
  have run : Turtle.statements (Cursor.start (expandTabs source)) = .matched (fill literal) last :=
    place.run read
  have ended : last.skipLayout.rest = [] := by
    cases place with
    | document amid inside ended => exact ended
  simp [Turtle.parseStatements, run, ended]

theorem parse_at {fill : Sparql.Term → Sparql.Query} {literal : Sparql.Term}
    (place : Sparql.Place here behind .query (Cursor.start (expandTabs source)) fill last)
    (read : Sparql.quotedLiteral here = .matched literal behind) :
    Sparql.Query.parse (String.ofList source) = .ok (fill literal) := by
  have run : Sparql.query (Cursor.start (expandTabs source)) = .matched (fill literal) last :=
    place.run read
  simp [Sparql.Query.parse, run]

end Reading

/-! ## What becomes of a literal -/

/-- A fault ends the telling before the literal, whatever its text; or its fact is told with the
text, and all the rest is the same for every text. -/
def TellsText (language : Option String) (tell : String → Turtle.Telling) : Prop :=
  (∃ told : Turtle.Telling, told.error ≠ none ∧ ∀ text, tell text = told) ∨
    ∃ (earlier later : List Fact) (subject predicate : String) (datatype : Option String)
      (last : Nat) (error : Option Turtle.Error), ∀ text,
        tell text = ⟨earlier ++ ⟨subject, predicate, text, datatype, language⟩ :: later, last, error⟩

/-- A document has the literal in its place and tells its text. -/
structure IsStated (source : List Char) (fill : Turtle.Object → List Turtle.Statement)
    (text : String) (suffix : Option LiteralSuffix) : Prop where
  parsed : Turtle.parseStatements (String.ofList source) = .ok (fill (stated text suffix))
  told : ∀ next, Turtle.tell next (String.ofList source) =
    Turtle.tellStatements .initial next (fill (stated text suffix))
  tells : ∀ next, TellsText (language? suffix) fun text =>
    Turtle.tellStatements .initial next (fill (stated text suffix))

/-- A query has the literal in its place, and its text does not decide whether the query is
accepted. -/
structure IsAsked (source : List Char) (fill : Sparql.Term → Sparql.Query) (text : String)
    (suffix : Option LiteralSuffix) : Prop where
  parsed : Sparql.Query.parse (String.ofList source) = .ok (fill (asked text suffix))
  held : asked text suffix ∈ Sparql.Node.termsOf (fill (asked text suffix)).group
  accepted : (fill (asked "" none)).undeclared? = none →
    Sparql.Query.ofText (String.ofList source) = .ok (fill (asked text suffix))

section Places

variable {here behind last : Cursor} {source : List Char}

theorem tellsText_at {start : Cursor} {fill : Turtle.Object → List Turtle.Statement}
    (place : Turtle.Place here behind .document start fill last) (suffix : Option LiteralSuffix)
    (next : Nat) :
    TellsText (language? suffix) fun text =>
      Turtle.tellStatements .initial next (fill (stated text suffix)) := by
  obtain ⟨_, _, _, _, tells⟩ := place.told
  obtain ⟨front, scope, subject, predicate, rest, -, same⟩ := tells next
  simp only [same, stated, Turtle.tellProperty]
  cases faulty : front.error with
  | some fault =>
      refine .inl ⟨front, by simp [faulty], fun text => ?_⟩
      simp only [Turtle.Telling.andThen, faulty]
  | none =>
      cases expanded : scope.expandDatatype (datatype? suffix) with
      | error fault =>
          refine .inl ⟨⟨front.facts, front.next, some fault⟩, by simp, fun text => ?_⟩
          simp [Turtle.Telling.andThen, Turtle.Telling.withValue, faulty]
      | ok datatype =>
          refine .inr ⟨front.facts, (rest front.next).facts, subject, predicate, datatype,
            (rest front.next).next, (rest front.next).error, fun text => ?_⟩
          simp [Turtle.Telling.andThen, Turtle.Telling.withValue, faulty]

theorem isStated_at {fill : Turtle.Object → List Turtle.Statement} {text : String}
    {suffix : Option LiteralSuffix}
    (place : Turtle.Place here behind .document (Cursor.start (expandTabs source)) fill last)
    (read : Turtle.quotedLiteral here = .matched (stated text suffix) behind) :
    IsStated source fill text suffix := by
  have parsed := parseStatements_at place read
  refine ⟨parsed, fun next => ?_, tellsText_at place suffix⟩
  rw [Turtle.tell, parsed, Turtle.Telling.withValue]

theorem undeclared?_at {start : Cursor} {fill : Sparql.Term → Sparql.Query}
    (place : Sparql.Place here behind .query start fill last) (one other : Sparql.Term)
    (nameless : one.names = [] ∧ other.names = []) :
    (fill one).undeclared? = (fill other).undeclared? := by
  obtain ⟨slots, prefixes, same⟩ := place.hasSlots
  rw [Sparql.Query.undeclared?, Sparql.Query.undeclared?, Sparql.Node.irisOf_eq_terms,
    Sparql.Node.irisOf_eq_terms, slots.names_eq nameless, same, same]

theorem isAsked_at {fill : Sparql.Term → Sparql.Query} {text : String}
    {suffix : Option LiteralSuffix}
    (place : Sparql.Place here behind .query (Cursor.start (expandTabs source)) fill last)
    (read : Sparql.quotedLiteral here = .matched (asked text suffix) behind) :
    IsAsked source fill text suffix := by
  have parsed := parse_at place read
  refine ⟨parsed, place.hasSlots.1.mem _, fun declared => ?_⟩
  rw [undeclared?_at place (asked "" none) (asked text suffix) ⟨rfl, rfl⟩] at declared
  simp [Sparql.Query.ofText, parsed, declared]
  rfl

end Places

/-! ## Two simple places -/

theorem place_in_statement (mark : Option Char) (token : List Char) :
    Turtle.Place ⟨some '>', ' ' :: token⟩ ⟨mark, " .".toList⟩ .document
      (Cursor.start ("@prefix p: <http://e.org/> . <s> <p>".toList ++ ' ' :: token))
      (fun literal => [.declare "p" "http://e.org/",
        .triples (.iri (.full "s")) [(.full "p", literal)]]) ⟨some '.', []⟩ := by
  have property : Turtle.Place ⟨some '>', ' ' :: token⟩ ⟨mark, " .".toList⟩ .group
      ⟨some '>', " <p>".toList ++ ' ' :: token⟩ (fun literal => [(.full "p", literal)])
      ⟨mark, " .".toList⟩ :=
    .group rfl (.first ⟨.stay _, rfl⟩) .literal
  have properties : Turtle.Place ⟨some '>', ' ' :: token⟩ ⟨mark, " .".toList⟩ .properties
      ⟨some '>', " <p>".toList ++ ' ' :: token⟩ (fun literal => [(.full "p", literal)])
      ⟨mark, " .".toList⟩ :=
    .firstGroup property ⟨.stay _, rfl⟩
  have statement : Turtle.Place ⟨some '>', ' ' :: token⟩ ⟨mark, " .".toList⟩ .statement
      ⟨some '.', " <s> <p>".toList ++ ' ' :: token⟩
      (fun literal => .triples (.iri (.full "s")) [(.full "p", literal)]) ⟨some '.', []⟩ :=
    .stated (List.forall_mem_cons.2 ⟨rfl, List.forall_mem_cons.2 ⟨rfl, by simp⟩⟩) rfl properties rfl
  exact .document ⟨.step rfl (.stay _), ⟨.stay _, rfl⟩⟩ statement rfl

theorem place_in_pattern (mark : Option Char) (token : List Char) :
    Sparql.Place ⟨some 'p', ' ' :: token⟩ ⟨mark, " \x7d".toList⟩ .query
      (Cursor.start ("PREFIX p: <http://e.org/> ASK \x7b ?s ?p".toList ++ ' ' :: token))
      (fun literal => ⟨.ofList [("p", "http://e.org/")], .ask [.triples
        [⟨.term (.variable "s"), .term (.variable "p"), .term literal⟩]]⟩)
      ⟨some '\x7d', []⟩ := by
  have predications : Sparql.Place ⟨some 'p', ' ' :: token⟩ ⟨mark, " \x7d".toList⟩ .predications
      ⟨some 's', " ?p".toList ++ ' ' :: token⟩ (fun literal => [(.variable "p", literal)])
      ⟨mark, " \x7d".toList⟩ :=
    .object rfl (.first ⟨.stay _, rfl⟩)
  have block : Sparql.Place ⟨some 'p', ' ' :: token⟩ ⟨mark, " \x7d".toList⟩ .triples
      ⟨some '\x7b', " ?s ?p".toList ++ ' ' :: token⟩
      (fun literal => [⟨.term (.variable "s"), .term (.variable "p"), .term literal⟩])
      ⟨mark, " \x7d".toList⟩ :=
    .firstGroup rfl predications ⟨.stay _, rfl⟩
  have entry : Sparql.Place ⟨some 'p', ' ' :: token⟩ ⟨mark, " \x7d".toList⟩ .entry
      ⟨some '\x7b', " ?s ?p".toList ++ ' ' :: token⟩
      (fun literal => .triples [⟨.term (.variable "s"), .term (.variable "p"), .term literal⟩])
      ⟨mark, " \x7d".toList⟩ :=
    .patterns (List.forall_mem_cons.2 ⟨rfl, List.forall_mem_cons.2 ⟨rfl,
      List.forall_mem_cons.2 ⟨rfl, by simp⟩⟩⟩) block rfl
  have group : Sparql.Place ⟨some 'p', ' ' :: token⟩ ⟨mark, " \x7d".toList⟩ .group
      ⟨some 'K', " \x7b ?s ?p".toList ++ ' ' :: token⟩
      (fun literal => [.triples [⟨.term (.variable "s"), .term (.variable "p"), .term literal⟩]])
      ⟨some '\x7d', []⟩ :=
    .group rfl ⟨.stay _, ⟨.stay _, rfl⟩⟩ entry rfl
  exact .query ⟨.step rfl (.stay _), rfl⟩ (.ask rfl rfl group) rfl

/-! ## Any text but a tab -/

/-- A text between quotes of any style, with the escapes that the style needs, keeps its place when
tabs become spaces.  Where it is a string of its own, it is read back; and in every place that a
document or a query has for a literal, the literal has the text, whatever else the string carries.
-/
theorem kept_text_is_read {style : QuoteStyle} {text : List Char} (known : style ∈ QuoteStyle.all)
    (noTab : '\t' ∉ text) (front back : List Char) :
    let source := front ++ (style.write text ++ back)
    let more := expandTabsFrom (columnBehind 0 (front ++ style.write text)) back
    expandTabs source = expandTabs front ++ (style.write text ++ more) ∧
      ∀ here : Cursor, here.skipLayout.rest = style.write text ++ more →
        (text = [] → ∀ mark, style = .short mark →
          (QuoteStyle.long mark).split? (style.write text ++ more) = none) →
        ∃ past, past.rest = more ∧ quotedText here = .matched (String.ofList text) past ∧
          ∀ suffix behind, Parser.optional literalSuffix past = .matched suffix behind →
            (∀ fill last,
              Turtle.Place here behind .document (Cursor.start (expandTabs source)) fill last →
                IsStated source fill (String.ofList text) suffix) ∧
            ∀ fill last,
              Sparql.Place here behind .query (Cursor.start (expandTabs source)) fill last →
                IsAsked source fill (String.ofList text) suffix := by
  intro source more
  have free : '\t' ∉ style.write text := by
    rw [← QuoteStyle.write_keep]
    exact WrittenString.tab_not_mem_write (QuoteStyle.keep_isValid known noTab)
  refine ⟨expandTabs_around free front back, fun here ahead alone => ?_⟩
  obtain ⟨past, rest, quoted⟩ := quotedText_at_keep known noTab ahead alone
  refine ⟨past, rest, quoted, fun suffix behind carried => ⟨fun fill last place => ?_,
    fun fill last place => ?_⟩⟩
  · exact isStated_at place (quotedLiteral_stated quoted carried)
  · exact isAsked_at place (quotedLiteral_asked quoted carried)

theorem kept_text_is_read_backslash :
    let text := ['a', '\\', 'b']
    let token := (QuoteStyle.short '\x22').write text
    QuoteStyle.short '\x22' ∈ QuoteStyle.all ∧ '\t' ∉ text ∧
      IsStated ("@prefix p: <http://e.org/> . <s> <p> ".toList ++ (token ++ " .".toList))
        (fun literal => [.declare "p" "http://e.org/",
          .triples (.iri (.full "s")) [(.full "p", literal)]]) (String.ofList text) none ∧
      IsAsked ("PREFIX p: <http://e.org/> ASK \x7b ?s ?p ".toList ++ (token ++ " \x7d".toList))
        (fun literal => ⟨.ofList [("p", "http://e.org/")], .ask [.triples
          [⟨.term (.variable "s"), .term (.variable "p"), .term literal⟩]]⟩)
        (String.ofList text) none := by
  intro text token
  have known : QuoteStyle.short '\x22' ∈ QuoteStyle.all := by decide
  have noTab : '\t' ∉ text := by decide
  refine ⟨known, noTab, ?_, ?_⟩
  · have source : expandTabs ("@prefix p: <http://e.org/> . <s> <p> ".toList ++
        (token ++ " .".toList)) =
          "@prefix p: <http://e.org/> . <s> <p>".toList ++ ' ' :: (token ++ " .".toList) := by
      decide +kernel
    have more : expandTabsFrom (columnBehind 0
        ("@prefix p: <http://e.org/> . <s> <p> ".toList ++ token)) " .".toList = " .".toList := by
      decide +kernel
    obtain ⟨-, read⟩ := kept_text_is_read known noTab
      "@prefix p: <http://e.org/> . <s> <p> ".toList " .".toList
    rw [source, more] at read
    obtain ⟨⟨mark, ahead⟩, rest, quoted, further⟩ :=
      read ⟨some '>', ' ' :: (token ++ " .".toList)⟩ (by decide +kernel) nofun
    subst rest
    exact (further none ⟨mark, " .".toList⟩ rfl).1 _ _ (place_in_statement mark _)
  · have source : expandTabs ("PREFIX p: <http://e.org/> ASK \x7b ?s ?p ".toList ++
        (token ++ " \x7d".toList)) =
          "PREFIX p: <http://e.org/> ASK \x7b ?s ?p".toList ++ ' ' :: (token ++ " \x7d".toList) := by
      decide +kernel
    have more : expandTabsFrom (columnBehind 0
        ("PREFIX p: <http://e.org/> ASK \x7b ?s ?p ".toList ++ token)) " \x7d".toList =
          " \x7d".toList := by
      decide +kernel
    obtain ⟨-, read⟩ := kept_text_is_read known noTab
      "PREFIX p: <http://e.org/> ASK \x7b ?s ?p ".toList " \x7d".toList
    rw [source, more] at read
    obtain ⟨⟨mark, ahead⟩, rest, quoted, further⟩ :=
      read ⟨some 'p', ' ' :: (token ++ " \x7d".toList)⟩ (by decide +kernel) nofun
    subst rest
    exact (further none ⟨mark, " \x7d".toList⟩ rfl).2 _ _ (place_in_pattern mark _)

/-- A tab inside a string is read as the spaces up to the next stop, in both languages. -/
theorem tab_is_not_kept :
    let text := ['a', '\t', 'b']
    let token := (QuoteStyle.short '\x22').write text
    let document := String.ofList ("<s> <p> ".toList ++ (token ++ " .".toList))
    let query := String.ofList ("ASK \x7b ?s ?p ".toList ++ (token ++ " \x7d".toList))
    Turtle.tell 0 document = ⟨[⟨"s", "p", "a      b", none, none⟩], 0, none⟩ ∧
      (∀ fact ∈ (Turtle.tell 0 document).facts, fact.object ≠ String.ofList text) ∧
      (Sparql.Query.ofText query).toOption.map (fun found => Sparql.Node.termsOf found.group) =
        some [.variable "s", .variable "p", .literal "a  b" none none] := by
  decide +kernel

end FactQuery.Literal
