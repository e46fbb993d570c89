import FactQuery.Proofs.Sparql.WrittenNames

/-!
# Every name of a query is declared

The check of the labels goes through a tree in the order in which it was built.  It comes to every
name, however deep it stands, and a query that passes it holds no name that would stay as it was
written.  The label that is told when it fails is the first one in the order of the text.
-/

set_option autoImplicit false

namespace FactQuery.Sparql

open FactQuery.Text FactQuery.Grammar

/-! ## Where a name can stand -/

/-- The name stands in a position of a triple pattern or among the operands of a filter, at some
depth. -/
inductive Node.Mentions (name : Iri) : Node → Prop where
  | term : Node.Mentions name (.term (.iri name))
  | left {operator : String} {left right : Node} (inLeft : left.Mentions name) :
      Node.Mentions name (.binary operator left right)
  | right {operator : String} {left right : Node} (inRight : right.Mentions name) :
      Node.Mentions name (.binary operator left right)
  | operand {connective : Connective} {operands : List Node} {operand : Node}
      (inside : operand ∈ operands) (deeper : operand.Mentions name) :
      Node.Mentions name (.logical connective operands)
  | argument {function : String} {arguments : List Node} {argument : Node}
      (inside : argument ∈ arguments) (deeper : argument.Mentions name) :
      Node.Mentions name (.call function arguments)
  | condition {condition : Node} (deeper : condition.Mentions name) :
      Node.Mentions name (.filter condition)
  | position {patterns : List TriplePattern} {pattern : TriplePattern} {node : Node}
      (inside : pattern ∈ patterns) (isPosition : node ∈ pattern.positions)
      (deeper : node.Mentions name) : Node.Mentions name (.triples patterns)
  | group {body : List Node} {entry : Node} (inside : entry ∈ body) (deeper : entry.Mentions name) :
      Node.Mentions name (.group body)
  | optional {body : List Node} {entry : Node} (inside : entry ∈ body)
      (deeper : entry.Mentions name) : Node.Mentions name (.optional body)
  | union {alternatives : List (List Node)} {body : List Node} {entry : Node}
      (isAlternative : body ∈ alternatives) (inside : entry ∈ body)
      (deeper : entry.Mentions name) : Node.Mentions name (.union alternatives)

namespace Node

variable {name : Iri}

theorem mem_irisOfTriple {pattern : TriplePattern} :
    name ∈ irisOfTriple pattern ↔ ∃ node ∈ pattern.positions, name ∈ node.iris := by
  obtain ⟨subject, predicate, object⟩ := pattern
  simp [irisOfTriple, Triple.positions]

/-- The traversal comes to every place where a name can stand. -/
theorem mem_iris_of_mentions {node : Node} (mentions : node.Mentions name) : name ∈ node.iris := by
  induction mentions with
  | term => exact List.mem_singleton.2 rfl
  | left _ found => exact List.mem_append_left _ found
  | right _ found => exact List.mem_append_right _ found
  | condition _ found => exact found
  | operand inside _ found | argument inside _ found | group inside _ found
  | optional inside _ found =>
      rw [iris, irisOf_eq_flatMap]
      exact List.mem_flatMap.2 ⟨_, inside, found⟩
  | position inside isPosition _ found =>
      rw [iris, irisOfTriples_eq_flatMap]
      exact List.mem_flatMap.2 ⟨_, inside, mem_irisOfTriple.2 ⟨_, isPosition, found⟩⟩
  | union isAlternative inside _ found =>
      rw [iris, irisOfGroups_eq_flatMap]
      refine List.mem_flatMap.2 ⟨_, isAlternative, ?_⟩
      rw [irisOf_eq_flatMap]
      exact List.mem_flatMap.2 ⟨_, inside, found⟩

mutual

/-- The traversal comes to nothing else. -/
theorem mentions_of_mem_iris : ∀ node : Node, name ∈ node.iris → node.Mentions name
  | .term (.iri other), found => by
      rw [iris, List.mem_singleton] at found
      rw [found]
      exact .term
  | .term (.variable _), found | .term (.colonless _), found | .term (.literal _ _ _), found
  | .term (.blank _), found => by simp [iris] at found
  | .binary _ left right, found => by
      rcases List.mem_append.1 found with inLeft | inRight
      · exact .left (mentions_of_mem_iris left inLeft)
      · exact .right (mentions_of_mem_iris right inRight)
  | .logical _ operands, found =>
      let ⟨_, inside, deeper⟩ := mentions_of_mem_irisOf operands found
      .operand inside deeper
  | .call _ arguments, found =>
      let ⟨_, inside, deeper⟩ := mentions_of_mem_irisOf arguments found
      .argument inside deeper
  | .filter condition, found => .condition (mentions_of_mem_iris condition found)
  | .triples patterns, found =>
      let ⟨_, inside, _, isPosition, deeper⟩ := mentions_of_mem_irisOfTriples patterns found
      .position inside isPosition deeper
  | .group body, found =>
      let ⟨_, inside, deeper⟩ := mentions_of_mem_irisOf body found
      .group inside deeper
  | .optional body, found =>
      let ⟨_, inside, deeper⟩ := mentions_of_mem_irisOf body found
      .optional inside deeper
  | .union alternatives, found =>
      let ⟨_, isAlternative, _, inside, deeper⟩ := mentions_of_mem_irisOfGroups alternatives found
      .union isAlternative inside deeper

theorem mentions_of_mem_irisOf : ∀ nodes : List Node, name ∈ irisOf nodes →
    ∃ node ∈ nodes, node.Mentions name
  | [], found => absurd found List.not_mem_nil
  | first :: others, found => by
      rcases List.mem_append.1 found with inFirst | inOthers
      · exact ⟨first, List.mem_cons_self, mentions_of_mem_iris first inFirst⟩
      · obtain ⟨node, inside, deeper⟩ := mentions_of_mem_irisOf others inOthers
        exact ⟨node, List.mem_cons_of_mem first inside, deeper⟩

theorem mentions_of_mem_irisOfTriple : ∀ pattern : TriplePattern, name ∈ irisOfTriple pattern →
    ∃ node ∈ pattern.positions, node.Mentions name
  | ⟨subject, predicate, object⟩, found => by
      rcases List.mem_append.1 found with inFront | inObject
      · rcases List.mem_append.1 inFront with inSubject | inPredicate
        · exact ⟨subject, by simp [Triple.positions], mentions_of_mem_iris subject inSubject⟩
        · exact ⟨predicate, by simp [Triple.positions], mentions_of_mem_iris predicate inPredicate⟩
      · exact ⟨object, by simp [Triple.positions], mentions_of_mem_iris object inObject⟩

theorem mentions_of_mem_irisOfTriples : ∀ patterns : List TriplePattern,
    name ∈ irisOfTriples patterns →
      ∃ pattern ∈ patterns, ∃ node ∈ pattern.positions, node.Mentions name
  | [], found => absurd found List.not_mem_nil
  | first :: others, found => by
      rcases List.mem_append.1 found with inFirst | inOthers
      · exact ⟨first, List.mem_cons_self, mentions_of_mem_irisOfTriple first inFirst⟩
      · obtain ⟨pattern, inside, deeper⟩ := mentions_of_mem_irisOfTriples others inOthers
        exact ⟨pattern, List.mem_cons_of_mem first inside, deeper⟩

theorem mentions_of_mem_irisOfGroups : ∀ groups : List (List Node), name ∈ irisOfGroups groups →
    ∃ body ∈ groups, ∃ entry ∈ body, entry.Mentions name
  | [], found => absurd found List.not_mem_nil
  | first :: others, found => by
      rcases List.mem_append.1 found with inFirst | inOthers
      · exact ⟨first, List.mem_cons_self, mentions_of_mem_irisOf first inFirst⟩
      · obtain ⟨body, inside, deeper⟩ := mentions_of_mem_irisOfGroups others inOthers
        exact ⟨body, List.mem_cons_of_mem first inside, deeper⟩

end

theorem mem_iris_iff {node : Node} : name ∈ node.iris ↔ node.Mentions name :=
  ⟨mentions_of_mem_iris node, mem_iris_of_mentions⟩

end Node

namespace Query

/-- The name stands somewhere in the group of the query. -/
def Mentions (query : Query) (name : Iri) : Prop :=
  ∃ entry ∈ query.group, entry.Mentions name

theorem mem_names_iff {query : Query} {name : Iri} : name ∈ query.names ↔ query.Mentions name := by
  rw [names, Node.irisOf_eq_flatMap, List.mem_flatMap]
  simp only [Node.mem_iris_iff, Mentions]

/-! ## The first undeclared name -/

/-- The pieces of the text hold the names that the query mentions, and of those whose label is not
declared the first one has this label. -/
def IsFirstUndeclared (query : Query) (text label : String) : Prop :=
  ∃ front localPart behind last,
    Spells (Cursor.start (expandTabs text.toList)) (front ++ .prefixed label localPart :: behind)
        last ∧
      last.rest = [] ∧
      (∀ name, name ∈ front ++ .prefixed label localPart :: behind ↔ query.Mentions name) ∧
      (∀ name ∈ front, name.isDeclared query.prefixes = true) ∧
      query.prefixes.find? label = none

theorem parse_eq_ok {text : String} {found : Query} (parsed : parse text = .ok found) :
    ∃ last, Sparql.query (Cursor.start (expandTabs text.toList)) = .matched found last := by
  unfold parse at parsed
  simp only at parsed
  split at parsed
  · rename_i query last run
    rw [← Except.ok.inj parsed]
    exact ⟨last, run⟩
  · cases parsed
  · cases parsed

theorem rest_of_query {place last : Cursor} {found : Query}
    (run : Sparql.query place = .matched found last) : last.rest = [] := by
  obtain ⟨_, _, _, formRun⟩ := andThen_eq_matched run
  obtain ⟨_, middle, _, endRun⟩ := andThen_eq_matched formRun
  obtain ⟨_, stop, ended, done⟩ := andThen_eq_matched endRun
  cases done
  unfold endOfText at ended
  simp only at ended
  split at ended
  · rename_i empty
    cases ended
    exact List.isEmpty_iff.1 empty
  · cases ended

/-- A text of the grammar holds the names of its query, each kind with the same one first. -/
theorem spells_of_parse {text : String} {found : Query} (parsed : parse text = .ok found) :
    ∃ written last, Spells (Cursor.start (expandTabs text.toList)) written last ∧ last.rest = [] ∧
      SameFirsts written found.names := by
  obtain ⟨last, run⟩ := parse_eq_ok parsed
  have nothing : Told (Cursor.start (expandTabs text.toList)) []
      (Cursor.start (expandTabs text.toList)) := ⟨[], .nothing, SameFirsts.refl []⟩
  obtain ⟨written, spells, firsts⟩ := query_writes _ _ _ nothing found last run
  exact ⟨written, last, spells, rest_of_query run, firsts⟩

theorem isDeclared_prefixed {prefixes : PrefixTable} {label localPart : String} :
    (Iri.prefixed label localPart).isDeclared prefixes = (prefixes.find? label).isSome := rfl

theorem isFirstUndeclared_of_mentions {text : String} {found : Query}
    (parsed : parse text = .ok found) {label localPart : String}
    (inside : found.Mentions (.prefixed label localPart))
    (undeclared : found.prefixes.find? label = none) :
    ∃ first, found.undeclared? = some first ∧ found.IsFirstUndeclared text first := by
  obtain ⟨written, last, spells, ended, firsts⟩ := spells_of_parse parsed
  have isWritten : .prefixed label localPart ∈ written :=
    (firsts.mem_iff _).2 (mem_names_iff.2 inside)
  have refused : (written.find? fun name => !name.isDeclared found.prefixes).isSome = true := by
    refine List.find?_isSome.2 ⟨_, isWritten, ?_⟩
    rw [isDeclared_prefixed, undeclared]
    rfl
  obtain ⟨first, isFirst⟩ := Option.isSome_iff_exists.1 refused
  obtain ⟨notDeclared, front, behind, rfl, areDeclared⟩ := List.find?_eq_some_iff_append.1 isFirst
  cases first with
  | full value => contradiction
  | «prefixed» firstLabel firstLocal =>
      refine ⟨firstLabel, ?_, front, firstLocal, behind, last, spells, ended, ?_, ?_, ?_⟩
      · rw [undeclared?, ← names, ← firsts, isFirst]
        rfl
      · intro name
        rw [firsts.mem_iff, mem_names_iff]
      · simpa using areDeclared
      · rw [isDeclared_prefixed] at notDeclared
        simpa using notDeclared

/-- What a text is refused for, if the grammar accepts it. -/
theorem ofText_eq_undeclared {text label : String} {found : Query}
    (parsed : parse text = .ok found) (undeclared : found.undeclared? = some label) :
    ofText text = .error (.undeclared label) := by
  rw [ofText, parsed]
  simp only [bind, Except.bind, undeclared]
  rfl

/-- A query that has been read expands every prefixed name to what its label is declared to stand
for, with the local part behind it.  A text that the grammar accepts is refused if it holds a name
with an undeclared label, and the label of the first such name in the text is told. -/
theorem ofText_expands_or_tells_first (text : String) :
    (∀ found, ofText text = .ok found →
      ∀ label localPart, found.Mentions (.prefixed label localPart) →
        ∃ declared, found.prefixes.find? label = some declared ∧
          (Iri.prefixed label localPart).expand found.prefixes = declared ++ localPart) ∧
    ∀ found, parse text = .ok found →
      (∃ label localPart, found.Mentions (.prefixed label localPart) ∧
        found.prefixes.find? label = none) →
      ∃ first, found.IsFirstUndeclared text first ∧
        ofText text = .error (.undeclared first) ∧
        (QueryError.undeclared first).message = "Unknown prefix: " ++ first := by
  constructor
  · intro found read label localPart inside
    obtain ⟨parsed, passes⟩ := ofText_eq_ok_iff.1 read
    cases search : found.prefixes.find? label with
    | none =>
        obtain ⟨first, told, _⟩ := isFirstUndeclared_of_mentions parsed inside search
        rw [passes] at told
        contradiction
    | some declared => exact ⟨declared, rfl, by simp only [Iri.expand, search]⟩
  · rintro found parsed ⟨label, localPart, inside, undeclared⟩
    obtain ⟨first, told, isFirst⟩ := isFirstUndeclared_of_mentions parsed inside undeclared
    exact ⟨first, isFirst, ofText_eq_undeclared parsed told, rfl⟩

/-- A query with names in a call, behind a comma and in both parts of a union. -/
def scatteredQuery (declarations : String) : String :=
  declarations ++ "SELECT * WHERE \x7b ?s ex:p 1 , ex:a ; a ex:b . FILTER(?s = F(1 + G(ex:c))) " ++
    "OPTIONAL \x7b \x7b ?s first:x ?o \x7d UNION \x7b ?s ?p later:y \x7d \x7d \x7d"

theorem scatteredQuery_expands_or_tells_first :
    (∃ found, ofText (scatteredQuery
        "PREFIX ex: <e/> PREFIX first: <f/> PREFIX later: <l/> ") = .ok found ∧
      found.Mentions (.prefixed "later" "y") ∧
      (Iri.prefixed "later" "y").expand found.prefixes = "l/y") ∧
    ∃ found, parse (scatteredQuery "PREFIX ex: <e/> ") = .ok found ∧
      found.IsFirstUndeclared (scatteredQuery "PREFIX ex: <e/> ") "first" ∧
      ofText (scatteredQuery "PREFIX ex: <e/> ") = .error (.undeclared "first") := by
  constructor
  · have checked : (ofText (scatteredQuery
        "PREFIX ex: <e/> PREFIX first: <f/> PREFIX later: <l/> ")).toOption.map
          (fun found => (found.names.contains (.prefixed "later" "y"),
            found.prefixes.find? "later")) = some (true, some "l/") := by
      decide +kernel
    cases read : ofText (scatteredQuery
        "PREFIX ex: <e/> PREFIX first: <f/> PREFIX later: <l/> ") with
    | error error =>
        rw [read] at checked
        contradiction
    | ok found =>
        rw [read] at checked
        obtain ⟨contains, isDeclared⟩ := Prod.mk.inj (Option.some.inj checked)
        have inside : found.Mentions (.prefixed "later" "y") :=
          mem_names_iff.1 (List.contains_iff_mem.1 contains)
        obtain ⟨declared, found?, expands⟩ :=
          (ofText_expands_or_tells_first _).1 found read _ _ inside
        rw [isDeclared] at found?
        cases found?
        exact ⟨found, rfl, inside, expands⟩
  · have checked : (parse (scatteredQuery "PREFIX ex: <e/> ")).toOption.map
        (fun found => (found.names.contains (.prefixed "later" "y"), found.prefixes.find? "later",
          found.undeclared?)) = some (true, none, some "first") := by
      decide +kernel
    cases parsed : parse (scatteredQuery "PREFIX ex: <e/> ") with
    | error error =>
        rw [parsed] at checked
        contradiction
    | ok found =>
        rw [parsed] at checked
        obtain ⟨contains, others⟩ := Prod.mk.inj (Option.some.inj checked)
        obtain ⟨undeclared, told⟩ := Prod.mk.inj others
        have inside : found.Mentions (.prefixed "later" "y") :=
          mem_names_iff.1 (List.contains_iff_mem.1 contains)
        obtain ⟨first, isFirst, refused, _⟩ :=
          (ofText_expands_or_tells_first _).2 found parsed ⟨_, _, inside, undeclared⟩
        rw [ofText_eq_undeclared parsed told] at refused
        cases refused
        exact ⟨found, rfl, isFirst, ofText_eq_undeclared parsed told⟩

end Query

end FactQuery.Sparql
