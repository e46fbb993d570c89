import FactQuery.Proofs.Prepending.Rows
import FactQuery.Proofs.Prepending.Stops
import FactQuery.Proofs.Turtle.Telling

/-!
# Positions of faults behind more text

A fault that lies in a text is found again when a document stands in front of the text, as many
lines further down as the document has.  The document has to end its last line: then tab stops and
columns start anew behind it.
-/

set_option autoImplicit false

namespace FactQuery.Text

/-! ## Tab stops -/

theorem columnBehind_endOfLine (column : Nat) (line : List Char) :
    columnBehind column (line ++ ['\n']) = 0 := by
  induction line generalizing column with
  | nil => rfl
  | cons c rest inductionHypothesis =>
      rw [List.cons_append, columnBehind]
      split
      · exact inductionHypothesis _
      · split
        · exact inductionHypothesis _
        · exact inductionHypothesis _

/-- Behind the end of a line tab stops start anew. -/
theorem expandTabs_behind_line (lines back : List Char) :
    expandTabs (lines ++ ['\n'] ++ back) = expandTabs (lines ++ ['\n']) ++ expandTabs back := by
  rw [expandTabs, expandTabsFrom_append, columnBehind_endOfLine]
  rfl

theorem expandTabs_endOfLine (lines : List Char) :
    expandTabs (lines ++ ['\n']) = expandTabs lines ++ ['\n'] := by
  rw [expandTabs, expandTabsFrom_append]
  rfl

theorem count_expandTabsFrom (column : Nat) (text : List Char) :
    (expandTabsFrom column text).count '\n' = text.count '\n' := by
  induction text generalizing column with
  | nil => rfl
  | cons c rest inductionHypothesis =>
      rw [expandTabsFrom]
      split
      · rename_i isTab
        have tab : c = '\t' := beq_iff_eq.1 isTab
        subst tab
        simp [List.count_replicate, inductionHypothesis]
      · split
        · rw [List.count_cons, List.count_cons, inductionHypothesis]
        · rw [List.count_cons, List.count_cons, inductionHypothesis]

/-! ## Lines -/

namespace Position

def movedDown (lines : Nat) (place : Position) : Position :=
  ⟨place.line + lines, place.column⟩

theorem advance_movedDown (lines : Nat) (text : List Char) (place : Position) :
    (place.movedDown lines).advance text = (place.advance text).movedDown lines := by
  induction text generalizing place with
  | nil => rfl
  | cons c rest inductionHypothesis =>
      have further := inductionHypothesis ⟨place.line + 1, 1⟩
      have along := inductionHypothesis ⟨place.line, place.column + 1⟩
      simp only [advance]
      split
      · rw [← further]
        simp only [movedDown, Nat.add_right_comm]
      · exact along

theorem line_advance (start : Position) (text : List Char) :
    (start.advance text).line = start.line + text.count '\n' := by
  induction text generalizing start with
  | nil => rfl
  | cons c rest inductionHypothesis =>
      rw [advance, List.count_cons]
      split
      · rw [inductionHypothesis, Nat.add_assoc, Nat.add_comm 1]
      · rw [inductionHypothesis]
        rfl

/-- Behind the end of a line stands the first column. -/
theorem advance_endOfLine (start : Position) (lines : List Char) :
    start.advance (lines ++ ['\n']) = ⟨start.line + (lines ++ ['\n']).count '\n', 1⟩ := by
  have line := line_advance start lines
  rw [advance_append, List.count_append]
  show Position.mk ((start.advance lines).line + 1) 1 = _
  rw [line, Nat.add_assoc]
  rfl

/-- Behind the end of a line a place of a text is as many lines further down as there are. -/
theorem ofRemaining_behind_line (lines : List Char) {text rest : List Char}
    (fewer : rest.length ≤ text.length) :
    ofRemaining (lines ++ ['\n'] ++ text) rest =
      (ofRemaining text rest).movedDown ((lines ++ ['\n']).count '\n') := by
  have size : (lines ++ ['\n'] ++ text).length - rest.length =
      (lines ++ ['\n']).length + (text.length - rest.length) := by
    rw [List.length_append]
    omega
  have down : Position.mk (1 + (lines ++ ['\n']).count '\n') 1 =
      (⟨1, 1⟩ : Position).movedDown ((lines ++ ['\n']).count '\n') := rfl
  rw [ofRemaining, after, size, List.take_length_add_append, advance_append, advance_endOfLine,
    down, advance_movedDown]
  rfl

end Position

end FactQuery.Text

namespace FactQuery.Turtle

open FactQuery.Text FactQuery.Grammar

/-! ## Faults without a place -/

/-- A fault that the telling ends in does not lie in the text. -/
def Telling.Unplaced (told : Telling) : Prop :=
  ∀ error, told.error = some error → error.place? = none

namespace Telling.Unplaced

theorem faultless (facts : List Fact) (next : Nat) : Unplaced ⟨facts, next, none⟩ := by
  intro error faulty
  cases faulty

theorem andThen {told : Telling} {more : Nat → Telling} (first : Unplaced told)
    (later : ∀ next, Unplaced (more next)) : Unplaced (told.andThen more) := by
  obtain ⟨facts, next, error⟩ := told
  cases error with
  | some fault => exact first
  | none => exact later next

theorem withValue {α : Type} {value : Except Error α} {more : α → Telling} (next : Nat)
    (unplaced : ∀ error, value = .error error → error.place? = none)
    (later : ∀ found, Unplaced (more found)) : Unplaced (Telling.withValue next value more) := by
  cases value with
  | ok found => exact later found
  | error fault =>
      intro error faulty
      cases faulty
      exact unplaced fault rfl

end Telling.Unplaced

section Scope

variable {scope : Scope} {error : Error}

theorem Scope.resolve_unplaced {reference : String}
    (failed : scope.resolve reference = .error error) : error.place? = none := by
  simp only [Scope.resolve] at failed
  split at failed
  · cases failed
  · cases failed
    rfl

theorem Scope.expand_unplaced {name : Iri} (failed : scope.expand name = .error error) :
    error.place? = none := by
  cases name with
  | full reference => exact resolve_unplaced failed
  | prefixed label localPart =>
      simp only [Scope.expand] at failed
      split at failed
      · cases failed
      · cases failed
        rfl

theorem Scope.expandDatatype_unplaced {datatype : Option Iri}
    (failed : scope.expandDatatype datatype = .error error) : error.place? = none := by
  cases datatype with
  | none => cases failed
  | some name =>
      cases expanded : scope.expand name with
      | ok value => simp [Scope.expandDatatype, expanded, Except.map] at failed
      | error fault =>
          simp only [Scope.expandDatatype, expanded, Except.map, Except.error.injEq] at failed
          exact failed ▸ expand_unplaced expanded

end Scope

mutual

theorem tellProperty_unplaced (scope : Scope) (subject predicate : String) (next : Nat) :
    ∀ object : Object, (tellProperty scope subject predicate next object).Unplaced
  | .iri name => by
      rw [tellProperty]
      exact .withValue next (fun _ => Scope.expand_unplaced) fun _ => .faultless _ _
  | .blank label => by
      rw [tellProperty]
      exact .faultless _ _
  | .literal value language datatype => by
      rw [tellProperty]
      exact .withValue next (fun _ => Scope.expandDatatype_unplaced) fun _ => .faultless _ _
  | .anonymous properties => by
      rw [tellProperty]
      exact .andThen (.faultless _ _) fun next => tellProperties_unplaced scope _ next properties

theorem tellProperties_unplaced (scope : Scope) (subject : String) (next : Nat) :
    ∀ properties : List Property, (tellProperties scope subject next properties).Unplaced
  | [] => .faultless _ _
  | (name, object) :: others => by
      rw [tellProperties]
      exact .withValue next (fun _ => Scope.expand_unplaced) fun predicate =>
        (tellProperty_unplaced scope subject predicate next object).andThen fun next =>
          tellProperties_unplaced scope subject next others

end

theorem tellTriples_unplaced (scope : Scope) (next : Nat) (properties : List Property)
    (subject : Subject) : (tellTriples scope next properties subject).Unplaced := by
  cases subject with
  | iri name =>
      exact .withValue next (fun _ => Scope.expand_unplaced) fun _ =>
        tellProperties_unplaced scope _ next properties
  | blank label => exact tellProperties_unplaced scope _ next properties
  | anonymous own =>
      exact (tellProperties_unplaced scope _ (next + 1) own).andThen fun next =>
        tellProperties_unplaced scope _ next properties

theorem tellStatements_unplaced (found : List Statement) :
    ∀ scope next, (tellStatements scope next found).Unplaced := by
  induction found with
  | nil => exact fun scope next => .faultless [] next
  | cons statement others inductionHypothesis =>
      intro scope next
      cases statement with
      | declare label reference =>
          exact .withValue next (fun _ => Scope.resolve_unplaced) fun _ =>
            inductionHypothesis _ next
      | rebase reference =>
          exact .withValue next (fun _ => Scope.resolve_unplaced) fun _ =>
            inductionHypothesis _ next
      | triples subject properties =>
          exact (tellTriples_unplaced scope next properties subject).andThen fun next =>
            inductionHypothesis scope next

theorem parseStatements_of_placed {next : Nat} {text : String} {error : Error} {place : Position}
    (fails : (tell next text).error = some error) (placed : error.place? = some place) :
    parseStatements text = .error error := by
  unfold tell at fails
  cases read : parseStatements text with
  | ok found =>
      rw [read] at fails
      rw [tellStatements_unplaced found .initial next error fails] at placed
      cases placed
  | error fault =>
      rw [read] at fails
      exact congrArg Except.error (Option.some.inj fails)

/-! ## Faults behind a document -/

namespace Error

def movedTo (place : Position) : Error → Error
  | .malformed _ => .malformed place
  | .badEscape error _ => .badEscape error place
  | .undeclared label => .undeclared label
  | .unresolvable error => .unresolvable error

def movedDown (lines : Nat) (error : Error) : Error :=
  match error.place? with
  | some place => error.movedTo (place.movedDown lines)
  | none => error

end Error

/-- What the reading of a text comes to, given the run of its statements. -/
def verdict (expanded : List Char) : Outcome (List Statement) → Except Error (List Statement)
  | .matched found next =>
    let stop := next.skipLayout.rest
    if stop.isEmpty then .ok found else .error (.malformed (Position.ofRemaining expanded stop))
  | .missed => .error (.malformed (Position.ofRemaining expanded expanded))
  | .aborted error stop => .error (.badEscape error (Position.ofRemaining expanded stop.rest))

theorem parseStatements_eq_verdict (text : String) :
    parseStatements text =
      verdict (expandTabs text.toList) (statements (Cursor.start (expandTabs text.toList))) := rfl

theorem verdict_eq_ok {expanded : List Char} {outcome : Outcome (List Statement)}
    {found : List Statement} (read : verdict expanded outcome = .ok found) :
    ∃ last, outcome = .matched found last ∧ atEnd last := by
  cases outcome with
  | matched values last =>
      simp only [verdict] at read
      split at read
      · rename_i ended
        cases read
        exact ⟨last, rfl, List.isEmpty_iff.1 ended⟩
      · cases read
  | missed => cases read
  | aborted error stop => cases read

/-- A fault of the text behind is found with more lines and statements in front. -/
theorem verdict_behind_line (lines : List Char) {text : List Char} (found : List Statement)
    {outcome : Outcome (List Statement)} {error : Error} (within : outcome.Within text.length)
    (notMissed : outcome ≠ .missed) (fails : verdict text outcome = .error error) :
    verdict (lines ++ ['\n'] ++ text)
        (outcome.andThen fun later next => .matched (found ++ later) next) =
      .error (error.movedDown ((lines ++ ['\n']).count '\n')) := by
  cases outcome with
  | matched values next =>
      have fewer : next.skipLayout.rest.length ≤ text.length :=
        Nat.le_trans (length_skipLayoutFrom_le false next.before next.rest) within
      simp only [verdict] at fails
      split at fails
      · cases fails
      · rename_i more
        cases fails
        simp only [Outcome.andThen, verdict, if_neg more,
          Position.ofRemaining_behind_line lines fewer]
        rfl
  | missed => exact absurd rfl notMissed
  | aborted fault stop =>
      cases fails
      simp only [Outcome.andThen, verdict, Position.ofRemaining_behind_line lines within]
      rfl

theorem parseStatements_behind {front text : String} {found : List Statement} {error : Error}
    (accepted : parseStatements front = .ok found) (endsLine : front.toList.getLast? = some '\n')
    (fails : parseStatements text = .error error) :
    parseStatements (front ++ text) = .error (error.movedDown (front.toList.count '\n')) := by
  have advances : Advances statement := ⟨statement_takes, statement_missesEnd⟩
  obtain ⟨lines, same⟩ := List.getLast?_eq_some_iff.1 endsLine
  have whole : expandTabs (front ++ text).toList =
      expandTabs lines ++ ['\n'] ++ expandTabs text.toList := by
    rw [String.toList_append, same, expandTabs_behind_line, expandTabs_endOfLine]
  have count : (expandTabs lines ++ ['\n']).count '\n' = front.toList.count '\n' := by
    rw [← expandTabs_endOfLine, same]
    exact count_expandTabsFrom 0 _
  rw [parseStatements_eq_verdict] at accepted fails ⊢
  obtain ⟨last, read, ended⟩ := verdict_eq_ok accepted
  rw [same, expandTabs_endOfLine] at read
  obtain ⟨place, sameAhead, behind⟩ :=
    statements_behind ⟨expandTabs lines, rfl⟩ read ended (expandTabs text.toList)
  have within : (statements (Cursor.start (expandTabs text.toList))).Within
      (expandTabs text.toList).length := statement_staysAhead.many _
  have moved := verdict_behind_line (expandTabs lines) found within (many_ne_missed statement _)
    fails
  rw [whole, behind, ← count, ← moved]
  -- The places differ in the character in front, which shows only if no statement is read at all.
  rcases statement_seesAhead.many advances sameAhead with again | ⟨nothing, nothingAgain⟩
  · rw [statements, again]
  · simp only [statements, nothing, nothingAgain, Outcome.andThen, verdict, sameAhead.rest]

/-- A fault that lies in a text is found again behind any document that the grammar accepts and that
ends in a line feed.  It is the same fault, in the same column, and as many lines further down as
the document has line feeds; no fact is told. -/
theorem tell_behind_document {front text : String} {found : List Statement} {error : Error}
    {place : Position} (next other : Nat) (accepted : parseStatements front = .ok found)
    (endsLine : front.toList.getLast? = some '\n') (fails : (tell next text).error = some error)
    (placed : error.place? = some place) :
    tell other (front ++ text) =
      ⟨[], other,
        some (error.movedTo ⟨place.line + front.toList.count '\n', place.column⟩)⟩ := by
  have read := parseStatements_behind accepted endsLine (parseStatements_of_placed fails placed)
  rw [tell, read, Error.movedDown, placed]
  rfl

/-- A bad escape behind a tab in the second line of a text, and a document of three lines with a
comment, a tab and a string over two lines. -/
theorem tell_behind_prefixed :
    let front := "@prefix e: <http://e.org/> . # names\n" ++
      "e:s e:p\t\x22\x22\x22two\nlines\x22\x22\x22 .\n"
    let text := "e:s a e:C .\n\te:s e:p \x22\\q\x22 .\n"
    (tell 0 text).error = some (.badEscape (.unknown 'q') ⟨2, 17⟩) ∧
      tell 0 (front ++ text) = ⟨[], 0, some (.badEscape (.unknown 'q') ⟨5, 17⟩)⟩ := by
  intro front text
  have fails : (tell 0 text).error = some (.badEscape (.unknown 'q') ⟨2, 17⟩) := by decide +kernel
  have reads : (parseStatements front).toOption.isSome = true := by decide +kernel
  obtain ⟨found, accepted⟩ : ∃ found, parseStatements front = .ok found := by
    cases read : parseStatements front with
    | ok found => exact ⟨found, rfl⟩
    | error error => simp [read, Except.toOption] at reads
  refine ⟨fails, ?_⟩
  have lines : front.toList.count '\n' = 3 := by decide +kernel
  have moved := tell_behind_document 0 0 accepted (by decide +kernel) fails rfl
  rw [lines] at moved
  exact moved

end FactQuery.Turtle
