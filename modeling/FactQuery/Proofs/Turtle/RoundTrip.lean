import FactQuery.Proofs.Turtle.Canonical
import FactQuery.Proofs.Turtle.Statement

/-!
# Canonical documents are read back

Each part of a canonical statement is read for what it stands for, by the alternative of the grammar
that is meant for it and after all earlier ones have refused it.  A document is read statement by
statement, by induction on its triples; the facts told are the facts that were written.
-/

set_option autoImplicit false

namespace FactQuery.Turtle.Canonical

open FactQuery.Text FactQuery.Grammar FactQuery.Token

/-! ## Parts of a statement -/

theorem blankLabel_reads {gap rest : List Char} (blank : IsGap gap) (label : Label)
    (stops : Stops isLocalChar rest) :
    Reads blankLabel (gap ++ '_' :: ':' :: label.val.toList) label.val rest := by
  obtain ⟨label, nonempty, isLocal⟩ := label
  have starts : Stops isLayoutStart ('_' :: ':' :: label.toList ++ rest) := rfl
  have scanned : scanBlankLabel ('_' :: ':' :: label.toList ++ rest) =
      some ('_' :: ':' :: label.toList, rest) := by
    simp only [List.cons_append, scanBlankLabel, splitLocal_append isLocal stops,
      List.isEmpty_iff, nonempty, if_false]
  have read : Reads blankLabel (gap ++ '_' :: ':' :: label.toList)
      (String.ofList (('_' :: ':' :: label.toList).drop 2)) rest :=
    (lexeme_reads blank starts scanned).bind_pure
  rw [List.drop_succ_cons, List.drop_succ_cons, List.drop_zero, String.ofList_toList] at read
  exact read

theorem iri_misses_blank {gap : List Char} (blank : IsGap gap) (label : Label)
    (rest : List Char) : Misses iri (gap ++ '_' :: ':' :: label.val.toList ++ rest) := by
  rw [List.append_assoc]
  exact iri_misses blank rfl rfl

theorem subject_reads {gap rest : List Char} (blank : IsGap gap) (resource : Resource)
    (stops : Stops isLocalChar rest) :
    Reads subject (gap ++ resource.write) resource.asSubject rest := by
  cases resource with
  | iri name => exact Reads.firstOf_here (iri_reads_full blank name.property).bind_pure
  | blank label =>
      have read : Reads (Subject.blank <$> blankLabel) (gap ++ (Resource.blank label).write)
          (.blank label) rest :=
        (blankLabel_reads blank label stops).bind_pure
      exact read.firstOf_here.firstOf_later (iri_misses_blank blank label rest).map

theorem Mark.isFullSuffix (mark : Mark) : IsFullSuffix mark.suffix := by
  cases mark with
  | plain => trivial
  | language tag => exact tag.property
  | datatype name => exact name.property

theorem quotedLiteral_reads {gap rest : List Char} (blank : IsGap gap) (text : String) (mark : Mark)
    (ends : EndsTerm rest) :
    Reads quotedLiteral (gap ++ (Value.literal text mark).write)
      (Value.literal text mark).asObject rest := by
  cases mark with
  | plain => exact literal_reads blank Mark.plain.isFullSuffix ends.literal rfl
  | language tag => exact literal_reads blank (Mark.language tag).isFullSuffix ends.literal rfl
  | datatype name => exact literal_reads blank (Mark.datatype name).isFullSuffix ends.literal rfl

theorem object_reads (inner : Parser (List Property)) (value : Value) (rest : List Char) :
    Reads (object inner) ([' '] ++ value.write) value.asObject (ending rest) := by
  have blank : IsGap [' '] := IsGap.space
  cases value with
  | resource node =>
      cases node with
      | iri name => exact Reads.firstOf_here (iri_reads_full blank name.property).bind_pure
      | blank label =>
          have stops : Stops isLocalChar (ending rest) := rfl
          have read : Reads (Object.blank <$> blankLabel)
              ([' '] ++ (Value.resource (.blank label)).write) (.blank label) (ending rest) :=
            (blankLabel_reads blank label stops).bind_pure
          exact read.firstOf_here.firstOf_later (iri_misses_blank blank label (ending rest)).map
  | literal text mark =>
      have ends : EndsTerm (ending rest) := EndsTerm.space rfl rfl
      have read := quotedLiteral_reads blank text mark ends
      have starts : Stops isLayoutStart ((Value.literal text mark).write ++ ending rest) :=
        rfl
      exact object_reads_literal (iri_misses blank starts rfl) (nodes_miss inner blank starts rfl)
        read.firstOf_here

theorem properties_reads (predicate : Name) (value : Value) (rest : List Char) :
    Reads properties ([' '] ++ angled predicate ++ ([' '] ++ value.write))
      [(.full predicate, value.asObject)] (ending rest) := by
  have name : Reads Turtle.predicate ([' '] ++ angled predicate) (.full predicate)
      ([' '] ++ value.write ++ ending rest) :=
    (iri_reads_full IsGap.space predicate.property).firstOf_here
  exact properties_reads_single name fun inner => object_reads inner value rest

/-! ## Statements and documents -/

theorem triples_reads {gap : List Char} (blank : IsGap gap) (triple : Triple) (rest : List Char) :
    Reads triples (gap ++ triple.write) triple.asStatement rest := by
  obtain ⟨subject, predicate, value⟩ := triple
  have subjectStops : Stops isLocalChar
      ([' '] ++ angled predicate ++ ([' '] ++ value.write) ++ ending rest) := rfl
  have about := subject_reads blank subject subjectStops
  have whole := triples_reads_stated about (properties_reads predicate value rest)
  have same : gap ++ (Triple.mk subject predicate value).write = gap ++ subject.write ++
      ([' '] ++ angled predicate ++ ([' '] ++ value.write) ++ [' ', '.']) := by
    simp only [Triple.write, List.append_assoc]
  rw [same]
  exact whole

theorem statement_reads {gap : List Char} (blank : IsGap gap) (triple : Triple)
    (rest : List Char) :
    Reads statement (gap ++ triple.write) triple.asStatement rest := by
  have noDirective : Misses declaration (gap ++ triple.write ++ rest) ∧
      Misses baseDirective (gap ++ triple.write ++ rest) := by
    obtain ⟨subject, predicate, value⟩ := triple
    rw [List.append_assoc]
    cases subject with
    | iri name => exact directives_miss blank rfl rfl (Nat.zero_lt_succ 3)
    | blank label => exact directives_miss blank rfl rfl (Nat.succ_lt_succ (Nat.zero_lt_succ 2))
  exact ((triples_reads blank triple rest).firstOf_here.firstOf_later
    noDirective.2).firstOf_later noDirective.1

theorem statements_readsEach (triples : List Triple) :
    ReadsEach statement (triples.flatMap fun triple => ['\n'] ++ triple.write)
      (triples.map Triple.asStatement) ['\n'] := by
  induction triples with
  | nil => exact ReadsEach.stop (statement_misses_end IsGap.lineEnd)
  | cons triple others inductionHypothesis =>
      rw [List.flatMap_cons, List.map_cons]
      exact ReadsEach.more (by simp) (statement_reads IsGap.lineEnd triple _) inductionHypothesis

theorem Resource.tab_not_mem_write (resource : Resource) : '\t' ∉ resource.write := by
  cases resource with
  | iri name => exact tab_not_mem_angled name.property
  | blank label =>
      have inside : '\t' ∉ label.val.toList := not_mem_run label.property.2.2.1 (by decide)
      simp [Resource.write, inside]

theorem Value.tab_not_mem_write (value : Value) : '\t' ∉ value.write := by
  cases value with
  | resource node => exact node.tab_not_mem_write
  | literal text mark =>
      rw [Value.write, List.mem_append, not_or]
      exact ⟨tab_not_mem_quote text.toList, tab_not_mem_writeSuffix mark.isFullSuffix⟩

theorem tab_not_mem_document (triples : List Triple) : '\t' ∉ (document triples).toList := by
  rw [document, String.toList_ofList]
  intro inside
  obtain ⟨triple, _, written⟩ := List.mem_flatMap.1 inside
  have subject := triple.subject.tab_not_mem_write
  have predicate := tab_not_mem_angled triple.predicate.property
  have object := triple.object.tab_not_mem_write
  simp [Triple.write, subject, predicate, object] at written

theorem parseStatements_document (triples : List Triple) :
    parseStatements (document triples) = .ok (triples.map Triple.asStatement) := by
  have noTab := tab_not_mem_document triples
  cases triples with
  | nil => rfl
  | cons triple others =>
      have first := statement_reads IsGap.nil triple
        ((others.flatMap fun triple => ['\n'] ++ triple.write) ++ ['\n']) none
      rw [document, flatMap_lines] at noTab ⊢
      rw [String.toList_ofList] at noTab
      exact parseStatements_of_readsEach noTab (by simp [Triple.write]) first
        (statements_readsEach others) IsGap.lineEnd

/-- Reading undoes canonical writing: the facts told are those of the triples, in order and with
their datatypes and languages, no number is used up and no fault is found. -/
theorem tell_document (next : Nat) (triples : List Triple) :
    tell next (document triples) = ⟨triples.map Triple.fact, next, none⟩ := by
  rw [tell, parseStatements_document]
  exact tellStatements_asStatement next triples

end FactQuery.Turtle.Canonical
