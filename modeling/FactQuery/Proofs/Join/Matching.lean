import FactQuery.Proofs.Evaluation.Rejection
import Mathlib.Data.Multiset.Sections

/-!
# The join in any order

A matching gives each pattern a fact.  Neither the patterns nor the facts of a matching stand in an
order, and what a matching says about the variables can be told from it alone: a variable that
occurs in one of its patterns has the value that every solution gives it, and any other variable has
none.  The rows of the join, as mappings from variables to values, are what the matchings say that
can be solved, each as often as it comes.
-/

set_option autoImplicit false

namespace FactQuery

open FactQuery.Sparql

/-- What rows have in common that bind the same variables to the same values. -/
abbrev Mapping : Type :=
  String → Option (Option String)

namespace ResolvedTerm

theorem find?_write (term : ResolvedTerm) (value : String) (row : Row) (name : String) :
    (term.write value row).find? name =
      if term = .variable name then some (some value) else row.find? name := by
  cases term with
  | «variable» other =>
      simp only [write, Row.bind, OrderedMap.find?_insert, ResolvedTerm.variable.injEq,
        eq_comm (a := other)]
  | identifier text => simp [write]
  | literal text datatype language => simp [write]

end ResolvedTerm

namespace ResolvedPattern

def Mentions (pattern : ResolvedPattern) (name : String) : Prop :=
  pattern.subject = .variable name ∨ pattern.predicate = .variable name ∨
    pattern.object = .variable name

instance (pattern : ResolvedPattern) (name : String) : Decidable (pattern.Mentions name) :=
  inferInstanceAs (Decidable (_ ∨ _ ∨ _))

theorem find?_write {pattern : ResolvedPattern} {fact : Fact} {assignment : Assignment}
    (solved : assignment.Solves pattern fact) (row : Row) (name : String) :
    (pattern.write fact row).find? name =
      if pattern.Mentions name then some (some (assignment name)) else row.find? name := by
  obtain ⟨subjectSolved, predicateSolved, objectSolved⟩ := solved
  have written : ∀ {term : ResolvedTerm} {value : String}, term.under assignment = value →
      term = .variable name → value = assignment name := by
    rintro term value solved rfl
    exact solved.symm
  simp only [write, ResolvedTerm.find?_write]
  by_cases inObject : pattern.object = .variable name
  · have mentioned : pattern.Mentions name := Or.inr (Or.inr inObject)
    rw [if_pos inObject, if_pos mentioned, written objectSolved inObject]
  · rw [if_neg inObject]
    by_cases inPredicate : pattern.predicate = .variable name
    · have mentioned : pattern.Mentions name := Or.inr (Or.inl inPredicate)
      rw [if_pos inPredicate, if_pos mentioned, written predicateSolved inPredicate]
    · rw [if_neg inPredicate]
      by_cases inSubject : pattern.subject = .variable name
      · have mentioned : pattern.Mentions name := Or.inl inSubject
        rw [if_pos inSubject, if_pos mentioned, written subjectSolved inSubject]
      · have nowhere : ¬pattern.Mentions name := by
          rintro (here | here | here) <;> contradiction
        rw [if_neg inSubject, if_neg nowhere]

end ResolvedPattern

/-! ## What a matching says -/

abbrev Pairing : Type :=
  ResolvedPattern × Fact

def Binds (pairings : List Pairing) (name : String) : Prop :=
  ∃ pairing ∈ pairings, pairing.1.Mentions name

instance (pairings : List Pairing) (name : String) : Decidable (Binds pairings name) :=
  inferInstanceAs (Decidable (∃ pairing ∈ pairings, _))

def SolvesAll (assignment : Assignment) (pairings : List Pairing) : Prop :=
  ∀ pairing ∈ pairings, assignment.Solves pairing.1 pairing.2

theorem solvesAll_iff {assignment : Assignment} {pairings : List Pairing} :
    SolvesAll assignment pairings ↔
      List.Forall₂ assignment.Solves (pairings.map Prod.fst) (pairings.map Prod.snd) := by
  rw [List.forall₂_map_left_iff, List.forall₂_map_right_iff, List.forall₂_same]
  rfl

theorem find?_writeAll {pairings : List Pairing} {assignment : Assignment}
    (solved : SolvesAll assignment pairings) (row : Row) (name : String) :
    (writeAll row (pairings.map Prod.fst) (pairings.map Prod.snd)).find? name =
      if Binds pairings name then some (some (assignment name)) else row.find? name := by
  induction pairings generalizing row with
  | nil => simp [writeAll, Binds]
  | cons pairing others inductionHypothesis =>
      have here : assignment.Solves pairing.1 pairing.2 := solved pairing List.mem_cons_self
      have later : SolvesAll assignment others :=
        fun other inside => solved other (List.mem_cons_of_mem pairing inside)
      rw [List.map_cons, List.map_cons, writeAll, inductionHypothesis later,
        ResolvedPattern.find?_write here]
      by_cases inOthers : Binds others name
      · have somewhere : Binds (pairing :: others) name := by
          obtain ⟨other, inside, mentioned⟩ := inOthers
          exact ⟨other, List.mem_cons_of_mem pairing inside, mentioned⟩
        rw [if_pos inOthers, if_pos somewhere]
      · have onlyHere : Binds (pairing :: others) name ↔ pairing.1.Mentions name := by
          simp only [Binds, List.exists_mem_cons_iff]
          exact or_iff_left inOthers
        rw [if_neg inOthers]
        simp only [onlyHere]

/-- The mapping that pairings lead to, if some assignment solves them all. -/
def mappingOf (pairings : List Pairing) : Option Mapping :=
  (meetAll .empty (pairings.map Prod.fst) (pairings.map Prod.snd)).map OrderedMap.find?

theorem mappingOf_of_solved {pairings : List Pairing} {assignment : Assignment}
    (solved : SolvesAll assignment pairings) :
    mappingOf pairings =
      some fun name => if Binds pairings name then some (some (assignment name)) else none := by
  have solvable : Solvable (pairings.map Prod.fst) (pairings.map Prod.snd) :=
    ⟨assignment, solvesAll_iff.1 solved⟩
  rw [mappingOf, meetAll_empty, if_pos solvable, Option.map_some]
  congr 1
  funext name
  exact find?_writeAll solved .empty name

theorem mappingOf_eq_none {pairings : List Pairing}
    (unsolvable : ¬∃ assignment, SolvesAll assignment pairings) : mappingOf pairings = none := by
  have noTuple : ¬Solvable (pairings.map Prod.fst) (pairings.map Prod.snd) := by
    rintro ⟨assignment, solved⟩
    exact unsolvable ⟨assignment, solvesAll_iff.2 solved⟩
  rw [mappingOf, meetAll_empty, if_neg noTuple, Option.map_none]

/-- The order of the pairings does not show in the mapping. -/
theorem mappingOf_perm {pairings others : List Pairing} (same : pairings.Perm others) :
    mappingOf pairings = mappingOf others := by
  have solvesSame : ∀ assignment, SolvesAll assignment pairings ↔ SolvesAll assignment others := by
    intro assignment
    simp only [SolvesAll, same.mem_iff]
  have bindsSame : ∀ name, Binds pairings name ↔ Binds others name := by
    intro name
    simp only [Binds, same.mem_iff]
  by_cases solvable : ∃ assignment, SolvesAll assignment pairings
  · obtain ⟨assignment, solved⟩ := solvable
    rw [mappingOf_of_solved solved, mappingOf_of_solved ((solvesSame assignment).1 solved)]
    simp only [bindsSame]
  · have unsolvable : ¬∃ assignment, SolvesAll assignment others := by
      rintro ⟨assignment, solved⟩
      exact solvable ⟨assignment, (solvesSame assignment).2 solved⟩
    rw [mappingOf_eq_none solvable, mappingOf_eq_none unsolvable]

/-- What a matching says about the variables, if it can be solved. -/
def mappingOfMatching (matching : Multiset Pairing) : Option Mapping :=
  Quotient.lift mappingOf (fun _ _ same => mappingOf_perm same) matching

/-! ## All matchings -/

/-- Every way to give each pattern one of the facts. -/
def matchings (facts : Multiset Fact) (patterns : Multiset ResolvedPattern) :
    Multiset (Multiset Pairing) :=
  (patterns.map fun pattern => facts.map fun fact => (pattern, fact)).Sections

theorem matchings_cons (facts : Multiset Fact) (pattern : ResolvedPattern)
    (patterns : Multiset ResolvedPattern) :
    matchings facts (pattern ::ₘ patterns) =
      facts.bind fun fact => (matchings facts patterns).map ((pattern, fact) ::ₘ ·) := by
  rw [matchings, Multiset.map_cons, Multiset.sections_cons, Multiset.bind_map]
  rfl

/-- The tuples of places go through the matchings, each as often as it comes. -/
theorem matchings_eq_map (facts : List Fact) (patterns : List ResolvedPattern) :
    matchings facts patterns =
      ((placeTuples facts.length patterns.length).map fun places =>
        (patterns.zip (factsAt facts places) : Multiset Pairing) : List (Multiset Pairing)) := by
  induction patterns with
  | nil => rfl
  | cons pattern patterns inductionHypothesis =>
      have enumerated : (facts : Multiset Fact) =
          (List.finRange facts.length : Multiset (Fin facts.length)).map facts.get := by
        rw [Multiset.map_coe, List.map_get_finRange]
      rw [← Multiset.cons_coe, matchings_cons, inductionHypothesis]
      conv_lhs =>
        enter [1]
        rw [enumerated]
      rw [Multiset.bind_map, List.length_cons, placeTuples, List.map_flatMap, ← Multiset.coe_bind]
      refine Multiset.bind_congr fun place _ => ?_
      rw [Multiset.map_coe, List.map_map, List.map_map]
      rfl

/-- The rows of the join are what the matchings say. -/
theorem mappings_joinPatterns (facts : List Fact) (prefixes : PrefixTable)
    {patterns : List TriplePattern} {resolved : List ResolvedPattern}
    (wellFormed : patterns.mapM (ResolvedPattern.ofPattern prefixes) = .ok resolved) :
    ∃ joined, joinPatterns facts prefixes patterns = .ok joined ∧
      (joined.rows.map OrderedMap.find? : Multiset Mapping) =
        (matchings facts resolved).filterMap mappingOfMatching := by
  obtain ⟨joined, run, found⟩ := joinFrom_rows facts prefixes .start wellFormed
  refine ⟨joined, run, ?_⟩
  simp only [Joined.start, List.flatMap_cons, List.flatMap_nil, List.append_nil] at found
  rw [matchings_eq_map, Multiset.filterMap_coe, found, List.map_filterMap, List.filterMap_map]
  congr 1
  refine List.filterMap_congr fun places inside => ?_
  have sizes : (factsAt facts places).length = resolved.length := by
    rw [factsAt, List.length_map, mem_placeTuples.1 inside]
  have parts : (resolved.zip (factsAt facts places)).map Prod.fst = resolved ∧
      (resolved.zip (factsAt facts places)).map Prod.snd = factsAt facts places :=
    ⟨List.map_fst_zip (le_of_eq sizes.symm), List.map_snd_zip (le_of_eq sizes)⟩
  change _ = mappingOf (resolved.zip (factsAt facts places))
  rw [mappingOf, parts.1, parts.2]

/-! ## Patterns and facts in any order -/

theorem mapM_eq_ok_iff {prefixes : PrefixTable} {patterns : List TriplePattern}
    {resolved : List ResolvedPattern} :
    patterns.mapM (ResolvedPattern.ofPattern prefixes) = .ok resolved ↔
      List.Forall₂ (fun pattern ready => ResolvedPattern.ofPattern prefixes pattern = .ok ready)
        patterns resolved := by
  induction patterns generalizing resolved with
  | nil =>
      rw [List.forall₂_nil_left_iff, List.mapM_nil]
      exact ⟨fun run => (Except.ok.inj run).symm, fun same => same ▸ rfl⟩
  | cons pattern others inductionHypothesis =>
      rw [List.mapM_cons, bind_eq_ok_iff, List.forall₂_cons_left_iff]
      constructor
      · rintro ⟨ready, here, run⟩
        obtain ⟨later, others, run⟩ := bind_eq_ok_iff.1 run
        exact ⟨ready, later, here, inductionHypothesis.1 others, (Except.ok.inj run).symm⟩
      · rintro ⟨ready, later, here, others, rfl⟩
        exact ⟨ready, here, bind_eq_ok_iff.2 ⟨later, inductionHypothesis.2 others, rfl⟩⟩

theorem exists_mapM_of_isMatchable (prefixes : PrefixTable) {patterns : List TriplePattern}
    (wellFormed : ∀ pattern ∈ patterns, pattern.isMatchable = true) :
    ∃ resolved, patterns.mapM (ResolvedPattern.ofPattern prefixes) = .ok resolved := by
  induction patterns with
  | nil => exact ⟨[], rfl⟩
  | cons pattern others inductionHypothesis =>
      rw [List.forall_mem_cons] at wellFormed
      obtain ⟨ready, here⟩ :=
        (ResolvedPattern.exists_ofPattern_iff prefixes).2 wellFormed.1
      obtain ⟨later, run⟩ := inductionHypothesis wellFormed.2
      exact ⟨ready :: later, mapM_eq_ok_iff.2 (.cons here (mapM_eq_ok_iff.1 run))⟩

theorem exists_mapM_perm {prefixes : PrefixTable} {patterns reordered : List TriplePattern}
    {resolved : List ResolvedPattern} (same : patterns.Perm reordered)
    (run : patterns.mapM (ResolvedPattern.ofPattern prefixes) = .ok resolved) :
    ∃ again, reordered.mapM (ResolvedPattern.ofPattern prefixes) = .ok again ∧
      again.Perm resolved := by
  obtain ⟨again, rerun, reorderedSame⟩ := List.perm_comp_forall₂ same.symm (mapM_eq_ok_iff.1 run)
  exact ⟨again, mapM_eq_ok_iff.2 rerun, reorderedSame⟩

/-- Neither the order of the patterns nor the order of the facts shows in the rows: as mappings from
variables to values, each row comes as often in one order as in the other. -/
theorem joinPatterns_perm (prefixes : PrefixTable) {facts reloaded : List Fact}
    {patterns reordered : List TriplePattern}
    (wellFormed : ∀ pattern ∈ patterns, pattern.isMatchable = true)
    (samePatterns : patterns.Perm reordered) (sameFacts : facts.Perm reloaded) :
    ∃ joined rejoined, joinPatterns facts prefixes patterns = .ok joined ∧
      joinPatterns reloaded prefixes reordered = .ok rejoined ∧
      (joined.rows.map OrderedMap.find?).Perm (rejoined.rows.map OrderedMap.find?) := by
  obtain ⟨resolved, first⟩ := exists_mapM_of_isMatchable prefixes wellFormed
  obtain ⟨again, second, same⟩ := exists_mapM_perm samePatterns first
  obtain ⟨joined, run, mappings⟩ := mappings_joinPatterns facts prefixes first
  obtain ⟨rejoined, rerun, remappings⟩ := mappings_joinPatterns reloaded prefixes second
  refine ⟨joined, rejoined, run, rerun, ?_⟩
  have sameBag : (facts : Multiset Fact) = reloaded := Multiset.coe_eq_coe.2 sameFacts
  have sameResolved : (again : Multiset ResolvedPattern) = resolved := Multiset.coe_eq_coe.2 same
  rw [← Multiset.coe_eq_coe, mappings, remappings, sameBag, sameResolved]

/-- Two patterns with two variables in common and a fact that comes twice.  The patterns and the
facts are turned round; the rows then bind their variables in another order. -/
theorem joinPatterns_perm_cycle :
    let first : TriplePattern :=
      ⟨.term (.variable "x"), .term (.iri (.full "p")), .term (.variable "y")⟩
    let second : TriplePattern :=
      ⟨.term (.variable "y"), .term (.variable "z"), .term (.variable "x")⟩
    let facts : List Fact := [⟨"a", "p", "b", none, none⟩, ⟨"a", "p", "b", none, none⟩,
      ⟨"b", "q", "a", none, none⟩]
    (∀ pattern ∈ [first, second], pattern.isMatchable = true) ∧
      [first, second].Perm [second, first] ∧ facts.Perm facts.reverse ∧
      ∃ joined rejoined, joinPatterns facts .empty [first, second] = .ok joined ∧
        joinPatterns facts.reverse .empty [second, first] = .ok rejoined ∧
        joined.rows = [.ofList [("x", some "a"), ("y", some "b"), ("z", some "q")],
          .ofList [("x", some "a"), ("y", some "b"), ("z", some "q")]] ∧
        (joined.rows.map OrderedMap.find?).Perm (rejoined.rows.map OrderedMap.find?) := by
  intro first second facts
  have wellFormed : ∀ pattern ∈ [first, second], pattern.isMatchable = true := by decide
  have samePatterns : [first, second].Perm [second, first] := List.Perm.swap second first []
  have sameFacts : facts.Perm facts.reverse := facts.reverse_perm.symm
  obtain ⟨joined, rejoined, run, rerun, same⟩ :=
    joinPatterns_perm .empty wellFormed samePatterns sameFacts
  refine ⟨wellFormed, samePatterns, sameFacts, joined, rejoined, run, rerun, ?_, same⟩
  have found : (joinPatterns facts .empty [first, second]).toOption.map Joined.rows =
      some [.ofList [("x", some "a"), ("y", some "b"), ("z", some "q")],
        .ofList [("x", some "a"), ("y", some "b"), ("z", some "q")]] := by
    decide +kernel
  rw [run] at found
  exact Option.some.inj found

end FactQuery
