import FactQuery.Evaluation.Error
import FactQuery.Iri.Reference
import FactQuery.Proofs.Token.Names

/-!
# What resolution leads to can be written

A reference that is resolved against a base consists of characters of the two, of the delimiters of
its parts and of small letters in its scheme.  So if both can stand in angle brackets, then so can
the result.
-/

set_option autoImplicit false

namespace FactQuery.Iri

open FactQuery.Text FactQuery.Token

def AreIriChars (text : List Char) : Prop :=
  ∀ c ∈ text, isIriChar c = true

namespace AreIriChars

variable {text others : List Char}

theorem nil : AreIriChars [] := by
  simp [AreIriChars]

theorem cons {c : Char} (here : isIriChar c = true) (good : AreIriChars text) :
    AreIriChars (c :: text) :=
  List.forall_mem_cons.2 ⟨here, good⟩

theorem append (good : AreIriChars text) (later : AreIriChars others) :
    AreIriChars (text ++ others) :=
  List.forall_mem_append.2 ⟨good, later⟩

theorem of_subset (good : AreIriChars text) (inside : others ⊆ text) : AreIriChars others :=
  fun c found => good c (inside found)

end AreIriChars

/-! ## Splitting and joining -/

theorem areIriChars_cut (separator : Char) {text : List Char} (good : AreIriChars text) :
    AreIriChars (cut separator text).1 ∧
      AreIriChars ((cut separator text).2.getD []) := by
  have behind : AreIriChars (text.dropWhile (· != separator)) :=
    good.of_subset (List.dropWhile_subset _)
  rw [cut]
  cases split : text.dropWhile (· != separator) with
  | nil => exact ⟨good, .nil⟩
  | cons c others =>
      rw [split] at behind
      exact ⟨good.of_subset (List.takeWhile_subset _), (List.forall_mem_cons.1 behind).2⟩

theorem areIriChars_of_cut_eq {separator : Char} {text first behind : List Char}
    (good : AreIriChars text) (split : cut separator text = (first, some behind)) :
    AreIriChars first ∧ AreIriChars behind := by
  have parts := areIriChars_cut separator good
  rw [split] at parts
  exact parts

theorem areIriChars_pieces (separator : Char) {text : List Char} (good : AreIriChars text) :
    ∀ piece ∈ pieces separator text, AreIriChars piece := by
  induction text with
  | nil => simp [pieces, AreIriChars.nil]
  | cons c rest inductionHypothesis =>
      obtain ⟨here, later⟩ := List.forall_mem_cons.1 good
      have others := inductionHypothesis later
      rw [pieces]
      by_cases same : c = separator
      · rw [if_pos (by simpa using same), List.forall_mem_cons]
        exact ⟨.nil, others⟩
      · rw [if_neg (by simpa using same)]
        cases split : pieces separator rest with
        | nil => exact List.forall_mem_singleton.2 (.cons here .nil)
        | cons first more =>
            rw [split, List.forall_mem_cons] at others
            rw [List.forall_mem_cons]
            exact ⟨.cons here others.1, others.2⟩

theorem areIriChars_intercalate {segments : List (List Char)}
    (good : ∀ segment ∈ segments, AreIriChars segment) :
    AreIriChars (List.intercalate ['/'] segments) := by
  induction segments with
  | nil => exact .nil
  | cons first others inductionHypothesis =>
      rw [List.forall_mem_cons] at good
      cases others with
      | nil => simpa [List.intercalate] using good.1
      | cons next more =>
          have later := inductionHypothesis good.2
          have joined : List.intercalate ['/'] (first :: next :: more) =
              first ++ '/' :: List.intercalate ['/'] (next :: more) := by
            simp [List.intercalate]
          rw [joined]
          exact good.1.append (.cons (by decide) later)

namespace Reference

/-! ## The parts of a reference -/

structure IsWritable (reference : Reference) : Prop where
  scheme : AreIriChars reference.scheme
  authority : AreIriChars reference.authority
  path : AreIriChars reference.path
  parameters : AreIriChars reference.parameters
  query : AreIriChars reference.query
  fragment : AreIriChars reference.fragment

theorem isIriChar_toLower {c : Char} (inside : isSchemeChar c = true) :
    isIriChar c.toLower = true := by
  simp only [isSchemeChar, Bool.or_eq_true, beq_iff_eq] at inside
  rcases inside with ((alphanumeric | rfl) | rfl) | rfl
  · have range := Grammar.toNat_of_isAlphanum alphanumeric
    have each : ∀ n < 123, (Char.ofNat n).isAlphanum = true →
        isIriChar (Char.ofNat n).toLower = true := by decide
    have found := each c.toNat (by omega)
    rw [Char.ofNat_toNat] at found
    exact found alphanumeric
  · decide
  · decide
  · decide

theorem areIriChars_splitScheme {text scheme behind : List Char} (good : AreIriChars text)
    (split : splitScheme text = some (scheme, behind)) :
    AreIriChars scheme ∧ AreIriChars behind := by
  unfold splitScheme at split
  split at split
  · rename_i first rest parts
    split at split
    · rename_i isScheme
      obtain ⟨rfl, rfl⟩ := Prod.mk.inj (Option.some.inj split)
      rw [Bool.and_eq_true] at isScheme
      refine ⟨fun c found => ?_, (areIriChars_of_cut_eq good parts).2⟩
      obtain ⟨d, known, rfl⟩ := List.mem_map.1 found
      exact isIriChar_toLower (List.all_eq_true.1 isScheme.2 d known)
    · contradiction
  · contradiction

theorem areIriChars_splitAuthority {text : List Char} (good : AreIriChars text) :
    AreIriChars (splitAuthority text).1 ∧ AreIriChars (splitAuthority text).2 := by
  unfold splitAuthority
  split
  · rename_i rest
    have behind : AreIriChars rest := good.of_subset (by simp)
    exact ⟨behind.of_subset (List.takeWhile_subset _), behind.of_subset (List.dropWhile_subset _)⟩
  · exact ⟨.nil, good⟩

theorem areIriChars_splitParameters {path : List Char} (good : AreIriChars path) :
    AreIriChars (splitParameters path).1 ∧ AreIriChars (splitParameters path).2 := by
  have directory : AreIriChars (path.reverse.dropWhile (· != '/')).reverse := by
    intro c found
    exact good c (List.mem_reverse.1 ((List.dropWhile_subset _) (List.mem_reverse.1 found)))
  have segment : AreIriChars (path.drop ((path.reverse.dropWhile (· != '/')).reverse).length) :=
    good.of_subset (List.drop_subset _ _)
  unfold splitParameters
  simp only
  split
  · rename_i name parameters parts
    have split := areIriChars_of_cut_eq segment parts
    exact ⟨directory.append split.1, split.2⟩
  · exact ⟨good, .nil⟩

theorem areIriChars_clean {text : List Char} (good : AreIriChars text) :
    AreIriChars (clean text) :=
  good.of_subset fun _ found => (List.dropWhile_subset _) (List.mem_filter.1 found |>.1)

theorem isWritable_parse {scheme text : List Char} {reference : Reference}
    (isScheme : AreIriChars scheme) (good : AreIriChars text)
    (parsed : parse scheme text = .ok reference) : reference.IsWritable := by
  have cleaned := areIriChars_clean good
  obtain ⟨named, behind⟩ : AreIriChars ((splitScheme (clean text)).getD (scheme, clean text)).1 ∧
      AreIriChars ((splitScheme (clean text)).getD (scheme, clean text)).2 := by
    cases split : splitScheme (clean text) with
    | none => exact ⟨isScheme, cleaned⟩
    | some parts => exact areIriChars_splitScheme cleaned split
  unfold parse at parsed
  generalize (splitScheme (clean text)).getD (scheme, clean text) = parts at named behind parsed
  obtain ⟨scheme, rest⟩ := parts
  simp only at named behind parsed
  obtain ⟨authority, located⟩ := areIriChars_splitAuthority behind
  obtain ⟨unmarked, fragment⟩ := areIriChars_cut '#' located
  obtain ⟨path, query⟩ := areIriChars_cut '?' unmarked
  have parameters := areIriChars_splitParameters path
  obtain ⟨_, _, parsed⟩ := bind_eq_ok_iff.1 parsed
  obtain ⟨_, _, parsed⟩ := bind_eq_ok_iff.1 parsed
  cases parsed
  refine ⟨named, authority, ?_, ?_, query, fragment⟩
  · split
    · exact parameters.1
    · exact path
  · split
    · exact parameters.2
    · exact .nil

/-! ## Merging and writing -/

theorem areIriChars_walk {segments : List (List Char)}
    (good : ∀ segment ∈ segments, AreIriChars segment) :
    ∀ segment ∈ walk segments, AreIriChars segment := by
  -- The induction is on the segments still to be passed, for any that have been passed.
  have onward : ∀ (ahead passed : List (List Char)), (∀ segment ∈ ahead, AreIriChars segment) →
      (∀ segment ∈ passed, AreIriChars segment) →
      ∀ segment ∈ ahead.foldl (fun passed segment =>
        if segment == ['.', '.'] then passed.dropLast
        else if segment == ['.'] then passed
        else passed ++ [segment]) passed, AreIriChars segment := by
    intro ahead
    induction ahead with
    | nil => exact fun passed _ done => done
    | cons segment others inductionHypothesis =>
        intro passed next done
        rw [List.forall_mem_cons] at next
        rw [List.foldl_cons]
        refine inductionHypothesis _ next.2 ?_
        split
        · exact fun other found => done other (List.dropLast_subset _ found)
        · split
          · exact done
          · exact List.forall_mem_append.2 ⟨done, List.forall_mem_singleton.2 next.1⟩
  exact onward segments [] good (by simp)

theorem areIriChars_pathOf {segments : List (List Char)}
    (good : ∀ segment ∈ segments, AreIriChars segment) : AreIriChars (pathOf segments) := by
  have ending : ∀ atDirectory : Bool,
      ∀ segment ∈ walk segments ++ (if atDirectory then [[]] else []), AreIriChars segment := by
    intro atDirectory
    refine List.forall_mem_append.2 ⟨areIriChars_walk good, ?_⟩
    split
    · exact List.forall_mem_singleton.2 .nil
    · simp
  have rooted : ∀ path, AreIriChars path →
      AreIriChars (if path.isEmpty then ['/'] else path) := by
    intro path goodPath
    split
    · exact .cons (by decide) .nil
    · exact goodPath
  exact rooted _ (areIriChars_intercalate (ending _))

theorem mem_of_mem_dropInnerEmpty {segments : List (List Char)} {segment : List Char}
    (inside : segment ∈ dropInnerEmpty segments) : segment ∈ segments := by
  cases segments with
  | nil => exact inside
  | cons first others =>
      simp only [dropInnerEmpty, List.mem_cons, List.mem_append, List.mem_filter,
        Option.mem_toList, List.cons_append] at inside
      rcases inside with rfl | ⟨inner, _⟩ | last
      · exact List.mem_cons_self
      · exact List.mem_cons_of_mem first (List.dropLast_subset _ inner)
      · exact List.mem_cons_of_mem first (List.mem_of_getLast? last)

theorem mem_of_mem_directory {path segment : List Char} (inside : segment ∈ directory path) :
    segment ∈ pieces '/' path := by
  unfold directory at inside
  simp only at inside
  split at inside
  · exact inside
  · exact List.dropLast_subset _ inside

theorem areIriChars_mergePaths {base path : List Char} (goodBase : AreIriChars base)
    (good : AreIriChars path) : AreIriChars (mergePaths base path) := by
  have segments := areIriChars_pieces '/' good
  unfold mergePaths
  split
  · exact areIriChars_pathOf segments
  · refine areIriChars_pathOf fun segment found => ?_
    rcases List.mem_append.1 (mem_of_mem_dropInnerEmpty found) with fromBase | fromPath
    · exact areIriChars_pieces '/' goodBase segment (mem_of_mem_directory fromBase)
    · exact segments segment fromPath

theorem IsWritable.against {base reference : Reference} (goodBase : base.IsWritable)
    (good : reference.IsWritable) : (base.against reference).IsWritable := by
  unfold Reference.against
  split
  · exact good
  · split
    · refine ⟨good.scheme, goodBase.authority, goodBase.path, goodBase.parameters, ?_,
        good.fragment⟩
      simp only
      split
      · exact goodBase.query
      · exact good.query
    · exact ⟨good.scheme, goodBase.authority, areIriChars_mergePaths goodBase.path good.path,
        good.parameters, good.query, good.fragment⟩

theorem areIriChars_behind {delimiter : Char} {part : List Char}
    (here : isIriChar delimiter = true) (good : AreIriChars part) :
    AreIriChars (behind delimiter part) := by
  unfold behind
  split
  · exact .nil
  · exact .cons here good

theorem IsWritable.areIriChars_write {reference : Reference} (good : reference.IsWritable) :
    AreIriChars reference.write := by
  have slash : isIriChar '/' = true := by decide
  have path : AreIriChars (reference.path ++ behind ';' reference.parameters) :=
    good.path.append (areIriChars_behind (by decide) good.parameters)
  have query := areIriChars_behind (by decide : isIriChar '?' = true) good.query
  have fragment := areIriChars_behind (by decide : isIriChar '#' = true) good.fragment
  unfold write
  refine .append (.append (.append ?_ ?_) query) fragment
  · split
    · exact .nil
    · exact good.scheme.append (.cons (by decide) .nil)
  · split
    · refine .append (.cons slash (.cons slash good.authority)) ?_
      split
      · exact path
      · exact .cons slash path
    · exact path

end Reference

/-! ## Resolution -/

theorem isIriText_resolve {base reference resolved : String} (goodBase : IsIriText base)
    (good : IsIriText reference) (run : resolve base reference = .ok resolved) :
    IsIriText resolved := by
  unfold resolve at run
  split at run
  · cases run
    exact good
  · split at run
    · cases run
      exact goodBase
    · obtain ⟨start, first, run⟩ := bind_eq_ok_iff.1 run
      obtain ⟨target, second, run⟩ := bind_eq_ok_iff.1 run
      have isStart := Reference.isWritable_parse .nil goodBase first
      have isTarget := Reference.isWritable_parse isStart.scheme good second
      split at run
      · cases run
        exact good
      · split at run
        · cases run
          exact good
        · cases run
          rw [IsIriText, String.toList_ofList]
          exact (isStart.against isTarget).areIriChars_write

/-- What a name resolves to can be written in angle brackets, if the name and the base can. -/
theorem isIriText_resolveWith {base : Option String} {reference resolved : String}
    (goodBase : ∀ text, base = some text → IsIriText text) (good : IsIriText reference)
    (run : resolveWith base reference = .ok resolved) : IsIriText resolved := by
  cases base with
  | none =>
      cases run
      exact good
  | some text =>
      simp only [resolveWith] at run
      split at run
      · exact isIriText_resolve (goodBase text rfl) good run
      · cases run
        exact good

end FactQuery.Iri
