import FactQuery.Proofs.Layout.Terms

/-!
# Fair orders of words

Behind an operand in brackets the sign `<` is looked for, and a full IRI begins with one.  What is
then left of the IRI is no word any more if it holds the start of a comment, of a string or of a
bracket.  In a fair order of words no such IRI stands behind an operand in brackets.  Whatever words
a parser takes, in whole or in part, it still knows on which side of an operand it stands.
-/

set_option autoImplicit false

namespace FactQuery.Sparql

open FactQuery.Text FactQuery.Grammar FactQuery.Token

/-- What comes next inside of brackets: an operand, or what stands behind one, or either of them. -/
inductive Standing where
  | opened
  | ended
  | doubtful
  deriving DecidableEq

/-- An operator could be read last in this token, whole or in part. -/
def endsInSign (token : List Char) : Bool :=
  token.getLast?.any (openers ++ ['>', '-']).contains

/-- Behind an operand an IRI may be read in parts, and the empty one is an operator. -/
def Standing.behind (standing : Standing) (word : List Char) : Standing :=
  if opensOperand word then .opened
  else if standing = .ended ∧ word = ['<', '>'] then .opened
  else if endsInSign word ∧ ¬(standing = .opened ∧ IsFullIri word) then .doubtful
  else .ended

/-- How deep in round brackets the text behind a word is.  A word that no expression holds, or that
cannot follow an operand, stands outside of all of them. -/
def depthBehind (depth : Nat) (standing : Standing) (word : List Char) : Nat :=
  if word = ['('] then depth + 1
  else if word = [')'] then depth - 1
  else if word ∈ dividers ∨ (standing = .ended ∧ continuesOperand word = false) then 0
  else depth

/-- Inside of round brackets a marked IRI stands where an operand begins. -/
def IsFair : Nat → Standing → List (List Char) → Prop
  | _, _, [] => True
  | depth, standing, word :: others =>
    (IsMarked word → depth = 0 ∨ standing = .opened) ∧
      IsFair (depthBehind depth standing word) (standing.behind word) others

instance decidableIsFair : (depth : Nat) → (standing : Standing) → (words : List (List Char)) →
    Decidable (IsFair depth standing words)
  | _, _, [] => isTrue trivial
  | depth, standing, word :: others =>
    have := decidableIsFair (depthBehind depth standing word) (standing.behind word) others
    inferInstanceAs (Decidable (_ ∧ _))

example : IsFair 0 .opened
    (["(", "?x", "<>", "<#o>", ")", "(", "(", "?x", "\x7d", "?s", "<#p>"].map String.toList) := by
  decide +kernel

/-- The words so far may have brought a parser to this stance. -/
def Fits : Stance → Standing → Prop
  | .opens, standing => standing ≠ .ended
  | .ends, standing => standing ≠ .opened

/-- What may come behind a word of which this is left. -/
structure FitsInside (left : List Char) (standing : Standing) : Prop where
  notEnded : endsInSign left = true → standing ≠ .ended
  notOpened : opensOperand left = false → standing ≠ .opened

def Outside : Outlook := fun words =>
  ∃ standing, IsFair 0 standing words

/-- So deep in brackets and with this stance, in front of a word or inside of one. -/
inductive Inside (depth : Nat) (stance : Stance) : Outlook where
  | before {standing : Standing} {words : List (List Char)} (fits : Fits stance standing)
      (fair : IsFair depth standing words) : Inside depth stance words
  | amid {left : List Char} {others : List (List Char)} {standing : Standing}
      (isPlain : Token.IsPlain left) (fits : FitsInside left standing)
      (fair : IsFair depth standing others) : Inside depth stance (left :: others)

def Fair : Nat → Stance → Outlook
  | 0, _ => Outside
  | depth + 1, stance => Inside (depth + 1) stance

/-! ## What stands behind a word -/

section Words

variable {stance : Stance} {standing : Standing} {taken left : List Char}

theorem endsInSign_append (more : left ≠ []) :
    endsInSign (taken ++ left) = endsInSign left := by
  rw [endsInSign, endsInSign, List.getLast?_append_of_ne_nil taken more]

theorem endsInSign_of_opensOperand {token : List Char} (opens : opensOperand token = true) :
    endsInSign token = true := by
  simp only [opensOperand, Bool.or_eq_true, beq_iff_eq] at opens
  rcases opens with (opens | rfl) | rfl
  · obtain ⟨c, last, opener⟩ := (Option.any_eq_true _ _).1 opens
    have among : (openers ++ ['>', '-']).contains c = true := by
      simp [List.contains_iff_mem.1 opener]
    exact (Option.any_eq_true _ _).2 ⟨c, last, among⟩
  · rfl
  · rfl

theorem opensOperand_of_append (nonempty : taken ≠ []) (more : left ≠ [])
    (opens : opensOperand (taken ++ left) = true) : opensOperand left = true := by
  have long : ∀ c : Char, taken ++ left ≠ [c] := by
    intro c same
    have size := congrArg List.length same
    have positive := List.length_pos_iff.2 nonempty
    have positiveToo := List.length_pos_iff.2 more
    rw [List.length_append, List.length_singleton] at size
    omega
  rw [opensOperand, List.getLast?_append_of_ne_nil taken more] at opens
  simp only [Bool.or_eq_true, beq_iff_eq, long, or_false] at opens
  rw [opensOperand, opens]
  rfl

theorem Fits.behind (fits : Fits stance standing) (word : List Char) :
    Fits (stance.behind word) (standing.behind word) := by
  by_cases opens : opensOperand word = true
  · have opened : standing.behind word = .opened := if_pos opens
    have next : stance.behind word = .opens := by cases stance <;> simp [Stance.behind, opens]
    rw [opened, next]
    simp [Fits]
  · cases stance with
    | opens =>
        have notEnded : ¬(standing = .ended ∧ word = ['<', '>']) := fun both => fits both.1
        rw [Stance.behind, if_neg opens, Standing.behind, if_neg opens, if_neg notEnded]
        split <;> simp [Fits]
    | ends =>
        by_cases isEmpty : word = ['<', '>']
        · subst isEmpty
          cases standing with
          | opened => exact absurd rfl fits
          | ended => simp [Stance.behind, Standing.behind, Fits]
          | doubtful =>
              simp [Stance.behind, Standing.behind, Fits, endsInSign, opensOperand, openers]
        · rw [Stance.behind, if_neg (by simp [opens, isEmpty]), Standing.behind, if_neg opens,
            if_neg (by simp [isEmpty])]
          split <;> simp [Fits]

theorem FitsInside.of_word (fits : Fits stance standing) (nonempty : taken ≠ [])
    (more : left ≠ []) (whole : stance = .opens → IsFullIri (taken ++ left) → left = []) :
    FitsInside left (standing.behind (taken ++ left)) where
  notEnded signs := by
    have noOperand : ¬(standing = .opened ∧ IsFullIri (taken ++ left)) := by
      rintro ⟨rfl, isFullIri⟩
      cases stance with
      | opens => exact more (whole rfl isFullIri)
      | ends => exact fits rfl
    have signsToo : endsInSign (taken ++ left) = true := by rwa [endsInSign_append more]
    rw [Standing.behind, if_pos (And.intro signsToo noOperand)]
    split
    · simp
    · split <;> simp
  notOpened closed := by
    have noOpener : ¬opensOperand (taken ++ left) = true := by
      intro opens
      rw [opensOperand_of_append nonempty more opens] at closed
      contradiction
    have noSign : taken ++ left ≠ ['<', '>'] := by
      intro same
      obtain ⟨c, taken, rfl⟩ := List.exists_cons_of_ne_nil nonempty
      rcases List.append_eq_singleton_iff.1 (List.cons.inj same).2 with ⟨-, rfl⟩ | ⟨-, rfl⟩
      · contradiction
      · exact more rfl
    rw [Standing.behind, if_neg noOpener, if_neg (by simp [noSign])]
    split <;> simp

theorem FitsInside.of_append (fits : FitsInside (taken ++ left) standing) (nonempty : taken ≠ [])
    (more : left ≠ []) : FitsInside left standing where
  notEnded signs := fits.notEnded (by rwa [endsInSign_append more])
  notOpened closed := by
    refine fits.notOpened ?_
    by_contra opens
    rw [Bool.not_eq_false] at opens
    rw [opensOperand_of_append nonempty more opens] at closed
    contradiction

theorem FitsInside.fits (inside : FitsInside taken standing) (stance : Stance) :
    Fits (stance.behind taken) standing := by
  by_cases opens : opensOperand taken = true
  · have next : stance.behind taken = .opens := by cases stance <;> simp [Stance.behind, opens]
    rw [next]
    exact inside.notEnded (endsInSign_of_opensOperand opens)
  · have notOpened := inside.notOpened (Bool.eq_false_iff.2 opens)
    cases stance with
    | opens =>
        rw [Stance.behind, if_neg opens]
        exact notOpened
    | ends =>
        by_cases isEmpty : taken = ['<', '>']
        · subst isEmpty
          exact inside.notEnded rfl
        · rw [Stance.behind, if_neg (by simp [opens, isEmpty])]
          exact notOpened

/-- The words that a parser takes inside of brackets leave it there. -/
theorem depthBehind_of_admits (fits : Fits stance standing) {word : List Char}
    (admits : stance.Admits word) (depth : Nat) : depthBehind depth standing word = depth := by
  have noDivider := admits.not_mem
  have noOpening : word ≠ ['('] := by
    rintro rfl
    exact noDivider (by decide)
  have noClosing : word ≠ [')'] := by
    rintro rfl
    exact noDivider (by decide)
  have goesOn : ¬(standing = .ended ∧ continuesOperand word = false) := by
    rintro ⟨rfl, stops⟩
    cases stance with
    | opens => exact fits rfl
    | ends =>
        rw [admits] at stops
        contradiction
  rw [depthBehind, if_neg noOpening, if_neg noClosing, if_neg (not_or.2 ⟨noDivider, goesOn⟩)]

end Words

/-! ## From word to word -/

theorem depthBehind_zero (standing : Standing) (word : List Char) :
    depthBehind 0 standing word = if word = ['('] then 1 else 0 := by
  simp [depthBehind]

/-- Outside of brackets it does not matter what stood in front. -/
theorem IsFair.change {standing : Standing} {words : List (List Char)}
    (fair : IsFair 0 standing words) (other : Standing) : IsFair 0 other words := by
  induction words generalizing standing other with
  | nil => trivial
  | cons word others inductionHypothesis =>
      refine ⟨fun _ => Or.inl rfl, ?_⟩
      have behind := fair.2
      rw [depthBehind_zero] at behind ⊢
      by_cases opening : word = ['(']
      · subst opening
        exact behind
      · rw [if_neg opening] at behind ⊢
        exact inductionHypothesis behind _

theorem isLasting_outside : IsLasting Outside := by
  rintro taken left others ⟨standing, fair⟩ - noOpening plain
  have behind := fair.2
  rw [depthBehind_zero, if_neg noOpening] at behind
  cases left with
  | nil => exact ⟨_, behind⟩
  | cons c left =>
      have noBracket := (isPlainChar_iff.1 (plain c List.mem_cons_self)).2.2.1
      have noOpeningHere : c :: left ≠ ['('] := fun same => noBracket (List.cons.inj same).1
      refine ⟨standing, fun _ => Or.inl rfl, ?_⟩
      rw [depthBehind_zero, if_neg noOpeningHere]
      exact behind.change _

theorem isSteady_inside (depth : Nat) : IsSteady (Inside depth) := by
  intro stance taken left others fulfilled nonempty admits whole plain
  have isPlain : left ≠ [] → Token.IsPlain left := fun more => ⟨more, plain⟩
  generalize same : (taken ++ left) :: others = words at fulfilled
  cases fulfilled with
  | @before standing _ fits fair =>
      subst same
      have behind := fair.2
      rw [depthBehind_of_admits fits admits] at behind
      by_cases more : left = []
      · subst more
        rw [List.append_nil] at behind
        exact .before (fits.behind taken) behind
      · simp only [leftAhead, List.isEmpty_iff, more, if_false]
        exact .amid (isPlain more) (.of_word fits nonempty more whole) behind
  | @amid word later standing _ fits fair =>
      obtain ⟨rfl, rfl⟩ := List.cons.inj same
      by_cases more : left = []
      · subst more
        rw [List.append_nil] at fits
        exact .before (fits.fits stance) fair
      · simp only [leftAhead, List.isEmpty_iff, more, if_false]
        exact .amid (isPlain more) (fits.of_append nonempty more) fair

theorem isSteady_fair : (depth : Nat) → IsSteady (Fair depth)
  | 0 => isLasting_outside.isSteady
  | depth + 1 => isSteady_inside (depth + 1)

end FactQuery.Sparql
