import FactQuery.Proofs.Layout.Sparql
import FactQuery.Proofs.Layout.Tokens
import FactQuery.Proofs.Layout.Turtle
import FactQuery.Sparql.Reading
import FactQuery.Turtle.Document

/-!
# Layout does not matter

Two texts that space the same tokens have the same reading: the same statements and facts, or the
same query, or a fault of the same kind in both.  For queries this asks for a fair order of tokens.
-/

set_option autoImplicit false

namespace FactQuery

open FactQuery.Text FactQuery.Grammar FactQuery.Token

/-! ## Same results -/

/-- The same value, or faults that count as the same. -/
def SameResult {ε α : Type} (sameFault : ε → ε → Prop) : Except ε α → Except ε α → Prop
  | .ok value, .ok again => value = again
  | .error fault, .error again => sameFault fault again
  | .ok _, .error _ => False
  | .error _, .ok _ => False

def Turtle.Error.SameFault : Turtle.Error → Turtle.Error → Prop
  | .malformed _, .malformed _ => True
  | .badEscape error _, .badEscape again _ => error = again
  | fault, again => fault = again

def QueryError.SameFault : QueryError → QueryError → Prop
  | .badEscape error _, .badEscape again _ => error = again
  | fault, again => fault = again

theorem Turtle.Error.SameFault.refl (fault : Turtle.Error) : fault.SameFault fault := by
  cases fault <;> simp [SameFault]

/-! ## The same words from the start on -/

section Start

variable {scanners : List Scanner} {tokens : List (List Char)} {text again : String}

/-- The tokens are of one grammar, and its strings hold no raw tab. -/
structure AreTokens (scanners : List Scanner) (tokens : List (List Char)) : Prop where
  isToken : ∀ token ∈ tokens, IsToken scanners token
  noTab : ∀ token ∈ tokens, IsQuoted token → '\t' ∉ token

instance : Decidable (AreTokens scanners tokens) :=
  decidable_of_iff ((∀ token ∈ tokens, IsToken scanners token) ∧
    ∀ token ∈ tokens, IsQuoted token → '\t' ∉ token)
    ⟨fun both => ⟨both.1, both.2⟩, fun areTokens => ⟨areTokens.isToken, areTokens.noTab⟩⟩

theorem AreTokens.alike (areTokens : AreTokens scanners tokens)
    (scanWords : ∀ scan ∈ scanners, ScansWords scan) (here : IsSpaced tokens text.toList)
    (there : IsSpaced tokens again.toList) (outlook : Outlook) (fulfilled : outlook tokens) :
    Alike outlook (Cursor.start (expandTabs text.toList))
      (Cursor.start (expandTabs again.toList)) := by
  have areWords : ∀ token ∈ tokens, IsWord token :=
    fun token known => (areTokens.isToken token known).isWord scanWords
  have noTab : ∀ token ∈ tokens, '\t' ∉ token :=
    fun token known => (areWords token known).tab_not_mem (areTokens.noTab token known)
  exact ⟨tokens, fulfilled, .start areWords (here.expandTabs noTab 0) (there.expandTabs noTab 0)⟩

end Start

/-! ## Documents -/

namespace Turtle

variable {tokens : List (List Char)} {text again : String}

theorem parseStatements_same (areTokens : AreTokens scanners tokens)
    (here : IsSpaced tokens text.toList) (there : IsSpaced tokens again.toList) :
    SameResult Error.SameFault (parseStatements text) (parseStatements again) := by
  have alike := areTokens.alike scanners_scanWords here there (fun _ => True) trivial
  have same := statements_keeps _ _ alike
  simp only [parseStatements]
  generalize statements (Cursor.start (expandTabs text.toList)) = one at same ⊢
  generalize statements (Cursor.start (expandTabs again.toList)) = other at same ⊢
  cases same with
  | matched next =>
      simp only [next.isEmpty_eq]
      split
      · rfl
      · trivial
  | missed => trivial
  | aborted => rfl

theorem tell_same (same : SameResult Error.SameFault (parseStatements text) (parseStatements again))
    (next : Nat) :
    (tell next text).facts = (tell next again).facts ∧
      SameResult Error.SameFault (read text) (read again) := by
  simp only [read, tell]
  generalize parseStatements text = one at same ⊢
  generalize parseStatements again = other at same ⊢
  match one, other, same with
  | .ok found, .ok _, rfl =>
      refine ⟨rfl, ?_⟩
      split
      · exact Error.SameFault.refl _
      · rfl
  | .error fault, .error fault', same => exact ⟨rfl, same⟩

end Turtle

/-! ## Queries -/

theorem Sparql.ofText_same {tokens : List (List Char)} {text again : String}
    (areTokens : AreTokens Sparql.scanners tokens) (fair : Sparql.IsFair 0 .opened tokens)
    (here : IsSpaced tokens text.toList) (there : IsSpaced tokens again.toList) :
    SameResult QueryError.SameFault (Sparql.Query.ofText text) (Sparql.Query.ofText again) := by
  have ahead : Sparql.Outside tokens := ⟨.opened, fair⟩
  have alike := areTokens.alike Sparql.scanners_scanWords here there _ ahead
  have same := Sparql.query_respects _ _ alike
  simp only [Sparql.Query.ofText, Sparql.Query.parse]
  generalize Sparql.query (Cursor.start (expandTabs text.toList)) = one at same ⊢
  generalize Sparql.query (Cursor.start (expandTabs again.toList)) = other at same ⊢
  cases same with
  | @matched found next later _ =>
      simp only [ok_bind]
      cases found.undeclared? <;> rfl
  | missed => rfl
  | aborted => rfl

/-! ## Both languages -/

/-- Whatever layout stands between the tokens of a document, its statements and facts are the same;
and so is a query, whose tokens are in a fair order. -/
theorem reading_ignores_layout {tokens : List (List Char)} {text again : String}
    (here : IsSpaced tokens text.toList) (there : IsSpaced tokens again.toList) :
    (AreTokens Turtle.scanners tokens →
      SameResult Turtle.Error.SameFault (Turtle.parseStatements text)
        (Turtle.parseStatements again) ∧
      SameResult Turtle.Error.SameFault (Turtle.read text) (Turtle.read again) ∧
      ∀ next, (Turtle.tell next text).facts = (Turtle.tell next again).facts) ∧
    (AreTokens Sparql.scanners tokens → Sparql.IsFair 0 .opened tokens →
      SameResult QueryError.SameFault (Sparql.Query.ofText text) (Sparql.Query.ofText again)) := by
  refine ⟨fun areTokens => ?_, fun areTokens fair => Sparql.ofText_same areTokens fair here there⟩
  have same := Turtle.parseStatements_same areTokens here there
  exact ⟨same, (Turtle.tell_same same 0).2, fun next => (Turtle.tell_same same next).1⟩

/-- Comments hold the end of a statement, a bracket and a lone quote, and there is a `#` in an IRI
and in a string, also behind operators in brackets, one of which could be an IRI. -/
theorem reading_ignores_layout_commented :
    let gap := " # \x7d . \x27 (\n".toList
    let document := ["<#s>", "a", "<#t>", ";", "<#p>", "\"v # .\"", "."].map String.toList
    let asked := ["SELECT", "*", "WHERE", "\x7b", "?s", "?p", "?o", ".", "FILTER", "(", "?o", "=",
      "<http://e.org/#o>", "||", "?s", "<>", "<http://e.org/#s>", ")", "\x7d"].map String.toList
    let plainly := fun tokens : List (List Char) =>
      String.ofList (tokens.flatMap fun token => [' '] ++ token)
    let commented := fun tokens : List (List Char) =>
      String.ofList (tokens.flatMap fun token => gap ++ token)
    (Turtle.read (plainly document)).toOption.map List.length = some 2 ∧
      SameResult Turtle.Error.SameFault (Turtle.read (plainly document))
        (Turtle.read (commented document)) ∧
      (Sparql.Query.ofText (plainly asked)).toOption.isSome = true ∧
      SameResult QueryError.SameFault (Sparql.Query.ofText (plainly asked))
        (Sparql.Query.ofText (commented asked)) := by
  intro gap document asked plainly commented
  have spaced : ∀ tokens, IsSpaced tokens (plainly tokens).toList := by
    intro tokens
    rw [String.toList_ofList]
    exact .each rfl .nil tokens
  have spacedToo : ∀ tokens, IsSpaced tokens (commented tokens).toList := by
    intro tokens
    have line : '\n' ∉ " \x7d . \x27 (".toList := by decide
    have layout : IsLayout ('#' :: (" \x7d . \x27 (".toList ++ ['\n'])) := .comment line .nil
    rw [String.toList_ofList]
    exact .each rfl layout tokens
  have areTokens : AreTokens Turtle.scanners document := by decide +kernel
  have areTokensToo : AreTokens Sparql.scanners asked := by decide +kernel
  have fair : Sparql.IsFair 0 .opened asked := by decide +kernel
  refine ⟨by decide +kernel, ?_, by decide +kernel, ?_⟩
  · exact ((reading_ignores_layout (spaced document) (spacedToo document)).1 areTokens).2.1
  · exact (reading_ignores_layout (spaced asked) (spacedToo asked)).2 areTokensToo fair

/-- In brackets an IRI behind an operand is taken for a comparison with a name and a comment, so the
line end behind it decides whether there is a query. -/
theorem line_end_decides_query :
    ¬∀ (tokens : List (List Char)) (text again : String), AreTokens Sparql.scanners tokens →
      IsSpaced tokens text.toList → IsSpaced tokens again.toList →
      (Sparql.Query.ofText text).toOption.isSome = (Sparql.Query.ofText again).toOption.isSome := by
  intro always
  let tokens := ["PREFIX", "a:", "<http://x/>", "SELECT", "*", "WHERE", "\x7b", "?s", "?p", "?x",
    "FILTER", "(", "?x", "<a:b#c>", ")", "\x7d"].map String.toList
  have areTokens : AreTokens Sparql.scanners tokens := by decide +kernel
  have spaced : ∀ c, isLayoutBlank c = true →
      IsSpaced tokens (String.ofList (tokens.flatMap fun token => [c] ++ token)).toList := by
    intro c isBlank
    rw [String.toList_ofList]
    exact .each isBlank .nil tokens
  have same := always tokens _ _ areTokens (spaced ' ' rfl) (spaced '\n' rfl)
  have refused : (Sparql.Query.ofText
      (String.ofList (tokens.flatMap fun token => [' '] ++ token))).toOption.isSome = false := by
    decide +kernel
  have accepted : (Sparql.Query.ofText
      (String.ofList (tokens.flatMap fun token => ['\n'] ++ token))).toOption.isSome = true := by
    decide +kernel
  rw [refused, accepted] at same
  contradiction

end FactQuery
