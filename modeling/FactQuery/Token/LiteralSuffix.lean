import FactQuery.Token.IriRef

/-!
# What may follow a quoted string

A quoted string may carry a language tag, `@` and hyphenated parts, or a datatype, `^^` and the name
of a resource.
-/

set_option autoImplicit false

namespace FactQuery.Token

open FactQuery.Grammar

/-- Letters and digits, and hyphens with one of them behind, up to the first other character. -/
def splitTagParts : List Char → List Char × List Char
  | '-' :: c :: rest =>
    if c.isAlphanum then
      let (parts, behind) := splitTagParts rest
      ('-' :: c :: parts, behind)
    else ([], '-' :: c :: rest)
  | c :: rest =>
    if c.isAlphanum then
      let (parts, behind) := splitTagParts rest
      (c :: parts, behind)
    else ([], c :: rest)
  | [] => ([], [])

def scanLanguageTag : Scanner
  | '@' :: rest =>
    let head := rest.takeWhile Char.isAlpha
    if head.isEmpty then none
    else
      match rest.dropWhile Char.isAlpha with
      | '-' :: behind =>
        let (parts, last) := splitTagParts ('-' :: behind)
        some ('@' :: head ++ parts, last)
      | behind => some ('@' :: head, behind)
  | _ => none

def languageTag : Parser String := do
  let token ← lexeme scanLanguageTag
  return String.ofList (token.drop 1)

def datatype : Parser Iri := do
  symbol "^^"
  iri

inductive LiteralSuffix where
  | language (tag : String)
  | datatype (name : Iri)
  deriving DecidableEq, Repr

def literalSuffix : Parser LiteralSuffix :=
  Parser.firstOf [.language <$> languageTag, .datatype <$> datatype]

end FactQuery.Token
