/-!
# Facts

A fact is a triple of texts.  Resources are full IRIs, blank nodes are `_:label`, and a literal is
its lexical form; its datatype and language go along but never decide a match.
-/

set_option autoImplicit false

namespace FactQuery

structure Fact where
  subject : String
  predicate : String
  object : String
  datatype : Option String := none
  language : Option String := none
  deriving DecidableEq, Repr

def Fact.text (fact : Fact) : String :=
  fact.subject ++ " " ++ fact.predicate ++ " " ++ fact.object ++ " ."

end FactQuery
