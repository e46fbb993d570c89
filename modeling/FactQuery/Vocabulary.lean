/-!
# Well-known IRIs

The names that both languages abbreviate: the class relation `a` and the datatypes of literals that
are written without quotes.
-/

set_option autoImplicit false

namespace FactQuery.Vocabulary

def rdf : String := "http://www.w3.org/1999/02/22-rdf-syntax-ns#"

def xsd : String := "http://www.w3.org/2001/XMLSchema#"

def rdfType : String := rdf ++ "type"

def xsdInteger : String := xsd ++ "integer"

def xsdDecimal : String := xsd ++ "decimal"

def xsdDouble : String := xsd ++ "double"

def xsdBoolean : String := xsd ++ "boolean"

end FactQuery.Vocabulary
