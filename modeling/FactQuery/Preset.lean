/-!
# Preset queries

Named queries over the bundled catalogue, listed by category and run by their identifiers.
-/

set_option autoImplicit false

namespace FactQuery

structure Preset where
  id : String
  name : String
  description : String
  category : String
  query : String
  deriving DecidableEq, Repr

namespace Preset

def declarations : List String :=
  [ "",
    "PREFIX rdf: <http://www.w3.org/1999/02/22-rdf-syntax-ns#>",
    "PREFIX : <http://example.org/books/>",
    "" ]

def queryOf (lines : List String) : String :=
  "\n".intercalate (declarations ++ lines)

def all : List Preset :=
  [ { id := "all-books"
      name := "All Books"
      description := "List all books in the database"
      category := "General"
      query := queryOf
        [ "SELECT ?title ?author ?genre ?publishedYear ?coverImage",
          "WHERE \x7b",
          "  ?book a :Book ;",
          "        :title ?title ;",
          "        :author ?author ;",
          "        :genre ?genre ;",
          "        :publishedYear ?publishedYear ;",
          "        :coverImage ?coverImage .",
          "\x7d",
          "ORDER BY ?title" ] },
    { id := "sci-fi-books"
      name := "Science Fiction Books"
      description := "Find all science fiction books"
      category := "Genre"
      query := queryOf
        [ "SELECT ?title ?author ?publishedYear ?coverImage",
          "WHERE \x7b",
          "  ?book a :Book ;",
          "        :title ?title ;",
          "        :author ?author ;",
          "        :publishedYear ?publishedYear ;",
          "        :coverImage ?coverImage ;",
          "        :genre \"Science Fiction\" .",
          "\x7d",
          "ORDER BY ?publishedYear" ] },
    { id := "classic-books"
      name := "Classic Books"
      description := "Books published before 1950"
      category := "Time Period"
      query := queryOf
        [ "SELECT ?title ?author ?publishedYear ?genre ?coverImage",
          "WHERE \x7b",
          "  ?book a :Book ;",
          "        :title ?title ;",
          "        :author ?author ;",
          "        :publishedYear ?publishedYear ;",
          "        :genre ?genre ;",
          "        :coverImage ?coverImage .",
          "  FILTER (?publishedYear < 1950)",
          "\x7d",
          "ORDER BY ?publishedYear" ] } ]

def everyCategory : String := "All"

/-- The categories in the order in which they first come, behind the one that stands for all. -/
def categories : List String :=
  everyCategory :: (all.map Preset.category).eraseDups

def list (category : Option String) : List Preset :=
  match category with
  | none => all
  | some name => if name == everyCategory then all else all.filter (·.category == name)

def find? (id : String) : Option Preset :=
  all.find? (·.id == id)

end Preset

end FactQuery
