/-!
# The bundled dataset

A catalogue of ten books in Turtle, for use where no other data is given.
-/

set_option autoImplicit false

namespace FactQuery.Dataset

def bookLines : List String :=
  [ "@prefix rdf: <http://www.w3.org/1999/02/22-rdf-syntax-ns#> .",
    "@prefix xsd: <http://www.w3.org/2001/XMLSchema#> .",
    "@prefix : <http://example.org/books/> .",
    "",
    "# Sample catalogue used by the preset queries.",
    "",
    ":book1 a :Book ;",
    "    :title \"1984\" ;",
    "    :author \"George Orwell\" ;",
    "    :genre \"Dystopian\" ;",
    "    :publishedYear 1949 ;",
    "    :isbn \"978-0451524935\" ;",
    "    :coverImage \"https://example.org/covers/1984.jpg\" .",
    "",
    ":book2 a :Book ;",
    "    :title \"Dune\" ;",
    "    :author \"Frank Herbert\" ;",
    "    :genre \"Science Fiction\" ;",
    "    :publishedYear 1965 ;",
    "    :isbn \"978-0441172719\" ;",
    "    :coverImage \"https://example.org/covers/dune.jpg\" .",
    "",
    ":book3 a :Book ;",
    "    :title \"Pride and Prejudice\" ;",
    "    :author \"Jane Austen\" ;",
    "    :genre \"Romance\" ;",
    "    :publishedYear 1813 ;",
    "    :isbn \"978-0141439518\" ;",
    "    :coverImage \"https://example.org/covers/pride-and-prejudice.jpg\" .",
    "",
    ":book4 a :Book ;",
    "    :title \"Neuromancer\" ;",
    "    :author \"William Gibson\" ;",
    "    :genre \"Science Fiction\" ;",
    "    :publishedYear 1984 ;",
    "    :isbn \"978-0441569595\" ;",
    "    :coverImage \"https://example.org/covers/neuromancer.jpg\" .",
    "",
    ":book5 a :Book ;",
    "    :title \"The Great Gatsby\" ;",
    "    :author \"F. Scott Fitzgerald\" ;",
    "    :genre \"Classic\" ;",
    "    :publishedYear 1925 ;",
    "    :isbn \"978-0743273565\" ;",
    "    :coverImage \"https://example.org/covers/great-gatsby.jpg\" .",
    "",
    ":book6 a :Book ;",
    "    :title \"Foundation\" ;",
    "    :author \"Isaac Asimov\" ;",
    "    :genre \"Science Fiction\" ;",
    "    :publishedYear 1951 ;",
    "    :isbn \"978-0553293357\" ;",
    "    :coverImage \"https://example.org/covers/foundation.jpg\" .",
    "",
    ":book7 a :Book ;",
    "    :title \"The Hobbit\" ;",
    "    :author \"J.R.R. Tolkien\" ;",
    "    :genre \"Fantasy\" ;",
    "    :publishedYear 1937 ;",
    "    :isbn \"978-0547928227\" ;",
    "    :coverImage \"https://example.org/covers/hobbit.jpg\" .",
    "",
    ":book8 a :Book ;",
    "    :title \"Brave New World\" ;",
    "    :author \"Aldous Huxley\" ;",
    "    :genre \"Dystopian\" ;",
    "    :publishedYear 1932 ;",
    "    :isbn \"978-0060850524\" ;",
    "    :coverImage \"https://example.org/covers/brave-new-world.jpg\" .",
    "",
    ":book9 a :Book ;",
    "    :title \"The Left Hand of Darkness\" ;",
    "    :author \"Ursula K. Le Guin\" ;",
    "    :genre \"Science Fiction\" ;",
    "    :publishedYear 1969 ;",
    "    :isbn \"978-0441478125\" ;",
    "    :coverImage \"https://example.org/covers/left-hand-of-darkness.jpg\" .",
    "",
    ":book10 a :Book ;",
    "    :title \"To Kill a Mockingbird\" ;",
    "    :author \"Harper Lee\" ;",
    "    :genre \"Classic\" ;",
    "    :publishedYear 1960 ;",
    "    :isbn \"978-0061120084\" ;",
    "    :coverImage \"https://example.org/covers/mockingbird.jpg\" ." ]

def books : String :=
  String.join (bookLines.map fun line => line ++ "\n")

end FactQuery.Dataset
