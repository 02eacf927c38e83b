import Scripture.Canon.Books
import Scripture.Text.Case
import Scripture.Text.Similarity

/-!
# Naming books

Which book a name stands for. The name is compared in lower case with each book's full
and short names, in canonical order: the first book whose full or short name equals the
name, or begins with it, is the one. A name that begins none of them goes to the book
with the most similar name (see `Scripture.Text.closeMatches`, with a cutoff of 3/5); a name
similar to none is Genesis.

So an empty name is Genesis, `j` is Joshua (the first book whose name begins with `j`), and
a misspelling such as `jhn` finds John by similarity.
-/

namespace Scripture.Canon

/-- The names a book is known by, in lower case: its full name and its short name, the
short name written twice as the table of names has it. -/
def lowerNames (b : Book) : List String :=
  [Text.lower b.name, Text.lower b.short, Text.lower b.short]

/-- Whether a lower-case name equals or begins one of a book's names. -/
def namesBook (name : String) (b : Book) : Bool :=
  (lowerNames b).any fun n => n == name || n.startsWith name

/-- Every name of every book, in lower case and canonical order. -/
def allLowerNames : List String := books.toList.flatMap lowerNames

/-- The position of the book that a name stands for. -/
def bookIndex (name : String) : Nat :=
  let name := Text.lower name
  match books.toList.findIdx? (namesBook name) with
  | some i => i
  | none =>
    match Text.closeMatches name allLowerNames 3 (3, 5) with
    | best :: _ => (allLowerNames.idxOf best) / 3
    | [] => 0

end Scripture.Canon
