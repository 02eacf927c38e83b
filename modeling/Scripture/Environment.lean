import Scripture.Failure
import Scripture.Text.Case

/-!
# What the program finds around it

The program runs without the external Bible library, without the desktop toolkit, and on
a runtime whose web helpers no longer offer an escaping function; it reads text in the
encoding of the locale and assumes a terminal of 25 lines of 80 columns when none can be
asked.

* `encodingOf` — the text encoding of a locale: ASCII for the plain `C` (or `POSIX`)
  locale, UTF-8 otherwise.
* `loadFailure` — why each optional part of the program cannot be loaded.
* `forwardedWrites` — what an output redirection passes on: every piece written that is not
  only blanks.
-/

namespace Scripture

/-- The text encoding of a locale; no locale means the default UTF-8 one. -/
def encodingOf (locale : Option String) : String :=
  match locale with
  | some "C" | some "POSIX" => "ascii"
  | _ => "UTF-8"

/-- The height and width of the terminal the program assumes. -/
def screenSize : Nat × Nat := (25, 80)

/-- Why an optional part of the program cannot be loaded: the first thing it needs that is
missing. -/
def loadFailure : String → Option Failure
  | "sword_verses" => some ⟨.missingModule, "No module named 'Sword'"⟩
  | "biblesearch_web" => some ⟨.missingModule, "No module named 'gi'"⟩
  | "python2/biblesearch_app" => some ⟨.missingImport, "cannot import name 'escape' from 'cgi'"⟩
  | _ => none

/-- The pieces an output redirection passes on, for texts each printed with the ending
`ending`: each text and each ending is written on its own, and only those that are not
only blanks are passed on. -/
def forwardedWrites (texts : List String) (ending : String) : List String :=
  (texts.flatMap fun t => [t, ending]).filter fun s => !(Text.trimBlank s).isEmpty

end Scripture
