import Checkup.Language.Basic
import Checkup.Pattern.Match

/-!
# The language of a filename

A filename tells its language by the extension behind its last dot.
-/

namespace Checkup.Language

def extensions : List (Language × List String) :=
  [(javascript, ["js", "jsx", "mjs", "cjs"]),
    (typescript, ["ts", "tsx", "mts", "cts"]),
    (python, ["py", "pyw", "pyi"]),
    (html, ["html", "htm", "xhtml"]),
    (css, ["css", "scss", "sass", "less"]),
    (json, ["json", "jsonc", "babelrc", "eslintrc"]),
    (sql, ["sql", "psql"]),
    (markdown, ["md", "markdown", "mdx"])]

/-- A dot and one of these extensions, in either case, at the end of a name. -/
def extensionPattern (names : List String) : Pattern :=
  .text "." ++ .caselessTexts names ++ .look .textEnd

/-- The language that a filename tells; white space around it does not count. -/
def ofFilename? (filename : String) : Option Language :=
  let name := Text.trim filename.toList
  (extensions.find? fun (_, names) => (extensionPattern names).occursIn name).map (·.1)

end Checkup.Language
