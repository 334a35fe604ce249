import Checkup.Language.Basic
import Checkup.Rule.Script
import Checkup.Rule.Python
import Checkup.Rule.Page
import Checkup.Rule.Sql
import Checkup.Rule.Link

/-!
# Catalogs of rules

A catalog gives each language its table of rules. A language without one borrows the table of the
fallback language.
-/

namespace Checkup

/-- The tables of rules, for the languages that have one. -/
structure Catalog where
  table? : Language → Option (List Rule)

namespace Catalog

/-- The catalog of these tables; of two for one language the first counts. -/
def ofTables (tables : List (Language × List Rule)) : Catalog where
  table? language := tables.lookup language

def builtin : Catalog where
  table?
    | .javascript => some (Rule.javascript ++ Rule.link)
    | .typescript => some (Rule.javascript ++ Rule.typescript ++ Rule.link)
    | .python => some (Rule.python ++ Rule.link)
    | .html => some (Rule.html ++ Rule.link)
    | .css => some (Rule.css ++ Rule.link)
    | .sql => some (Rule.sql ++ Rule.link)
    | .json | .markdown => none

def hasTable (catalog : Catalog) (language : Language) : Bool := (catalog.table? language).isSome

def rulesFor (catalog : Catalog) (language : Language) : List Rule :=
  ((catalog.table? language).or (catalog.table? .fallback)).getD []

end Catalog
end Checkup
