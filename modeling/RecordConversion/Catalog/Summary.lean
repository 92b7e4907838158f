import RecordConversion.Catalog.Basic

/-!
# Summary of a catalog

A text with every namespace and, below it, its declarations with what they are.
-/

namespace RecordConversion
namespace Catalog

/-- The word for what a declaration is. -/
def declarationWord
    (catalog : Catalog) (declaration : Declaration) : String :=
  if declaration.isAlias then "alias"
  else if (catalog.table.recordBody? (.named declaration.ref)).isSome then "record"
  else "type"

/-- The lines of one namespace. -/
def spaceLines
    (catalog : Catalog) (path : String) : List String :=
  (path ++ " (" ++ catalog.localName path ++ ")") ::
    (catalog.declarationsIn path).map fun declaration =>
      "  " ++ catalog.declarationWord declaration ++ " " ++ declaration.ref.name

/-- The summary, with the number of types at its end. -/
def summary (catalog : Catalog) : String :=
  Text.unlines
    (catalog.paths.flatMap catalog.spaceLines ++ [toString catalog.typeCount ++ " type(s)"])

end Catalog
end RecordConversion
