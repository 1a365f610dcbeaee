import RadarConform.Event
import RadarConform.Layout
import RadarConform.Table.Error
import RadarConform.Table.Name

/-!
# Choosing the table for a file

The table that a file is to be checked against follows from what the file says about itself: the
revision it declares and its product.

* `TableLocator`: the directory and family of tables to choose from.
* `TableLocator.resolve`: the path of the table for a layout.
-/

namespace RadarConform

/-- Where tables are looked for. -/
structure TableLocator where
  directory : FilePath
  family : String
deriving DecidableEq

namespace TableLocator

/-- The tables of the usual family in a directory. -/
def ofDirectory (directory : FilePath) : TableLocator :=
  { directory, family := TableName.defaultFamily }

/-- The path of the table for a layout: of the given revision or else the one that the layout
declares, and of the product that the layout names. -/
def resolve (l : TableLocator) (layout : Layout) (override : Option Version) :
    Logged TableError FilePath :=
  match override <|> layout.declaredVersion with
  | none => .ofExcept (.error (.unresolvable .noVersion))
  | some version =>
    match layout.product with
    | none => .ofExcept (.error (.unresolvable .noProduct))
    | some product => do
      let name : TableName := { family := l.family, version, product }
      let path := FilePath.join l.directory name.fileName
      .report (.resolvedTable path.shown version product override.isSome)
      return path

end TableLocator

end RadarConform
