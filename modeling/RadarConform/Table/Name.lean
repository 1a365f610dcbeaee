import RadarConform.FilePath
import RadarConform.Version

/-!
# Names of tables

The file of a table is named after the family of standards, the revision and the product, as in
`ODIM_H5_V2_1_PVOL.csv`.

* `TableName`: the parts of a name.
* `TableName.fileName`: the name they make.
* `TableName.ofPath?`: the parts of the name at the end of a path.
-/

namespace RadarConform

/-- The parts of the name of a table. -/
structure TableName where
  family : String
  version : Version
  product : String
deriving DecidableEq

namespace TableName

/-- The family whose tables are used when nothing else is said. -/
def defaultFamily : String := "ODIM_H5"

/-- The file name of a table. -/
def fileName (n : TableName) : String :=
  n.family ++ "_" ++ n.version.tag ++ "_" ++ n.product ++ ".csv"

/-- The number of a revision after its letter `V`. -/
def major? : List Char → Option UInt32
  | 'V' :: cs => Version.component? cs
  | 'v' :: cs => Version.component? cs
  | _ => none

/-- Reads the name at the end of a path, if it is a text: cut at its last three underscores, it holds
the family, the major number after a letter `V`, the minor number and the product. -/
def ofPath? (path : FilePath) : Option TableName := do
  let extension ← RawUnit.chars? (← path.extension?)
  let stem ← RawUnit.chars? (← path.stem?)
  if extension ≠ ['c', 's', 'v'] then none
  else
    let (rest, product) ← FilePath.cutLast '_' stem
    let (rest, minor) ← FilePath.cutLast '_' rest
    let (family, major) ← FilePath.cutLast '_' rest
    if product = [] ∨ family = [] then none
    else
      let major ← major? major
      let minor ← Version.component? minor
      return { family := .ofList family, version := { major, minor }, product := .ofList product }

end TableName

end RadarConform
