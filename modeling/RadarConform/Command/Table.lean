import RadarConform.Command.Check

/-!
# Naming the table of a file

* `runTable`: the command that prints the path of the table that a file calls for.
-/

namespace RadarConform

/-- Prints the path of the table that a file calls for, whether there is such a table or not. -/
def runTable (store : FileStore) (file : FilePath) (a : Arguments) (settings : Settings) :
    Logged CommandError Output := do
  let layout ← (Layout.load store file).mapError (.layout file.shown)
  let locator := settings.locator a.tablesDirectory
  let path ← (locator.resolve layout a.version).mapError (.choice file.shown)
  .reportIf (!store.holds path) (.tableAbsent path.shown)
  return { code := 0, text := path.shown ++ "\n" }

end RadarConform
