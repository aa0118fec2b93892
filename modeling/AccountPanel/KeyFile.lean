import AccountPanel.PanelError

/-!
# Key files

Loading the keys that a store starts with.
-/

namespace AccountPanel.KeyFile

/-- The keys of a key file. -/
def loadFile (read : Files.Reader) (path : String) : Except PanelError (List Key) := do
  let text ← (read.text path).mapError .file
  (load text).mapError .keyFile

end AccountPanel.KeyFile
