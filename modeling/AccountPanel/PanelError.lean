import AccountPanel.Files
import AccountPanel.KeyFile.Content

/-!
# Errors of the program

What can keep the program from doing what it was asked for.
-/

namespace AccountPanel

/-- Why something that was asked for cannot be done. -/
inductive PanelError where
  | keyFile (error : Json.Error)
  | file (error : Files.ReadError)
  | address
  deriving Repr, DecidableEq

/-- The words for an error. -/
def PanelError.message : PanelError → String
  | .keyFile error => "Invalid SSH key file: " ++ error.message
  | .file error => "I/O error: " ++ error.message
  | .address => "Invalid host/port format: invalid socket address syntax"

end AccountPanel
