import GcpMonitor.Python.Text

namespace GcpMonitor.Python

/-- A `valueError` without a message is one that a built-in function raises. -/
inductive PyError where
  | attributeError
  | keyError
  | indexError
  | typeError
  | valueError (message : Option Text)
  | overflowError
  | yamlError
  | invalidURL
  | exception (message : String)
  deriving DecidableEq, Repr

end GcpMonitor.Python
