import Bootstrap.Engine
import Bootstrap.Text.Blank

/-!
Toy modules: plain texts whose first line says what their export does.
-/

namespace Bootstrap

namespace Toy

/-- What a toy module does; a compiler's tag is the number of its generation, or any other word. -/
inductive Module where
  | compiler (tag : String)
  | answer (literal : String)
  | expectInput (expected : Bytes)
  | trap (message : String)
  | unmarshalable
  deriving DecidableEq, Repr

namespace Module

def header (text : String) : String :=
  Text.trim ((Text.lines text).head?.getD "")

def unescape (text : String) : Bytes :=
  Utf8.encode (Text.replace (Text.replace text "\\n" "\n") "\\t" "\t")

def splitDirective (directive : String) : String × String :=
  match Text.splitFirst? ' ' directive.toList with
  | some (operation, argument) => (String.ofList operation, String.ofList argument)
  | none => (directive, "")

def ofDirective (directive : String) : Except Fault Module :=
  let (operation, argument) := splitDirective directive
  if operation = "return" then .ok (.answer argument)
  else if operation = "expect-input" then .ok (.expectInput (unescape argument))
  else if operation = "trap" then .ok (.trap argument)
  else if operation = "unmarshalable" then .ok .unmarshalable
  else .error (.load ("unknown directive '" ++ operation ++ "'"))

def ofHeader (line : String) : Except Fault Module :=
  match Text.dropPrefix? line "compiler " with
  | some tag => .ok (.compiler (Text.trim tag))
  | none =>
      match Text.dropPrefix? line "test" with
      | some directive => ofDirective (Text.trim directive)
      | none => .error (.load ("not a module: '" ++ line ++ "'"))

def parse (bytes : Bytes) : Except Fault Module :=
  match Utf8.decode bytes with
  | .ok text => ofHeader (header text)
  | .error fault => .error (.load ("not a module: " ++ fault.message))

end Module

end Toy

end Bootstrap
