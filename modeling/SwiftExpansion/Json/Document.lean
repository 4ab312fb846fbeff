import SwiftExpansion.Fault
import SwiftExpansion.Json.Reader

/-!
# JSON files

The document of a file: its octets are read as text, the text as JSON.
-/
namespace SwiftExpansion.Json

def ofOctets (octets : List UInt8) : Except Fault Json :=
  match Text.ofOctets octets with
  | .error f => .error (.encoding f)
  | .ok source =>
    match read source with
    | .error f => .error (.document f)
    | .ok j => .ok j

end SwiftExpansion.Json
