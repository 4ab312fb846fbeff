/-!
# Version

The version that the program reports of itself.
-/
namespace SwiftExpansion

def version : String := "0.3.0"

end SwiftExpansion
