import SwiftExpansion.Config.Settings
import SwiftExpansion.Declaration.Basic
import SwiftExpansion.Text.Blank

/-!
# Methods that take a decoder

A method takes the decoder when its only parameter has the decoder's label and one of its accepted
types. Blanks inside a type play no part, and neither does anything else about the method.
-/
namespace SwiftExpansion.Mapping

def decoderSpellings (s : Settings) : List String :=
  (s.decoderType :: s.acceptedDecoderTypes).map Text.squeezed

/-- Whether a method has the shape `(map: Map)`. The type is looked at last. -/
def acceptsDecoder (s : Settings) (m : Method Json) : Except Fault Bool :=
  match m.parameters with
  | [p] =>
    if p.argumentLabel.isText s.decoderParameter && !p.isInout then do
      let type ← p.type.textFor "split"
      return (decoderSpellings s).contains (Text.squeezed type)
    else .ok false
  | _ => .ok false

def hasDecodingInitializer (s : Settings) (d : Declaration Json) : Except Fault Bool :=
  d.methods.anyM fun m =>
    if m.name.isText "init" && m.isFailable then acceptsDecoder s m else .ok false

def hasMappingFunction (s : Settings) (d : Declaration Json) : Except Fault Bool :=
  d.methods.anyM fun m =>
    if m.name.isText s.mappingFunction then acceptsDecoder s m else .ok false

end SwiftExpansion.Mapping
