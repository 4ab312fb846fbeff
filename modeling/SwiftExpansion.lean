import SwiftExpansion.Declaration.Writer
import SwiftExpansion.Main
import SwiftExpansion.Proofs.Argument
import SwiftExpansion.Proofs.Command.AllOrNothing
import SwiftExpansion.Proofs.Config.History
import SwiftExpansion.Proofs.Config.Independence
import SwiftExpansion.Proofs.Config.RoundTrip
import SwiftExpansion.Proofs.Config.Usability
import SwiftExpansion.Proofs.Declaration.Inheritance
import SwiftExpansion.Proofs.Diagnostic
import SwiftExpansion.Proofs.Engine.Containment
import SwiftExpansion.Proofs.Engine.Schedule
import SwiftExpansion.Proofs.Expansion.Constant
import SwiftExpansion.Proofs.Expansion.Lookup
import SwiftExpansion.Proofs.Interface.Lines
import SwiftExpansion.Proofs.Interface.Requirement
import SwiftExpansion.Proofs.Interface.Secrecy
import SwiftExpansion.Proofs.Literal.Closing
import SwiftExpansion.Proofs.Literal.Escapes
import SwiftExpansion.Proofs.Literal.Multiline
import SwiftExpansion.Proofs.Literal.Refusal
import SwiftExpansion.Proofs.Mapping.DecoderShape
import SwiftExpansion.Proofs.Mapping.Fixpoint
import SwiftExpansion.Proofs.Mapping.FunctionText
import SwiftExpansion.Proofs.Mapping.Production
import SwiftExpansion.Proofs.Report.Consistency
import SwiftExpansion.Proofs.Sink
import SwiftExpansion.Proofs.Wire.Acceptance
import SwiftExpansion.Proofs.Wire.RoundTrip
