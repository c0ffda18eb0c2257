import HidDescriptor.Main
import HidDescriptor.Proofs.Atomicity
import HidDescriptor.Proofs.Decoding
import HidDescriptor.Proofs.Diagnosis
import HidDescriptor.Proofs.Layering
import HidDescriptor.Proofs.Rejection
import HidDescriptor.Proofs.Rendering
import HidDescriptor.Proofs.Grammar
import HidDescriptor.Proofs.LineEnds
import HidDescriptor.Proofs.Places
import HidDescriptor.Proofs.TableData
import HidDescriptor.Proofs.Output
import HidDescriptor.Proofs.Widths
import HidDescriptor.Proofs.Layouts
import HidDescriptor.Proofs.Representable
import HidDescriptor.Proofs.Enumerations
import HidDescriptor.Proofs.Groups
import HidDescriptor.Proofs.TableNames
import HidDescriptor.Proofs.Precedence
import HidDescriptor.Proofs.Flags
import HidDescriptor.Proofs.Keypad
import HidDescriptor.Proofs.Comments
import HidDescriptor.Proofs.SignMagnitude
import HidDescriptor.Proofs.CanonicalPayloads
import HidDescriptor.Proofs.Scopes
import HidDescriptor.Proofs.Spellings
