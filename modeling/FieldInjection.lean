import FieldInjection.Main
import FieldInjection.Proofs.Characters
import FieldInjection.Proofs.SmallLetters
import FieldInjection.Proofs.Cutting
import FieldInjection.Proofs.Joining
import FieldInjection.Proofs.Tokens
import FieldInjection.Proofs.CommaLists
import FieldInjection.Proofs.Patterns
import FieldInjection.Proofs.Blocks
import FieldInjection.Proofs.Declarations
import FieldInjection.Proofs.Snapshots
import FieldInjection.Proofs.Methods
import FieldInjection.Proofs.Locations
import FieldInjection.Proofs.Membership
import FieldInjection.Proofs.Nesting
import FieldInjection.Proofs.Locality
import FieldInjection.Proofs.Configurations
import FieldInjection.Proofs.NewMethods
import FieldInjection.Proofs.Plans
import FieldInjection.Proofs.Creation
import FieldInjection.Proofs.Signatures
import FieldInjection.Proofs.Merging
import FieldInjection.Proofs.Ink
import FieldInjection.Proofs.Offers
import FieldInjection.Proofs.Frames
import FieldInjection.Proofs.Shifting
import FieldInjection.Proofs.Siblings
import FieldInjection.Proofs.ParameterLists
import FieldInjection.Proofs.Hosting
import FieldInjection.Proofs.Canonical.Types
import FieldInjection.Proofs.Canonical.FieldLines
import FieldInjection.Proofs.Canonical.Dependencies
import FieldInjection.Proofs.Canonical.Documents
import FieldInjection.Proofs.Canonical.ClassBodies
import FieldInjection.Proofs.Canonical.MethodParts
import FieldInjection.Proofs.Canonical.Sessions
import FieldInjection.Proofs.Depths
import FieldInjection.Proofs.CSharp.Documents
import FieldInjection.Proofs.Canonical.Agreement
import FieldInjection.Proofs.Commands
import FieldInjection.Proofs.Received
import FieldInjection.Proofs.Owners
import FieldInjection.Proofs.Declarators
import FieldInjection.Proofs.DeclaredNames
import FieldInjection.Proofs.Carets
import FieldInjection.Proofs.Boundaries
import FieldInjection.Proofs.Placement
import FieldInjection.Proofs.BraceStyles
import FieldInjection.Proofs.AppendedParameters
import FieldInjection.Proofs.Reproduction
import FieldInjection.Proofs.LineStructure
import FieldInjection.Proofs.Preferences
import FieldInjection.Proofs.WrittenDeclarations
import FieldInjection.Proofs.Offsets
import FieldInjection.Proofs.ParameterNames
import FieldInjection.Proofs.TokenPieces
import FieldInjection.Proofs.Separators
