import Collation.Main
import Collation.Navigation
import Collation.Proofs.Cli.Grouping
import Collation.Proofs.Multimap.Atomicity
import Collation.Proofs.Multimap.Duality
import Collation.Proofs.Multimap.Propagation
import Collation.Proofs.Multimap.Refinement
import Collation.Proofs.Navigation.Ranges
import Collation.Proofs.Registry.Failure
import Collation.Proofs.Session.Merging
import Collation.Proofs.Session.Placing
import Collation.Proofs.Session.Replacing
import Collation.Proofs.Session.Updating
import Collation.Proofs.Sets.Rebuilding
import Collation.Proofs.Views.Editing
import Collation.Proofs.Views.Reading
import Collation.Proofs.Wire.Accounting
import Collation.Proofs.Wire.Failure
import Collation.Proofs.Wire.Faithful
import Collation.Proofs.Wire.Grammar
import Collation.Proofs.Wire.Independence
import Collation.Proofs.Wire.Names
import Collation.Proofs.Wire.Tampering
import Collation.Proofs.Wire.Truncation
import Collation.Session.Functions
import Collation.SetAlgebra
