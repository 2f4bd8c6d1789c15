import Provision.Code.Laws
import Provision.DataType.Serial
import Provision.Host.Arena
import Provision.Host.Rehearsed
import Provision.Memory.Laws
import Provision.Module.Laws
import Provision.Proofs.DataType.NormalForm
import Provision.Proofs.Module.Written
import Provision.Proofs.Product.Bounds
import Provision.Proofs.Product.Dot.Correct
import Provision.Proofs.Provider.Chronicle
import Provision.Proofs.Provider.History
import Provision.Proofs.Provider.Interchange
import Provision.Proofs.Provider.Preserving
import Provision.Proofs.Provider.Refusal
import Provision.Proofs.Provider.Registering
import Provision.Proofs.Provider.Telling
import Provision.Proofs.Script.Conversion
import Provision.Proofs.Session.Calls
import Provision.Proofs.Session.Code
import Provision.Proofs.Session.Symbols
import Provision.Proofs.Text.Numeral
import Provision.Session
import Provision.Target.Environment
