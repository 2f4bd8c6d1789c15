import Provision.Host.Process.Arithmetic
import Provision.Host.Process.General
import Provision.Host.Process.Mathematics
import Provision.Host.Process.Network
import Provision.Host.Process.Reserved
import Provision.Host.Process.Streams
import Provision.Host.Process.System
import Provision.Host.Process.Text

/-!
# Names of a process

The names of functions and objects that every process offers: those of the C library, of its
mathematical part and of the support of compiled code.
-/

namespace Provision
namespace Process

def names : List String :=
  system ++ mathematics ++ text ++ general ++ streams ++ buffers ++ network ++ arithmetic
    ++ reserved

end Process
end Provision
