import Vmodl.Client.Layout
import Vmodl.Inventory.Schema

/-!
# The client of the inventory
-/

namespace Vmodl.Inventory

def rootType : String := "ServiceInstance"

def clientModule : ClientModule := .ofSchema schema rootType

def client : Client := .ofModule clientModule

def registry : Registry := clientModule.registry

end Vmodl.Inventory
