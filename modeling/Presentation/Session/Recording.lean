import Presentation.Session.Performance
import Presentation.Vulkan.Scene

/-!
# Recordings

Vulkan sessions on the scripted driver, which takes changes of its scene as
directions, and the objects that outlive them.
-/

set_option autoImplicit false

namespace Presentation.Session

open Vulkan (Scene)

namespace Recording

abbrev Action := Performance.Action (List Scene.Change)

abbrev Command := Performance.Command (List Scene.Change)

abbrev Row := Performance.Row

def scripted : Actor Scene (List Scene.Change) where
  answer := Scene.answer
  direct changes scene := scene.changeAll changes

def rows (hub : Log.Hub) (scene : Scene) (host : Vulkan.Host) (window : Window)
    (config : DeviceConfig) (commands : List Command) : List Row × List Vulkan.Object :=
  let (rows, r) := Performance.whole scripted hub scene host window config commands
  (rows, r.driver.live)

end Recording

end Presentation.Session
