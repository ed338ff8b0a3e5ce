import Scanout.Device.Basic
import Scanout.Display.Report

/-!
# Reports about a device

The texts that an operator reads.
-/

set_option autoImplicit false

namespace Scanout

namespace Device

def text (device : Device) : String :=
  "Device \x7b config: " ++ device.settings.text ++ ", signaler: " ++ device.timer.text
    ++ ", .. \x7d"

/-- Everything an operator wants to know about the device and its display, in lines. -/
def report (device : Device) : String :=
  "hwcompat device state:\n"
    ++ "  vsync " ++ device.timer.state.name ++ " @ " ++ device.timer.period.text ++ ", "
    ++ toString device.timer.ticks ++ " tick(s) delivered, "
    ++ toString device.ticks.pending.length ++ " buffered\n"
    ++ "  callbacks: hotplug=" ++ toString device.hotplug.isSome ++ " refresh="
    ++ toString device.refresh.isSome ++ " vsync=" ++ toString device.ticks.installed.isSome
    ++ ", " ++ toString device.owners.length ++ " layer(s) registered\n"
    ++ device.display.report

end Device

end Scanout
