import Handheld.Joypad
import Handheld.Serial
import Handheld.Window

/-!
What is attached to the processor's board: the serial link, the joypad, and the memories of the
display and sound circuits.
-/

namespace Handheld

/-- The state of everything attached. -/
structure Peripherals where
  serial : Serial := {}
  joypad : Joypad := {}
  vram : Window 0x2000 := { name := "vram", start := 0x8000 }
  oam : Window 0xA0 := { name := "oam", start := 0xFE00 }
  audio : Window 0x30 := { name := "audio", start := 0xFF10 }
  video : Window 0x0C := { name := "video", start := 0xFF40 }
  deriving DecidableEq, Repr

/-- The attached devices after a reset. -/
def Peripherals.reset (peripherals : Peripherals) : Peripherals where
  serial := peripherals.serial.reset
  joypad := {}
  vram := peripherals.vram.reset
  oam := peripherals.oam.reset
  audio := peripherals.audio.reset
  video := peripherals.video.reset

end Handheld
