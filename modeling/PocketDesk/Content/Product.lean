/-! What the desktop calls itself, and what it prints while it starts. -/

namespace PocketDesk

def productName : String := "GelOS"

def productVersion : String := "2.0"

def bootLines : List String :=
  [ "Initializing GELO-KERNEL v2.0..."
  , "Loading BIOS settings... [OK]"
  , "Verifying CPU microcode... [OK]"
  , "Mounting root filesystem (/) read-only..."
  , "Checking integrity of filesystem..."
  , "Remounting root filesystem read-write... [OK]"
  , "Loading kernel modules..."
  , "   - crypto_user.ko"
  , "   - security_layer.ko"
  , "   - networking.ko"
  , "[OK] Interfaces: eth0, wlan0 initialized."
  , "Starting Network Manager..."
  , "   > Connecting to secure-node-1..."
  , "[OK] Connection established."
  , "Loading Portfolio Assets..."
  , "Starting Graphical User Interface..."
  , "Welcome, User." ]

/-- The part of a boot line that is highlighted. -/
def okTag : String := "[OK]"

end PocketDesk
