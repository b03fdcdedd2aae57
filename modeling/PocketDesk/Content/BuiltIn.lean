import PocketDesk.Manifest.Building

/-! The tree that every visitor sees. -/

namespace PocketDesk

namespace BuiltIn

def text (name content : String) : Entry :=
  { name := name, kind := "text", content := some content }

def shortcut (window : String) : Entry :=
  { name := window ++ ".lnk", kind := "shortcut", window := some window }

def certificate (file : String) : Entry :=
  { name := file, kind := "pdf", path := some ("assets/certs/" ++ file) }

def picture (file : String) : Entry :=
  { name := file, kind := "img", path := some ("assets/pics/" ++ file) }

def directory (name : String) (children : List Entry) : Entry :=
  { name := name, kind := "directory", children := children }

def manifest : Manifest where
  root :=
    [ text "about.txt" "I am Gelo, a CS student specializing in Cybersecurity."
    , directory "desktop"
        [ shortcut "terminal"
        , shortcut "files"
        , shortcut "browser"
        , shortcut "readme"
        , shortcut "settings"
        , shortcut "mail" ]
    , directory "documents"
        [ certificate "cert_c3sa.pdf"
        , certificate "cert_ccep.pdf"
        , certificate "cert_cpps.pdf"
        , certificate "cert_crtom.pdf" ]
    , directory "pictures"
        [ picture "01_PyConAPAC.jpg"
        , picture "02_HWMUN.jpg"
        , picture "03_ArduinoDayPH.jpg"
        , picture "04_YSESIdeathon.jpg"
        , picture "05_AWSPartyRockHackathon.jpg"
        , picture "06_BitcoinPizzaDay.jpg"
        , picture "07_APCFest2025.jpg"
        , picture "08_GDGMNLBuildWithAI.jpg"
        , picture "09_Innoverse.jpg"
        , picture "10_CyberPHMeetup1.JPG"
        , picture "11_WhoscallRelaunch.jpg"
        , picture "12_NotionWorkshop.jpg"
        , picture "13_RecognitionDay.jpg"
        , picture "14_CursorMeetup2.jpeg"
        , picture "15_EngagedtoCharl.jpg"
        , picture "16_HackForGov2025NCR.jpg"
        , picture "17_GDGMNLDevFest.jpg"
        , picture "18_HackForGov2025Finals.jpg" ] ]

end BuiltIn

/-- The built-in tree; an empty one, should its manifest be at fault. -/
def Tree.builtIn : Tree := (Tree.ofManifest BuiltIn.manifest).toOption.getD .empty

end PocketDesk
