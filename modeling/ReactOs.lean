import ReactOs.Browser.PageStack
import ReactOs.Browser.Shortcuts
import ReactOs.Browser.Startup
import ReactOs.Browser.Shutdown
import ReactOs.Wpa.ConfigLaws
import ReactOs.Wpa.ConfigBlocks
import ReactOs.Wpa.Driver
import ReactOs.Iwconfig.Laws
