import ReactOs.CLib

namespace ReactOs.Iwconfig

/-- `IW_MODE_AUTO` and the other modes of `<linux/wireless.h>` that `set_mode` writes. -/
def iwModeAuto : Nat := 0
def iwModeAdhoc : Nat := 1
def iwModeInfra : Nat := 2
def iwModeMaster : Nat := 3
def iwModeRepeat : Nat := 4
def iwModeMonitor : Nat := 6

/-- `IW_FREQ_FIXED`, `IW_ENCODE_DISABLED`, `IW_ENCODE_RESTRICTED` and `IW_TXPOW_DBM`. -/
def iwFreqFixed : Nat := 0x01
def iwEncodeDisabled : Nat := 0x8000
def iwEncodeRestricted : Nat := 0x4000
def iwTxpowDbm : Nat := 0x0000

/-- The part of `struct iwreq` a setter fills, after `memset` to zero, with its `ioctl`. -/
inductive IwSetting
  /-- `SIOCSIWESSID`: `flags`, and the ESSID its pointer and length give (`NULL` for none). -/
  | essid (flags : Nat) (essid : Option String)
  /-- `SIOCSIWMODE`: `u.mode`. -/
  | mode (mode : Nat)
  /-- `SIOCSIWFREQ`: `m`, `e` and `flags` of `u.freq`. -/
  | freq (m e : Int) (flags : Nat)
  /-- `SIOCSIWTXPOW`: `value`, `fixed`, `disabled` and `flags` of `u.txpower`. -/
  | txpower (value : Int) (fixed disabled flags : Nat)
  /-- `SIOCSIWENCODE`: `flags`, and the key its pointer and length give (`NULL` for none). -/
  | encode (flags : Nat) (key : Option String)
deriving DecidableEq, Repr

/-- A request to the driver: `ifr_name`, which `strncpy` fills with at most `IFNAMSIZ` (16)
bytes of the interface's name, and the setting. -/
structure IwRequest where
  ifrName : List Char
  setting : IwSetting
deriving DecidableEq, Repr

/-- What a setter does before its `ioctl`: reject its argument with the message it prints
(it then returns `-1`), make a request, or have undefined behaviour. -/
inductive Setter
  | invalid (message : String)
  | request (setting : IwSetting)
  | undefined
deriving DecidableEq, Repr

/-- `set_essid`: `off` and `any` send no ESSID with flags 0, anything else is sent with
flags 1. -/
def setEssid (essid : String) : Setter :=
  if essid = "off" ∨ essid = "any" then .request (.essid 0 none)
  else .request (.essid 1 (some essid))

/-- `strcasecmp(a, b) == 0`: the bytes are equal after `tolower`, which in the C locale maps
`A`–`Z` only. -/
def strcasecmpEq (a b : String) : Bool :=
  a.toList.map Char.toLower = b.toList.map Char.toLower

/-- `set_mode`: the names are compared without regard to case. -/
def setMode (mode : String) : Setter :=
  if strcasecmpEq mode "managed" || strcasecmpEq mode "station" then .request (.mode iwModeInfra)
  else if strcasecmpEq mode "ad-hoc" || strcasecmpEq mode "adhoc" then .request (.mode iwModeAdhoc)
  else if strcasecmpEq mode "master" || strcasecmpEq mode "ap" then .request (.mode iwModeMaster)
  else if strcasecmpEq mode "monitor" then .request (.mode iwModeMonitor)
  else if strcasecmpEq mode "repeater" then .request (.mode iwModeRepeat)
  else if strcasecmpEq mode "auto" then .request (.mode iwModeAuto)
  else .invalid ("Error: Invalid mode '" ++ mode ++ "'\n")

/-- The `double freq` of `set_channel`, in Hz. Each step is exact in `double`: the product with
`5e6` and the sum are integers of the form `k * 2^6` with `|k| < 2^53`. -/
def channelFrequency (channel : Int) : Int :=
  if channel ≤ 14 then 2407000000 + channel * 5000000 else 5000000000 + channel * 5000000

/-- `(int)v` for a `double` holding the integer `v`: undefined behaviour unless `v` fits in
an `int`. -/
def doubleToInt (v : Int) : Option Int :=
  if -2 ^ 31 ≤ v ∧ v < 2 ^ 31 then some v else none

/-- `set_channel`: `u.freq.m = (int)freq`, `e = 0`, `flags = IW_FREQ_FIXED`. -/
def setChannel (channel : Int) : Setter :=
  match doubleToInt (channelFrequency channel) with
  | some m => .request (.freq m 0 iwFreqFixed)
  | none => .undefined

/-- The ` (Channel %d)` that `print_interface_info` prints after a frequency of `freq` Hz: in the
2.4 GHz band the channels 1 to 14 counted from 2.407 GHz, in the 5 GHz band every channel
counted from 5 GHz, in steps of 5 MHz, with `(int)` truncating toward zero. The driver gives the
frequency as `m * 10^e`; for `e ≥ 0` each step is exact in `double` inside the bands (integers
below `2^53`, and quotients below 200 that no rounding carries past an integer), and a product
outside the bands rounds to a value outside them. -/
def printedChannel (freq : Int) : Option Int :=
  if 2400000000 ≤ freq ∧ freq ≤ 2500000000 then
    let channel := (freq - 2407000000).tdiv 5000000
    if 1 ≤ channel ∧ channel ≤ 14 then some channel else none
  else if 5000000000 ≤ freq ∧ freq ≤ 6000000000 then some ((freq - 5000000000).tdiv 5000000)
  else none

/-- `set_txpower`: `off`, `auto`, or a decimal number of dBm that `strtol` reads to the end. -/
def setTxpower (power : String) : Setter :=
  if power = "off" then .request (.txpower 0 0 1 0)
  else if power = "auto" then .request (.txpower 0 0 0 0)
  else
    let r := strtol power.toList
    if r.2 ≠ [] then .invalid ("Error: Invalid txpower value '" ++ power ++ "'\n")
    else .request (.txpower (longToInt r.1) 1 0 iwTxpowDbm)

/-- `set_key`: `off` disables encryption, anything else is sent as the key itself. -/
def setKey (key : String) : Setter :=
  if key = "off" then .request (.encode iwEncodeDisabled none)
  else .request (.encode iwEncodeRestricted (some key))

/-- The settings `main`'s loop tests, in its order: the setter, on the argument's text, and
the name its `ioctl` error gives. `channel` goes through `atoi`. -/
def settingOf (keyword : String) : Option ((String → Setter) × String) :=
  if keyword = "essid" then some (setEssid, "ESSID")
  else if keyword = "mode" then some (setMode, "mode")
  else if keyword = "channel" then some (fun v => setChannel (atoi v), "channel")
  else if keyword = "txpower" then some (setTxpower, "txpower")
  else if keyword = "key" then some (setKey, "encryption key")
  else none

/-- Why the loop of `main` stops early; each ends `main` with `return 1`. -/
inductive IwError
  | missingArgument (keyword : String)
  | invalidArgument (message : String)
  | ioctlFailed (setting : String)
  | unknownParameter (parameter : String)
deriving DecidableEq, Repr

/-- What `main` prints to `stderr` for an error: an `ioctl` error goes on with
`strerror(errno)`, an unknown parameter with the usage text on `stdout`. -/
def IwError.message : IwError → String
  | .missingArgument keyword => "Error: " ++ keyword ++ " requires an argument\n"
  | .invalidArgument message => message
  | .ioctlFailed setting => "Error setting " ++ setting ++ ": "
  | .unknownParameter parameter => "Error: Unknown parameter '" ++ parameter ++ "'\n"

/-- The loop of `main` over `argv[2..]` for the interface `ifname`, with the driver's answers
(`answer sent r`: whether the `ioctl` for `r` succeeds after the requests `sent`). The requests
made, and the error that ends the loop if any; `none` is undefined behaviour. -/
def setLoop (answer : List IwRequest → IwRequest → Bool) (ifname : String) :
    List IwRequest → List String → Option (List IwRequest × Option IwError)
  | sent, [] => some (sent, none)
  | sent, [keyword] =>
    match settingOf keyword with
    | some _ => some (sent, some (.missingArgument keyword))
    | none =>
      if keyword = "commit" then setLoop answer ifname sent []
      else some (sent, some (.unknownParameter keyword))
  | sent, keyword :: value :: rest =>
    match settingOf keyword with
    | some (setter, name) =>
      match setter value with
      | .request s =>
        let r : IwRequest := ⟨ifname.toList.take 16, s⟩
        if answer sent r then setLoop answer ifname (sent ++ [r]) rest
        else some (sent ++ [r], some (.ioctlFailed name))
      | .invalid message => some (sent, some (.invalidArgument message))
      | .undefined => none
    | none =>
      if keyword = "commit" then setLoop answer ifname sent (value :: rest)
      else some (sent, some (.unknownParameter keyword))

/-- The test of `main` without arguments on an interface's name, in its order:
`strncmp(name, p, strlen(p)) == 0` for `wlan`, `ath`, `wifi` and `wl`. -/
def isWirelessName (name : String) : Bool :=
  "wlan".toList.isPrefixOf name.toList || "ath".toList.isPrefixOf name.toList ||
    "wifi".toList.isPrefixOf name.toList || "wl".toList.isPrefixOf name.toList

/-- `main` without arguments (`argc == 1`): `socket`, then the names `if_nameindex` lists up to
its terminating entry (`none` when it fails). The exit code and the interfaces whose
information `print_interface_info` prints, in order. -/
def iwconfigList (socketOk : Bool) (interfaces : Option (List String)) : Int × List String :=
  if !socketOk then (1, [])
  else match interfaces with
    | none => (1, [])
    | some names => (0, names.filter isWirelessName)

/-- `main` with an interface and settings (`argc > 2`): `socket`, then the loop. The exit code
and the requests made; `none` is undefined behaviour. -/
def iwconfigSet (socketOk : Bool) (answer : List IwRequest → IwRequest → Bool) (ifname : String)
    (settings : List String) : Option (Int × List IwRequest) :=
  if !socketOk then some (1, [])
  else (setLoop answer ifname [] settings).map fun r => (if r.2 = none then 0 else 1, r.1)

end ReactOs.Iwconfig
