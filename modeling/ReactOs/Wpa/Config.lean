import ReactOs.CLib
import ReactOs.Wpa.Supplicant

namespace ReactOs.Wpa

/-- At most `n` bytes of `cs`, through the first newline, and the bytes after them. -/
def readUpTo : Nat → List Char → List Char × List Char
  | 0, cs => ([], cs)
  | _ + 1, [] => ([], [])
  | n + 1, c :: cs =>
    if c = '\n' then ([c], cs)
    else
      let r := readUpTo n cs
      (c :: r.1, r.2)

/-- `fgets(s, size, fp)`: at most `size - 1` bytes, through a newline; `NULL` at the end of
the file. -/
def fgets (size : Nat) (cs : List Char) : Option (List Char × List Char) :=
  if cs = [] then none else some (readUpTo (size - 1) cs)

/-- The buffers `while (fgets(line, size, fp))` reads, in at most `fuel` reads. -/
def readLines (size : Nat) : Nat → List Char → List (List Char)
  | 0, _ => []
  | fuel + 1, cs =>
    match fgets size cs with
    | none => []
    | some (line, rest) => line :: readLines size fuel rest

/-- The characters of a buffer before its NUL: what the string functions see. -/
def cString (buf : List Char) : List Char :=
  buf.takeWhile (· ≠ '\x00')

/-- `p = strchr(line, c); if (p) *p = '\0';` -/
def cutAt (c : Char) (s : List Char) : List Char :=
  s.takeWhile (· ≠ c)

/-- `while (*p == ' ' || *p == '\t') p++;` -/
def skipBlanks (s : List Char) : List Char :=
  s.dropWhile fun c => c = ' ' || c = '\t'

/-- The text the loop body goes on with: the line without its newline, its comment and its
leading blanks. -/
def lineContent (buf : List Char) : List Char :=
  skipBlanks (cutAt '#' (cutAt '\n' (cString buf)))

/-- `sscanf(p, "%63[^=]=%127s", key, value) == 2`: a key of 1 to 63 characters other than
`=`, an `=`, then after any white space a value of 1 to 127 characters other than white
space. -/
def scanKeyValue (p : List Char) : Option (List Char × List Char) :=
  let key := (p.takeWhile (· ≠ '=')).take 63
  match p.drop key.length with
  | '=' :: rest =>
    let value := ((rest.dropWhile isSpace).takeWhile fun c => !isSpace c).take 127
    if key = [] ∨ value = [] then none else some (key, value)
  | _ => none

/-- `while (key[strlen(key)-1] == ' ') key[strlen(key)-1] = '\0';` (the key starts with a
character that is not blank, so it never runs out). -/
def trimKey (key : List Char) : List Char :=
  (key.reverse.dropWhile (· = ' ')).reverse

/-- A value `"..."` loses its two quotes: the test and the `memmove` of `parse_config_file`. -/
def unquote (value : List Char) : List Char :=
  if value.head? = some '"' ∧ value.getLast? = some '"' then value.dropLast.drop 1 else value

/-- `strstr(s, t) != NULL`. -/
def hasInfix (t : List Char) : List Char → Bool
  | [] => t.isEmpty
  | c :: cs => t.isPrefixOf (c :: cs) || hasInfix t cs

/-- The profile `calloc` and the assignments after it give each `network={` line. -/
def newProfile : NetworkProfile :=
  { ssid := "", passphrase := "", authType := .authWpa2Psk, pairwiseCipher := .cipherCcmp,
    groupCipher := .cipherCcmp, priority := 0, disabled := 0, scanSsid := 0 }

/-- The `key_mgmt` branch. -/
def keyMgmt (value : List Char) (a : AuthType) : AuthType :=
  if hasInfix "WPA-PSK".toList value then .authWpaPsk
  else if hasInfix "WPA2-PSK".toList value then .authWpa2Psk
  else if hasInfix "SAE".toList value then .authWpa3Sae
  else if hasInfix "NONE".toList value then .authOpen
  else a

/-- What a `key=value` line does to the profile of its block. `strncpy` into the zeroed
33- and 64-byte arrays keeps the first 32 and 63 characters. -/
def applySetting (net : NetworkProfile) (key value : List Char) : NetworkProfile :=
  if key = "ssid".toList then { net with ssid := ⟨value.take 32⟩ }
  else if key = "psk".toList then { net with passphrase := ⟨value.take 63⟩ }
  else if key = "key_mgmt".toList then { net with authType := keyMgmt value net.authType }
  else if key = "priority".toList then { net with priority := atoi ⟨value⟩ }
  else if key = "disabled".toList then { net with disabled := atoi ⟨value⟩ }
  else if key = "scan_ssid".toList then { net with scanSsid := atoi ⟨value⟩ }
  else net

/-- The supplicant `parse_config_file` fills, with `in_network_block` and `current_network`. -/
structure ConfigState where
  wpa : WpaSupplicant
  inNetworkBlock : Bool
  currentNetwork : Option NetworkProfile
deriving DecidableEq, Repr

/-- One pass of the loop of `parse_config_file` on the buffer `fgets` read. The last two
tests read the same `in_network_block`, so they are one `if`; of the keys outside a block only
`ap_scan` assigns anything. -/
def parseConfigLine (st : ConfigState) (buf : List Char) : ConfigState :=
  let p := lineContent buf
  if p = [] then st
  else if "network=\x7b".toList.isPrefixOf p then
    { st with inNetworkBlock := true, currentNetwork := some newProfile }
  else if st.inNetworkBlock ∧ p.head? = some '}' then
    { st with
      wpa := match st.currentNetwork with
        | some net => { st.wpa with networks := net :: st.wpa.networks }
        | none => st.wpa
      inNetworkBlock := false, currentNetwork := none }
  else if st.inNetworkBlock then
    match st.currentNetwork, scanKeyValue p with
    | some net, some (key, value) =>
      { st with currentNetwork := some (applySetting net (trimKey key) (unquote value)) }
    | _, _ => st
  else
    match scanKeyValue p with
    | some (key, value) =>
      if key = "ap_scan".toList then { st with wpa := { st.wpa with autoConnect := atoi ⟨value⟩ } }
      else st
    | none => st

/-- `parse_config_file` on the file's bytes, `none` for a file `fopen` cannot open: the
return value and the supplicant. Each read takes a byte at least, so `file.length` reads
reach the end of the file. -/
def parseConfigFile (wpa : WpaSupplicant) : Option (List Char) → Int × WpaSupplicant
  | none => (-1, wpa)
  | some file => (0, ((readLines 256 file.length file).foldl parseConfigLine ⟨wpa, false, none⟩).wpa)

end ReactOs.Wpa
