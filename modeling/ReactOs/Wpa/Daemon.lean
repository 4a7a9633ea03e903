import ReactOs.Wpa.Config

namespace ReactOs.Wpa

/-- `wpa_state_t`. -/
inductive WpaState
  | wpaDisconnected
  | wpaScanning
  | wpaAuthenticating
  | wpaAssociating
  | wpaAssociated
  | wpa4WayHandshake
  | wpaGroupHandshake
  | wpaCompleted
deriving DecidableEq, Repr

/-- What the driver answers an `ioctl`: success, or a failure with `errno` `EBUSY`, `EAGAIN` or
another value. -/
inductive IoctlResult
  | ok
  | eBusy
  | eAgain
  | failed
deriving DecidableEq, Repr

/-- The `ioctl`s the threads make on the supplicant's socket: `SIOCSIWSCAN`, `SIOCGIWSCAN`,
`SIOCSIWESSID` with the profile's SSID, and `SIOCSIWENCODE` with its passphrase. -/
inductive DriverRequest
  | triggerScan
  | readScan
  | setEssid (ssid : String)
  | setEncode (key : String)
deriving DecidableEq, Repr

/-- Where a thread is in its loop `while (wpa_s->running) { ... }`: before the test, past it
(sleeping, then taking the mutex for the body), or returned. -/
inductive ThreadPc
  | loopTest
  | body
  | exited
deriving DecidableEq, Repr

/-- What the threads share: `wpa_supplicant_t` with its `state`, `current_network` and
`running`, where each thread is, and the requests made of the driver so far. -/
structure Daemon where
  wpa : WpaSupplicant
  state : WpaState
  currentNetwork : Option NetworkProfile
  running : Int
  eventPc : ThreadPc
  scanPc : ThreadPc
  sent : List DriverRequest
deriving DecidableEq, Repr

/-- `trigger_scan`: the state is `WPA_SCANNING` before the `ioctl`, whatever it answers; an error
other than `EBUSY` returns `-1`. -/
def triggerScan (d : Daemon) (r : IoctlResult) : Int × Daemon :=
  let d := { d with state := .wpaScanning, sent := d.sent ++ [.triggerScan] }
  match r with
  | .ok | .eBusy => (0, d)
  | .eAgain | .failed => (-1, d)

/-- `get_scan_results`: `-1` when `malloc` fails or the `ioctl` fails other than with `EAGAIN`,
`0` with nothing changed on `EAGAIN`; on success the old scan results are freed, and no result
is added. -/
def getScanResults (d : Daemon) (allocated : Bool) (r : IoctlResult) : Int × Daemon :=
  if !allocated then (-1, d)
  else
    let d := { d with sent := d.sent ++ [.readScan] }
    match r with
    | .ok => (0, { d with wpa := { d.wpa with scanResults := [] } })
    | .eAgain => (0, d)
    | .eBusy | .failed => (-1, d)

/-- `connect_to_network`: `current_network` and `WPA_ASSOCIATING` are set before the first
`ioctl`; failing to set the ESSID returns `-1`, and the key of a protected network is sent after
it, a failure only logged. -/
def connectToNetwork (d : Daemon) (net : NetworkProfile) (essid : IoctlResult) : Int × Daemon :=
  let d := { d with
    currentNetwork := some net, state := .wpaAssociating, sent := d.sent ++ [.setEssid net.ssid] }
  if essid ≠ .ok then (-1, d)
  else if net.authType ≠ .authOpen then (0, { d with sent := d.sent ++ [.setEncode net.passphrase] })
  else (0, d)

/-- The driver's answers to what one pass of `event_handler` may ask, and whether its `malloc`
succeeds. -/
structure EventAnswers where
  scanTrigger : IoctlResult
  bufferAllocated : Bool
  scanRead : IoctlResult
  essidSet : IoctlResult
deriving DecidableEq, Repr

/-- The body of `event_handler`'s loop, between `pthread_mutex_lock` and `_unlock`. -/
def eventHandlerBody (d : Daemon) (a : EventAnswers) : Daemon :=
  match d.state with
  | .wpaDisconnected => if d.wpa.autoConnect ≠ 0 then (triggerScan d a.scanTrigger).2 else d
  | .wpaScanning =>
    let r := getScanResults d a.bufferAllocated a.scanRead
    if r.1 = 0 then
      match selectNetwork r.2.wpa with
      | some net => (connectToNetwork r.2 net a.essidSet).2
      | none => { r.2 with state := .wpaDisconnected }
    else r.2
  | .wpaAssociating => { d with state := .wpa4WayHandshake }
  | .wpa4WayHandshake => { d with state := .wpaCompleted }
  | _ => d

/-- The body of `scan_handler`'s loop. -/
def scanHandlerBody (d : Daemon) (r : IoctlResult) : Daemon :=
  if d.state = .wpaDisconnected then (triggerScan d r).2 else d

/-- `signal_handler`, with `global_wpa_s` set: it clears `running`, without the mutex. -/
def signalHandler (d : Daemon) : Daemon :=
  { d with running := 0 }

/-- The steps an interleaving is made of: a thread's test of `running`, a thread's body with
the driver's answers, and a signal. The bodies run under the mutex, and the signal handler
writes only `running`, which no body reads: each step is atomic. -/
inductive DaemonAction
  | eventTest
  | eventBody (a : EventAnswers)
  | scanTest
  | scanBody (r : IoctlResult)
  | signal
deriving DecidableEq, Repr

/-- Where a thread goes from its test of `running`. -/
def loopTest (running : Int) : ThreadPc :=
  if running ≠ 0 then .body else .exited

/-- One step; `none` when the step's thread is not where the step starts. -/
def DaemonAction.run (d : Daemon) : DaemonAction → Option Daemon
  | .eventTest => if d.eventPc = .loopTest then some { d with eventPc := loopTest d.running } else none
  | .eventBody a =>
    if d.eventPc = .body then some { eventHandlerBody d a with eventPc := .loopTest } else none
  | .scanTest => if d.scanPc = .loopTest then some { d with scanPc := loopTest d.running } else none
  | .scanBody r =>
    if d.scanPc = .body then some { scanHandlerBody d r with scanPc := .loopTest } else none
  | .signal => some (signalHandler d)

/-- An interleaving of the two threads and the signals. -/
def runDaemon : Daemon → List DaemonAction → Option Daemon
  | d, [] => some d
  | d, a :: as => (a.run d).bind fun d' => runDaemon d' as

/-- The threads' shared state as `main` creates them: `memset` to zero, `running = 1`, the
profiles and `ap_scan` of the configuration file, both threads before their first test. -/
def daemonStart (wpa : WpaSupplicant) : Daemon :=
  ⟨wpa, .wpaDisconnected, none, 1, .loopTest, .loopTest, []⟩

/-- How `main` ends or hands over to its threads. -/
inductive SupplicantMain
  | exited (code : Int)
  | running (d : Daemon)

/-- `main` from `parse_config_file` on: the file's bytes (`none` when `fopen` fails), whether
`socket` succeeds, and whether each `pthread_create` does. -/
def supplicantMain (file : Option (List Char)) (socketOk eventThread scanThread : Bool) :
    SupplicantMain :=
  let parsed := parseConfigFile ⟨[], [], 1⟩ file
  if parsed.1 < 0 then .exited 1
  else if !socketOk then .exited 1
  else if !eventThread then .exited 1
  else if !scanThread then .exited 1
  else .running (daemonStart parsed.2)

end ReactOs.Wpa
