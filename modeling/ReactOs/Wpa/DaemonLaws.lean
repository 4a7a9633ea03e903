import ReactOs.Wpa.Daemon

namespace ReactOs.Wpa

@[simp] theorem triggerScan_snd (d : Daemon) (r : IoctlResult) :
    (triggerScan d r).2 = { d with state := .wpaScanning, sent := d.sent ++ [.triggerScan] } := by
  cases r <;> rfl

/-- `get_scan_results` changes nothing, or sends its request, and on success also empties the
scan results. -/
theorem getScanResults_cases (d : Daemon) (allocated : Bool) (r : IoctlResult) :
    (getScanResults d allocated r).2 = d ∨
      (getScanResults d allocated r).2 = { d with sent := d.sent ++ [.readScan] } ∨
      (getScanResults d allocated r).2 =
        { d with wpa := { d.wpa with scanResults := [] }, sent := d.sent ++ [.readScan] } := by
  cases allocated <;> cases r
  all_goals first | exact .inl rfl | exact .inr (.inl rfl) | exact .inr (.inr rfl)

theorem getScanResults_eq (d : Daemon) (allocated : Bool) (r : IoctlResult) :
    ∃ s l, (getScanResults d allocated r).2 =
      { d with wpa := { d.wpa with scanResults := s }, sent := d.sent ++ l } := by
  rcases getScanResults_cases d allocated r with h | h | h <;> rw [h]
  exacts [⟨d.wpa.scanResults, [], by simp⟩, ⟨_, _, rfl⟩, ⟨_, _, rfl⟩]

theorem connectToNetwork_eq (d : Daemon) (net : NetworkProfile) (essid : IoctlResult) :
    ∃ l, (connectToNetwork d net essid).2 =
      { d with currentNetwork := some net, state := .wpaAssociating, sent := d.sent ++ l } := by
  unfold connectToNetwork
  split_ifs
  exacts [⟨_, rfl⟩, ⟨[.setEssid net.ssid, .setEncode net.passphrase], by simp⟩, ⟨_, rfl⟩]

theorem selectNetwork_of_scanResults_nil {wpa : WpaSupplicant} (h : wpa.scanResults = []) :
    selectNetwork wpa = none := by
  rw [selectNetwork_eq, show candidates wpa = [] by simp [candidates, h]]
  rfl

/-- `select_network` picks an enabled profile of the configuration. -/
theorem selectNetwork_some {wpa : WpaSupplicant} (h : selectNetwork wpa = some net) :
    net ∈ wpa.networks ∧ net.disabled = 0 := by
  rw [selectNetwork_eq] at h
  rcases (foldl_improve (candidates wpa) ⟨none, -1, -1000⟩).2.2 with he | ⟨c, hc, he, -⟩
  · rw [he] at h; cases h
  · rw [he] at h
    cases h
    exact ⟨(mem_candidates.mp hc).1, (mem_candidates.mp hc).2.1⟩

theorem parseConfigLine_scanResults (st : ConfigState) (buf : List Char) :
    (parseConfigLine st buf).wpa.scanResults = st.wpa.scanResults := by
  unfold parseConfigLine
  generalize lineContent buf = p
  dsimp only
  by_cases h1 : p = []
  · rw [if_pos h1]
  rw [if_neg h1]
  by_cases h2 : "network=\x7b".toList.isPrefixOf p
  · rw [if_pos h2]
  rw [if_neg h2]
  by_cases h3 : st.inNetworkBlock ∧ p.head? = some '}'
  · rw [if_pos h3]; split <;> rfl
  rw [if_neg h3]
  by_cases h4 : st.inNetworkBlock = true
  · rw [if_pos h4]; split <;> rfl
  rw [if_neg h4]
  split
  · split <;> rfl
  · rfl

/-- `parse_config_file` never touches the scan results. -/
theorem parseConfigFile_scanResults (wpa : WpaSupplicant) (file : Option (List Char)) :
    (parseConfigFile wpa file).2.scanResults = wpa.scanResults := by
  cases file with
  | none => rfl
  | some file =>
    suffices ∀ (bufs : List (List Char)) (st : ConfigState),
        (bufs.foldl parseConfigLine st).wpa.scanResults = st.wpa.scanResults from this _ _
    intro bufs
    induction bufs with
    | nil => intro st; rfl
    | cons b bufs ih => intro st; rw [List.foldl_cons, ih, parseConfigLine_scanResults]

/-- What one pass of `event_handler` can do: keep the state and the current network, trigger a
scan from `WPA_DISCONNECTED`, end a scan back in `WPA_DISCONNECTED` or in `WPA_ASSOCIATING`
with the network `select_network` picks, or take the next step of the handshake. Besides the
scan results and the requests sent, nothing else of the shared state changes. -/
theorem eventHandlerBody_cases (d : Daemon) (a : EventAnswers) :
    ∃ s l st cur, eventHandlerBody d a = { d with
        wpa := { d.wpa with scanResults := s }, state := st, currentNetwork := cur
        sent := d.sent ++ l } ∧
      (st = d.state ∧ cur = d.currentNetwork ∨
        d.state = .wpaDisconnected ∧ st = .wpaScanning ∧ cur = d.currentNetwork ∨
        d.state = .wpaScanning ∧ st = .wpaDisconnected ∧ cur = d.currentNetwork ∨
        d.state = .wpaScanning ∧ st = .wpaAssociating ∧
          (∃ net, cur = some net ∧ selectNetwork { d.wpa with scanResults := s } = some net) ∨
        d.state = .wpaAssociating ∧ st = .wpa4WayHandshake ∧ cur = d.currentNetwork ∨
        d.state = .wpa4WayHandshake ∧ st = .wpaCompleted ∧ cur = d.currentNetwork) := by
  unfold eventHandlerBody
  split
  next hs =>
    split_ifs
    · exact ⟨d.wpa.scanResults, [.triggerScan], _, _, by rw [triggerScan_snd],
        .inr (.inl ⟨hs, rfl, rfl⟩)⟩
    · exact ⟨d.wpa.scanResults, [], _, _, by simp, .inl ⟨rfl, rfl⟩⟩
  next hs =>
    obtain ⟨s, l, hg⟩ := getScanResults_eq d a.bufferAllocated a.scanRead
    dsimp only
    rw [hg]
    split_ifs
    · split
      next net hsel =>
        obtain ⟨l', hc⟩ := connectToNetwork_eq
          { d with wpa := { d.wpa with scanResults := s }, sent := d.sent ++ l } net a.essidSet
        rw [hc]
        exact ⟨s, l ++ l', _, _, by simp, .inr (.inr (.inr (.inl ⟨hs, rfl, net, rfl, hsel⟩)))⟩
      next => exact ⟨s, l, _, _, rfl, .inr (.inr (.inl ⟨hs, rfl, rfl⟩))⟩
    · exact ⟨s, l, _, _, rfl, .inl ⟨rfl, rfl⟩⟩
  next hs =>
    exact ⟨d.wpa.scanResults, [], _, _, by simp, .inr (.inr (.inr (.inr (.inl ⟨hs, rfl, rfl⟩))))⟩
  next hs =>
    exact ⟨d.wpa.scanResults, [], _, _, by simp, .inr (.inr (.inr (.inr (.inr ⟨hs, rfl, rfl⟩))))⟩
  next => exact ⟨d.wpa.scanResults, [], _, _, by simp, .inl ⟨rfl, rfl⟩⟩

namespace Daemon

variable {d d' : Daemon}

/-- What every state the threads reach from `main` satisfies: no scan result, no current
network, disconnected or scanning, and only scan requests sent to the driver. -/
structure Unassociated (d : Daemon) : Prop where
  noResults : d.wpa.scanResults = []
  noNetwork : d.currentNetwork = none
  state : d.state = .wpaDisconnected ∨ d.state = .wpaScanning
  sent : ∀ r ∈ d.sent, r = .triggerScan ∨ r = .readScan

theorem Unassociated.triggerScan (h : d.Unassociated) (r : IoctlResult) :
    (ReactOs.Wpa.triggerScan d r).2.Unassociated := by
  rw [triggerScan_snd]
  exact ⟨h.noResults, h.noNetwork, .inr rfl, List.forall_mem_append.mpr ⟨h.sent, by simp⟩⟩

theorem Unassociated.getScanResults (h : d.Unassociated) (allocated : Bool) (r : IoctlResult) :
    (ReactOs.Wpa.getScanResults d allocated r).2.Unassociated ∧
      (ReactOs.Wpa.getScanResults d allocated r).2.state = d.state := by
  have hsent : ∀ r ∈ d.sent ++ [.readScan], r = .triggerScan ∨ r = .readScan :=
    List.forall_mem_append.mpr ⟨h.sent, by simp⟩
  rcases getScanResults_cases d allocated r with hg | hg | hg <;> rw [hg]
  · exact ⟨h, rfl⟩
  · exact ⟨⟨h.noResults, h.noNetwork, h.state, hsent⟩, rfl⟩
  · exact ⟨⟨rfl, h.noNetwork, h.state, hsent⟩, rfl⟩

theorem Unassociated.eventBody (h : d.Unassociated) (a : EventAnswers) :
    (eventHandlerBody d a).Unassociated := by
  rcases h.state with hs | hs
  · simp only [eventHandlerBody, hs]
    split_ifs
    · exact h.triggerScan _
    · exact h
  · obtain ⟨hg, hgs⟩ := h.getScanResults a.bufferAllocated a.scanRead
    simp only [eventHandlerBody, hs, selectNetwork_of_scanResults_nil hg.noResults]
    split_ifs
    · exact ⟨hg.noResults, hg.noNetwork, .inl rfl, hg.sent⟩
    · exact hg

theorem Unassociated.scanBody (h : d.Unassociated) (r : IoctlResult) :
    (scanHandlerBody d r).Unassociated := by
  unfold scanHandlerBody
  split_ifs
  · exact h.triggerScan r
  · exact h

theorem Unassociated.step (h : d.Unassociated) {a : DaemonAction} (hs : a.run d = some d') :
    d'.Unassociated := by
  cases a with
  | eventTest | scanTest =>
    simp only [DaemonAction.run, Option.ite_none_right_eq_some, Option.some.injEq] at hs
    obtain ⟨-, rfl⟩ := hs
    exact ⟨h.1, h.2, h.3, h.4⟩
  | eventBody a =>
    simp only [DaemonAction.run, Option.ite_none_right_eq_some, Option.some.injEq] at hs
    obtain ⟨-, rfl⟩ := hs
    have h' := h.eventBody a
    exact ⟨h'.1, h'.2, h'.3, h'.4⟩
  | scanBody r =>
    simp only [DaemonAction.run, Option.ite_none_right_eq_some, Option.some.injEq] at hs
    obtain ⟨-, rfl⟩ := hs
    have h' := h.scanBody r
    exact ⟨h'.1, h'.2, h'.3, h'.4⟩
  | signal =>
    cases hs
    exact ⟨h.1, h.2, h.3, h.4⟩

theorem Unassociated.run (h : d.Unassociated) (hr : runDaemon d acts = some d') :
    d'.Unassociated := by
  induction acts generalizing d with
  | nil => cases hr; exact h
  | cons a acts ih =>
    obtain ⟨d₁, h₁, hr⟩ := Option.bind_eq_some.mp hr
    exact ih (h.step h₁) hr

end Daemon

theorem supplicantMain_running (hm : supplicantMain file socketOk eventThread scanThread = .running d₀) :
    d₀ = daemonStart (parseConfigFile ⟨[], [], 1⟩ file).2 := by
  unfold supplicantMain at hm
  by_cases h : (parseConfigFile ⟨[], [], 1⟩ file).1 < 0
  · rw [if_pos h] at hm; cases hm
  rw [if_neg h] at hm
  cases socketOk <;> cases eventThread <;> cases scanThread <;> cases hm
  rfl

/-- Whatever the configuration file, the driver's answers and the interleaving of the two threads
and the signals, the supplicant `main` starts never associates: `get_scan_results` frees the scan
results and adds none, so `select_network` always returns `NULL`. The state stays
`WPA_DISCONNECTED` or `WPA_SCANNING`, `current_network` stays `NULL`, and the only requests the
driver receives are scan triggers and scan reads. -/
theorem supplicant_never_associates
    (hm : supplicantMain file socketOk eventThread scanThread = .running d₀)
    (hr : runDaemon d₀ acts = some d) :
    (d.state = .wpaDisconnected ∨ d.state = .wpaScanning) ∧ d.currentNetwork = none ∧
      d.wpa.scanResults = [] ∧ ∀ r ∈ d.sent, r = .triggerScan ∨ r = .readScan := by
  have h₀ : d₀.Unassociated := by
    rw [supplicantMain_running hm]
    exact ⟨parseConfigFile_scanResults _ _, rfl, .inl rfl, by simp [daemonStart]⟩
  have h := h₀.run hr
  exact ⟨h.state, h.noNetwork, h.noResults, h.sent⟩

/-- The changes of state the threads make: a scan from `WPA_DISCONNECTED`, the end of a scan
back in `WPA_DISCONNECTED` or in `WPA_ASSOCIATING`, then the two steps of the handshake. -/
inductive WpaState.Moves : WpaState → WpaState → Prop
  | scan : Moves .wpaDisconnected .wpaScanning
  | noNetwork : Moves .wpaScanning .wpaDisconnected
  | associate : Moves .wpaScanning .wpaAssociating
  | handshake : Moves .wpaAssociating .wpa4WayHandshake
  | complete : Moves .wpa4WayHandshake .wpaCompleted

namespace Daemon

variable {d d' : Daemon}

/-- From `WPA_ASSOCIATING` on, the current network is an enabled profile of the configuration. -/
def Wf (d : Daemon) : Prop :=
  d.state = .wpaAssociating ∨ d.state = .wpa4WayHandshake ∨ d.state = .wpaCompleted →
    ∃ net, d.currentNetwork = some net ∧ net ∈ d.wpa.networks ∧ net.disabled = 0

theorem Wf.of_state (h : d.state = .wpaDisconnected ∨ d.state = .wpaScanning) : d.Wf := by
  rintro (h' | h' | h') <;> rcases h with h | h <;> rw [h] at h' <;> cases h'

/-- What one step does to the state, the current network and the profiles: the state moves
along `WpaState.Moves` or stays, `WPA_COMPLETED` with its network stays, and the profiles
never change. -/
theorem Wf.step (h : d.Wf) {a : DaemonAction} (hs : a.run d = some d') :
    (d'.state = d.state ∨ WpaState.Moves d.state d'.state) ∧ d'.Wf ∧
      d'.wpa.networks = d.wpa.networks ∧
      (d.state = .wpaCompleted → d'.state = .wpaCompleted ∧ d'.currentNetwork = d.currentNetwork) := by
  cases a with
  | eventTest | scanTest =>
    simp only [DaemonAction.run, Option.ite_none_right_eq_some, Option.some.injEq] at hs
    obtain ⟨-, rfl⟩ := hs
    exact ⟨.inl rfl, h, rfl, fun hc => ⟨hc, rfl⟩⟩
  | signal =>
    cases hs
    exact ⟨.inl rfl, h, rfl, fun hc => ⟨hc, rfl⟩⟩
  | eventBody a =>
    simp only [DaemonAction.run, Option.ite_none_right_eq_some, Option.some.injEq] at hs
    obtain ⟨-, rfl⟩ := hs
    obtain ⟨s, l, st, cur, he, hcase⟩ := eventHandlerBody_cases d a
    rw [he]
    rcases hcase with ⟨rfl, rfl⟩ | ⟨hd, rfl, rfl⟩ | ⟨hd, rfl, rfl⟩ | ⟨hd, rfl, net, rfl, hsel⟩ |
      ⟨hd, rfl, rfl⟩ | ⟨hd, rfl, rfl⟩
    · exact ⟨.inl rfl, h, rfl, fun hc => ⟨hc, rfl⟩⟩
    · exact ⟨.inr (hd ▸ .scan), Wf.of_state (.inr rfl), rfl, fun hc => by rw [hc] at hd; cases hd⟩
    · exact ⟨.inr (hd ▸ .noNetwork), Wf.of_state (.inl rfl), rfl,
        fun hc => by rw [hc] at hd; cases hd⟩
    · exact ⟨.inr (hd ▸ .associate), fun _ => ⟨net, rfl, selectNetwork_some hsel⟩, rfl,
        fun hc => by rw [hc] at hd; cases hd⟩
    · exact ⟨.inr (hd ▸ .handshake), fun _ => h (.inl hd), rfl, fun hc => by rw [hc] at hd; cases hd⟩
    · exact ⟨.inr (hd ▸ .complete), fun _ => h (.inr (.inl hd)), rfl,
        fun hc => by rw [hc] at hd; cases hd⟩
  | scanBody r =>
    simp only [DaemonAction.run, Option.ite_none_right_eq_some, Option.some.injEq] at hs
    obtain ⟨-, rfl⟩ := hs
    unfold scanHandlerBody
    split_ifs with hd
    · rw [triggerScan_snd]
      exact ⟨.inr (hd ▸ .scan), Wf.of_state (.inr rfl), rfl, fun hc => by rw [hc] at hd; cases hd⟩
    · exact ⟨.inl rfl, h, rfl, fun hc => ⟨hc, rfl⟩⟩

end Daemon

/-- From every state whose current network, once associating, is an enabled profile, and in
every interleaving of the threads and signals: the state only moves along `WpaState.Moves`
(`WPA_AUTHENTICATING`, `WPA_ASSOCIATED` and `WPA_GROUP_HANDSHAKE` are never entered, and
`WPA_COMPLETED` is never left, its network kept), the current network stays an enabled profile
of the configuration, and the profiles never change. -/
theorem supplicant_state_machine (h : d.Wf) (hr : runDaemon d acts = some d') :
    Relation.ReflTransGen WpaState.Moves d.state d'.state ∧ d'.Wf ∧
      d'.wpa.networks = d.wpa.networks ∧
      (d.state = .wpaCompleted → d'.state = .wpaCompleted ∧ d'.currentNetwork = d.currentNetwork) := by
  induction acts generalizing d with
  | nil => cases hr; exact ⟨.refl, h, rfl, fun hc => ⟨hc, rfl⟩⟩
  | cons a acts ih =>
    obtain ⟨d₁, h₁, hr⟩ := Option.bind_eq_some.mp hr
    obtain ⟨hmove, hw₁, hnet₁, hc₁⟩ := h.step h₁
    obtain ⟨hpath, hw, hnet, hc⟩ := ih hw₁ hr
    refine ⟨?_, hw, hnet.trans hnet₁, fun hd => ?_⟩
    · rcases hmove with heq | hmove
      · exact heq ▸ hpath
      · exact .head hmove hpath
    · obtain ⟨hd₁, hcur₁⟩ := hc₁ hd
      obtain ⟨hd', hcur⟩ := hc hd₁
      exact ⟨hd', hcur.trans hcur₁⟩

/-- The two threads of the supplicant. -/
inductive Thread
  | event
  | scan
deriving DecidableEq, Repr

/-- Where a thread is. -/
def Daemon.pc (d : Daemon) : Thread → ThreadPc
  | .event => d.eventPc
  | .scan => d.scanPc

/-- The thread a step belongs to; a signal belongs to none. -/
def DaemonAction.thread : DaemonAction → Option Thread
  | .eventTest | .eventBody _ => some .event
  | .scanTest | .scanBody _ => some .scan
  | .signal => none

/-- Whether a step is a loop body. -/
def DaemonAction.isBody : DaemonAction → Bool
  | .eventBody _ | .scanBody _ => true
  | _ => false

/-- The steps a thread has left once `running` is 0: its body if it has passed the test, then
the test that ends its loop. -/
def ThreadPc.stepsLeft : ThreadPc → Nat
  | .loopTest => 1
  | .body => 2
  | .exited => 0

/-- The bodies a thread has left once `running` is 0. -/
def ThreadPc.bodiesLeft : ThreadPc → Nat
  | .body => 1
  | _ => 0

theorem eventHandlerBody_control (d : Daemon) (a : EventAnswers) :
    (eventHandlerBody d a).running = d.running ∧ (eventHandlerBody d a).scanPc = d.scanPc := by
  obtain ⟨s, l, st, cur, he, -⟩ := eventHandlerBody_cases d a
  rw [he]
  exact ⟨rfl, rfl⟩

theorem scanHandlerBody_control (d : Daemon) (r : IoctlResult) :
    (scanHandlerBody d r).running = d.running ∧ (scanHandlerBody d r).eventPc = d.eventPc := by
  unfold scanHandlerBody
  split_ifs
  · rw [triggerScan_snd]; exact ⟨rfl, rfl⟩
  · exact ⟨rfl, rfl⟩

namespace Daemon

variable {d d' : Daemon}

/-- Once `running` is 0 it stays 0, and each step of a thread uses one of the steps it has
left, and a body one of its bodies. -/
theorem stop_step (h0 : d.running = 0) {a : DaemonAction} (hs : a.run d = some d') (t : Thread) :
    d'.running = 0 ∧
      ([a].filter (·.thread = some t)).length + (d'.pc t).stepsLeft = (d.pc t).stepsLeft ∧
      ([a].filter fun a => a.thread = some t ∧ a.isBody).length + (d'.pc t).bodiesLeft =
        (d.pc t).bodiesLeft := by
  cases a
  case signal =>
    cases hs
    exact ⟨rfl, by simp [pc, DaemonAction.thread, signalHandler],
      by simp [pc, DaemonAction.thread, signalHandler]⟩
  all_goals
    simp only [DaemonAction.run, Option.ite_none_right_eq_some, Option.some.injEq] at hs
    obtain ⟨hpc, rfl⟩ := hs
    cases t <;> simp only [h0, hpc, pc, loopTest, eventHandlerBody_control, scanHandlerBody_control,
      DaemonAction.thread, DaemonAction.isBody, ThreadPc.stepsLeft, ThreadPc.bodiesLeft,
      List.filter_cons, List.filter_nil, Option.some.injEq, reduceCtorEq, decide_True, decide_False,
      Bool.decide_and, Bool.decide_eq_true, Bool.and_false, Bool.and_true, Bool.and_self, ne_eq,
      not_true_eq_false, ↓reduceIte, List.length_singleton, List.length_nil, zero_add, add_zero,
      Nat.reduceAdd, and_self]

/-- A thread that has not returned always has a step it can take. -/
theorem step_available {t : Thread} (hp : d.pc t ≠ .exited) :
    ∃ a : DaemonAction, a.thread = some t ∧ (a.run d).isSome := by
  cases t <;> simp only [pc] at hp
  · cases h : d.eventPc
    · exact ⟨.eventTest, rfl, by simp [DaemonAction.run, h]⟩
    · exact ⟨.eventBody ⟨.ok, true, .ok, .ok⟩, rfl, by simp [DaemonAction.run, h]⟩
    · exact absurd h hp
  · cases h : d.scanPc
    · exact ⟨.scanTest, rfl, by simp [DaemonAction.run, h]⟩
    · exact ⟨.scanBody .ok, rfl, by simp [DaemonAction.run, h]⟩
    · exact absurd h hp

theorem stop_run (h0 : d.running = 0) (hr : runDaemon d acts = some d') (t : Thread) :
    (acts.filter (·.thread = some t)).length + (d'.pc t).stepsLeft = (d.pc t).stepsLeft ∧
      (acts.filter fun a => a.thread = some t ∧ a.isBody).length + (d'.pc t).bodiesLeft =
        (d.pc t).bodiesLeft := by
  induction acts generalizing d with
  | nil => cases hr; simp
  | cons a acts ih =>
    obtain ⟨d₁, h₁, hr⟩ := Option.bind_eq_some.mp hr
    obtain ⟨h0₁, hsteps, hbodies⟩ := stop_step h0 h₁ t
    obtain ⟨ihs, ihb⟩ := ih h0₁ hr
    rw [← List.singleton_append, List.filter_append, List.filter_append, List.length_append,
      List.length_append]
    omega

end Daemon

/-- Once `running` is 0 (a signal has come), whatever the interleaving: each thread takes
exactly the steps it had left, at most two, running its body at most once more (the pass it had
already begun), and while it has not returned it can always take a step. So both threads
return, and `main`'s `pthread_join`s return. -/
theorem threads_exit_after_signal (h0 : d.running = 0) (hr : runDaemon d acts = some d')
    (t : Thread) :
    (acts.filter (·.thread = some t)).length + (d'.pc t).stepsLeft = (d.pc t).stepsLeft ∧
      (d.pc t).stepsLeft ≤ 2 ∧ (acts.filter fun a => a.thread = some t ∧ a.isBody).length ≤ 1 ∧
      (d'.pc t ≠ .exited → ∃ a : DaemonAction, a.thread = some t ∧ (a.run d').isSome) := by
  obtain ⟨hsteps, hbodies⟩ := Daemon.stop_run h0 hr t
  refine ⟨hsteps, ?_, ?_, Daemon.step_available⟩
  · cases d.pc t <;> simp [ThreadPc.stepsLeft]
  · have : (d.pc t).bodiesLeft ≤ 1 := by cases d.pc t <;> simp [ThreadPc.bodiesLeft]
    omega

/-- Both threads past their test when the signal comes. -/
def signalledInBody : Daemon :=
  signalHandler { daemonStart ⟨[], [], 1⟩ with eventPc := .body, scanPc := .body }

/-- Each thread finishes the pass it had begun, then ends its loop. -/
def drainRun : List DaemonAction :=
  [.scanBody .ok, .eventBody ⟨.ok, true, .ok, .ok⟩, .eventTest, .scanTest]

theorem signalled_threads_drain :
    ∃ d', runDaemon signalledInBody drainRun = some d' ∧
      ((drainRun.filter (·.thread = some .event)).length + (d'.pc .event).stepsLeft =
          (signalledInBody.pc .event).stepsLeft ∧
        (signalledInBody.pc .event).stepsLeft ≤ 2 ∧
        (drainRun.filter fun a => a.thread = some .event ∧ a.isBody).length ≤ 1 ∧
        (d'.pc .event ≠ .exited →
          ∃ a : DaemonAction, a.thread = some .event ∧ (a.run d').isSome)) := by
  obtain ⟨d', hr⟩ : ∃ d', runDaemon signalledInBody drainRun = some d' := ⟨_, rfl⟩
  exact ⟨d', hr, threads_exit_after_signal rfl hr .event⟩

/-- A protected profile `parse_config_file` builds from `ssid="home"` and `psk="secret12"`. -/
def homeProfile : NetworkProfile :=
  { newProfile with ssid := "home", passphrase := "secret12" }

/-- A supplicant scanning, with a result for its one profile. -/
def homeScanning : Daemon :=
  ⟨⟨[homeProfile], [⟨"home", -40⟩], 1⟩, .wpaScanning, none, 1, .loopTest, .loopTest, []⟩

/-- The event thread reads the scan (the driver answers `EAGAIN`, so the results stay),
connects, and completes the handshake. -/
def associateRun : List DaemonAction :=
  [.eventTest, .eventBody ⟨.ok, true, .eAgain, .ok⟩, .eventTest, .eventBody ⟨.ok, true, .ok, .ok⟩,
    .eventTest, .eventBody ⟨.ok, true, .ok, .ok⟩]

theorem home_network_completed :
    ∃ d', runDaemon homeScanning associateRun = some d' ∧
      (Relation.ReflTransGen WpaState.Moves homeScanning.state d'.state ∧ d'.Wf ∧
        d'.wpa.networks = homeScanning.wpa.networks ∧
        (homeScanning.state = .wpaCompleted →
          d'.state = .wpaCompleted ∧ d'.currentNetwork = homeScanning.currentNetwork)) := by
  obtain ⟨d', hr⟩ : ∃ d', runDaemon homeScanning associateRun = some d' := ⟨_, rfl⟩
  exact ⟨d', hr, supplicant_state_machine (Daemon.Wf.of_state (.inr rfl)) hr⟩

/-- A configuration with one open network. -/
def homeConfig : List Char :=
  "network=\x7b\nssid=\"home\"\nkey_mgmt=NONE\n\x7d\n".toList

/-- Both threads pass their test, the scan thread triggers a scan, the event thread reads the
results and triggers the next scan, then a signal ends both loops. -/
def scanThenSignal : List DaemonAction :=
  [.eventTest, .scanTest, .scanBody .ok, .eventBody ⟨.ok, true, .ok, .ok⟩, .eventTest,
    .eventBody ⟨.ok, true, .ok, .ok⟩, .signal, .eventTest, .scanTest]

theorem home_network_never_associated :
    ∃ d₀ d, supplicantMain (some homeConfig) true true true = .running d₀ ∧
      runDaemon d₀ scanThenSignal = some d ∧
      ((d.state = .wpaDisconnected ∨ d.state = .wpaScanning) ∧ d.currentNetwork = none ∧
        d.wpa.scanResults = [] ∧ ∀ r ∈ d.sent, r = .triggerScan ∨ r = .readScan) := by
  have hm : supplicantMain (some homeConfig) true true true =
      .running (daemonStart (parseConfigFile ⟨[], [], 1⟩ (some homeConfig)).2) := rfl
  obtain ⟨d, hr⟩ : ∃ d, runDaemon (daemonStart (parseConfigFile ⟨[], [], 1⟩ (some homeConfig)).2)
      scanThenSignal = some d := ⟨_, rfl⟩
  exact ⟨_, d, hm, hr, supplicant_never_associates hm hr⟩

end ReactOs.Wpa
