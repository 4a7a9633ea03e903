import ReactOs.Wpa.DaemonLaws

namespace ReactOs.Wpa

/-- Each key in the log `sent` comes right after the SSID of an enabled profile of `networks`
that is not open, and is that profile's passphrase. -/
def KeysPaired (networks : List NetworkProfile) (sent : List DriverRequest) : Prop :=
  ∀ pre key post, sent = pre ++ .setEncode key :: post →
    ∃ net ∈ networks, net.disabled = 0 ∧ net.authType ≠ .authOpen ∧ net.passphrase = key ∧
      pre.getLast? = some (.setEssid net.ssid)

namespace KeysPaired

variable {networks : List NetworkProfile} {sent l : List DriverRequest}

theorem of_no_key (h : ∀ key, .setEncode key ∉ l) : KeysPaired networks l := by
  rintro pre key post rfl
  exact absurd (by simp) (h key)

/-- A log that pairs its keys can be extended by another; a key cannot start the extension,
since it has no SSID before it there. -/
theorem append (h : KeysPaired networks sent) (hl : KeysPaired networks l) :
    KeysPaired networks (sent ++ l) := by
  intro pre key post he
  rcases List.append_eq_append_iff.mp he with ⟨a', rfl, hl'⟩ | ⟨c', hs, hc⟩
  · obtain ⟨net, hnet, hd, ha, hk, hlast⟩ := hl a' key post hl'
    have ha' : a' ≠ [] := by rintro rfl; cases hlast
    exact ⟨net, hnet, hd, ha, hk, by rw [List.getLast?_append_of_ne_nil _ ha', hlast]⟩
  · cases c' with
    | nil =>
      obtain ⟨net, -, -, -, -, hlast⟩ := hl [] key post hc.symm
      cases hlast
    | cons x c' =>
      obtain ⟨rfl, rfl⟩ := List.cons.inj hc
      exact h pre key c' hs

/-- The requests of `connect_to_network` for a protected profile: its SSID, then its key. -/
theorem essid_key {net : NetworkProfile} (hnet : net ∈ networks) (hd : net.disabled = 0)
    (ha : net.authType ≠ .authOpen) :
    KeysPaired networks [.setEssid net.ssid, .setEncode net.passphrase] := by
  intro pre key post he
  rcases pre with _ | ⟨x, _ | ⟨y, pre⟩⟩
  · cases he
  · obtain ⟨rfl, ht⟩ := List.cons.inj he
    obtain ⟨hk, -⟩ := List.cons.inj ht
    exact ⟨net, hnet, hd, ha, DriverRequest.setEncode.inj hk, rfl⟩
  · simp at he

end KeysPaired

theorem connectToNetwork_sent (d : Daemon) (net : NetworkProfile) (essid : IoctlResult) :
    (connectToNetwork d net essid).2.sent = d.sent ++ [.setEssid net.ssid] ∨
      net.authType ≠ .authOpen ∧
        (connectToNetwork d net essid).2.sent =
          d.sent ++ [.setEssid net.ssid, .setEncode net.passphrase] := by
  unfold connectToNetwork
  split_ifs with he ha
  · exact .inl rfl
  · exact .inr ⟨ha, by simp⟩
  · exact .inl rfl

theorem getScanResults_log (d : Daemon) (allocated : Bool) (r : IoctlResult) :
    ∃ lg, (getScanResults d allocated r).2.sent = d.sent ++ lg ∧ (∀ x ∈ lg, x = .readScan) ∧
      (getScanResults d allocated r).2.wpa.networks = d.wpa.networks := by
  rcases getScanResults_cases d allocated r with h | h | h <;> rw [h]
  exacts [⟨[], by simp, by simp, rfl⟩, ⟨[.readScan], rfl, by simp, rfl⟩,
    ⟨[.readScan], rfl, by simp, rfl⟩]

/-- What one pass of `event_handler` adds to the log pairs its keys with the configuration. -/
theorem eventHandlerBody_sent (d : Daemon) (a : EventAnswers) :
    ∃ l, (eventHandlerBody d a).sent = d.sent ++ l ∧ KeysPaired d.wpa.networks l := by
  unfold eventHandlerBody
  split
  · split_ifs
    · exact ⟨[.triggerScan], by rw [triggerScan_snd], .of_no_key (by simp)⟩
    · exact ⟨[], by simp, .of_no_key (by simp)⟩
  · dsimp only
    obtain ⟨lg, hg, hlg, hnets⟩ := getScanResults_log d a.bufferAllocated a.scanRead
    have hkg : KeysPaired d.wpa.networks lg := .of_no_key fun key hk => nomatch hlg _ hk
    generalize getScanResults d a.bufferAllocated a.scanRead = r at hg hnets
    split_ifs
    · split
      next net hsel =>
        obtain ⟨hmem, hd⟩ := selectNetwork_some hsel
        rw [hnets] at hmem
        rcases connectToNetwork_sent r.2 net a.essidSet with hc | ⟨ha, hc⟩ <;> rw [hc, hg]
        · exact ⟨lg ++ [.setEssid net.ssid], by simp, hkg.append (.of_no_key (by simp))⟩
        · exact ⟨lg ++ [.setEssid net.ssid, .setEncode net.passphrase], by simp,
            hkg.append (.essid_key hmem hd ha)⟩
      next => exact ⟨lg, hg, hkg⟩
    · exact ⟨lg, hg, hkg⟩
  all_goals exact ⟨[], by simp, .of_no_key (by simp)⟩

/-- A pass of `event_handler` in `WPA_SCANNING` moves to `WPA_ASSOCIATING` exactly when its
buffer is allocated, the driver answers the scan read with `EAGAIN`, and `select_network` finds
a profile among the scan results the supplicant already held; the pass then connects to that
profile. A scan read that succeeds frees the results, so it never leads to an association. -/
theorem scan_pass_associates_iff {d : Daemon} {a : EventAnswers} (hs : d.state = .wpaScanning) :
    ((eventHandlerBody d a).state = .wpaAssociating ↔
      a.bufferAllocated = true ∧ a.scanRead = .eAgain ∧ ∃ net, selectNetwork d.wpa = some net) ∧
    ((eventHandlerBody d a).state = .wpaAssociating →
      (eventHandlerBody d a).currentNetwork = selectNetwork d.wpa) := by
  obtain ⟨te, ba, sr, es⟩ := a
  have hconnect : ∀ d' net, (connectToNetwork d' net es).2.state = .wpaAssociating ∧
      (connectToNetwork d' net es).2.currentNetwork = some net := fun d' net => by
    obtain ⟨l, hc⟩ := connectToNetwork_eq d' net es
    rw [hc]
    exact ⟨rfl, rfl⟩
  simp only [eventHandlerBody, hs]
  cases ba with
  | false => simp [getScanResults, hs]
  | true =>
    cases sr with
    | ok =>
      simp [getScanResults, selectNetwork_of_scanResults_nil]
    | eAgain =>
      simp only [getScanResults, Bool.not_true, Bool.false_eq_true, if_false, if_true]
      cases hsel : selectNetwork d.wpa with
      | none => simp
      | some net => simp [hconnect]
    | eBusy | failed => simp [getScanResults, hs]

theorem home_scan_pass_associates :
    homeScanning.state = .wpaScanning ∧
      (((eventHandlerBody homeScanning ⟨.ok, true, .eAgain, .ok⟩).state = .wpaAssociating ↔
        true = true ∧ IoctlResult.eAgain = .eAgain ∧
          ∃ net, selectNetwork homeScanning.wpa = some net) ∧
      ((eventHandlerBody homeScanning ⟨.ok, true, .eAgain, .ok⟩).state = .wpaAssociating →
        (eventHandlerBody homeScanning ⟨.ok, true, .eAgain, .ok⟩).currentNetwork =
          selectNetwork homeScanning.wpa)) :=
  ⟨rfl, scan_pass_associates_iff rfl⟩

namespace Daemon

variable {d d' : Daemon}

theorem keysPaired_step (h : KeysPaired d.wpa.networks d.sent) {a : DaemonAction}
    (hs : a.run d = some d') :
    KeysPaired d.wpa.networks d'.sent ∧ d'.wpa.networks = d.wpa.networks := by
  cases a with
  | eventTest | scanTest =>
    simp only [DaemonAction.run, Option.ite_none_right_eq_some, Option.some.injEq] at hs
    obtain ⟨-, rfl⟩ := hs
    exact ⟨h, rfl⟩
  | eventBody a =>
    simp only [DaemonAction.run, Option.ite_none_right_eq_some, Option.some.injEq] at hs
    obtain ⟨-, rfl⟩ := hs
    obtain ⟨l, hl, hk⟩ := eventHandlerBody_sent d a
    obtain ⟨s, l', st, cur, he, -⟩ := eventHandlerBody_cases d a
    refine ⟨?_, by rw [he]⟩
    simp only [hl]
    exact h.append hk
  | scanBody r =>
    simp only [DaemonAction.run, Option.ite_none_right_eq_some, Option.some.injEq] at hs
    obtain ⟨-, rfl⟩ := hs
    unfold scanHandlerBody
    split_ifs
    · rw [triggerScan_snd]
      exact ⟨h.append (.of_no_key (by simp)), rfl⟩
    · exact ⟨h, rfl⟩
  | signal =>
    cases hs
    exact ⟨h, rfl⟩

theorem keysPaired_run (h : KeysPaired d.wpa.networks d.sent) (hr : runDaemon d acts = some d') :
    KeysPaired d.wpa.networks d'.sent ∧ d'.wpa.networks = d.wpa.networks := by
  induction acts generalizing d with
  | nil => cases hr; exact ⟨h, rfl⟩
  | cons a acts ih =>
    obtain ⟨d₁, h₁, hr⟩ := Option.bind_eq_some.mp hr
    obtain ⟨hk, hn⟩ := keysPaired_step h h₁
    rw [← hn]
    exact ih (hn ▸ hk) hr

end Daemon

/-- Whatever the interleaving of the threads and the signals and whatever the driver answers,
the supplicant gives the driver a key only right after the SSID of an enabled, protected
profile of its configuration, and that key is the profile's passphrase. -/
theorem keys_follow_their_ssid (h : KeysPaired d.wpa.networks d.sent)
    (hr : runDaemon d acts = some d') : KeysPaired d.wpa.networks d'.sent :=
  (Daemon.keysPaired_run h hr).1

theorem home_key_follows_ssid :
    ∃ d', runDaemon homeScanning associateRun = some d' ∧
      KeysPaired homeScanning.wpa.networks d'.sent ∧
      d'.sent = [.readScan, .setEssid "home", .setEncode "secret12"] := by
  obtain ⟨d', hr⟩ : ∃ d', runDaemon homeScanning associateRun = some d' := ⟨_, rfl⟩
  have hs : d'.sent = [.readScan, .setEssid "home", .setEncode "secret12"] := by
    cases hr; rfl
  exact ⟨d', hr, keys_follow_their_ssid (.of_no_key (by simp [homeScanning])) hr, hs⟩

end ReactOs.Wpa
