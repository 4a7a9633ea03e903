import Mathlib

namespace ReactOs.Wpa

/-- `auth_type_t`. -/
inductive AuthType
  | authOpen
  | authWpaPsk
  | authWpa2Psk
  | authWpa3Sae
  | authWpa2Enterprise
  | authWpa3Enterprise
deriving DecidableEq, Repr, Inhabited

/-- `cipher_type_t`. -/
inductive CipherType
  | cipherNone
  | cipherWep40
  | cipherWep104
  | cipherTkip
  | cipherCcmp
  | cipherCcmp256
  | cipherGcmp
  | cipherGcmp256
deriving DecidableEq, Repr, Inhabited

/-- `network_profile_t`, the fields the modelled functions read or write; `ssid` and
`passphrase` are the characters before the terminating NUL. -/
structure NetworkProfile where
  ssid : String
  passphrase : String
  authType : AuthType
  pairwiseCipher : CipherType
  groupCipher : CipherType
  priority : Int
  disabled : Int
  scanSsid : Int
deriving DecidableEq, Repr, Inhabited

/-- `scan_result_t`, the fields `select_network` reads. -/
structure ScanResult where
  ssid : String
  signalLevel : Int
deriving DecidableEq, Repr, Inhabited

/-- `wpa_supplicant_t`, the fields the modelled functions read or write; the linked lists are
lists, head first. -/
structure WpaSupplicant where
  networks : List NetworkProfile
  scanResults : List ScanResult
  autoConnect : Int
deriving DecidableEq, Repr, Inhabited

/-- The test of `select_network`: a profile of priority `p` seen with signal `s` beats the
best so far, of priority `bp` and signal `bs`. -/
def outranks (p s bp bs : Int) : Prop :=
  p > bp ∨ (p = bp ∧ s > bs)

instance (p s bp bs : Int) : Decidable (outranks p s bp bs) :=
  inferInstanceAs (Decidable (_ ∨ _))

/-- `best`, `best_priority` and `best_signal` of `select_network`. -/
structure Selection where
  best : Option NetworkProfile
  bestPriority : Int
  bestSignal : Int
deriving DecidableEq, Repr

/-- The inner loop's body for `net` and `bss`. -/
def considerScan (net : NetworkProfile) (s : Selection) (bss : ScanResult) : Selection :=
  if bss.ssid ≠ net.ssid then s
  else if outranks net.priority bss.signalLevel s.bestPriority s.bestSignal then
    ⟨some net, net.priority, bss.signalLevel⟩
  else s

/-- The outer loop's body for `net`: skip a disabled profile, else run the inner loop. -/
def considerNetwork (scanResults : List ScanResult) (s : Selection) (net : NetworkProfile) :
    Selection :=
  if net.disabled ≠ 0 then s else scanResults.foldl (considerScan net) s

/-- `select_network`: `NULL` is `none`. -/
def selectNetwork (wpa : WpaSupplicant) : Option NetworkProfile :=
  (wpa.networks.foldl (considerNetwork wpa.scanResults) ⟨none, -1, -1000⟩).best

theorem outranks_trans {p s q t u v : Int} (h₁ : outranks p s q t) (h₂ : outranks q t u v) :
    outranks p s u v := by
  unfold outranks at *; omega

theorem not_outranks_trans {p s q t u v : Int} (h₁ : ¬outranks p s q t) (h₂ : ¬outranks q t u v) :
    ¬outranks p s u v := by
  unfold outranks at *; omega

theorem not_outranks_self (p s : Int) : ¬outranks p s p s := by
  unfold outranks; omega

theorem outranks_asymm {p s q t : Int} (h : outranks p s q t) : ¬outranks q t p s := by
  unfold outranks at *; omega

/-- The pairs `select_network` compares, in its order: each enabled profile with the signal of
each scan result of its SSID. -/
def candidates (wpa : WpaSupplicant) : List (NetworkProfile × Int) :=
  wpa.networks.flatMap fun net =>
    if net.disabled ≠ 0 then []
    else (wpa.scanResults.filter fun bss => bss.ssid = net.ssid).map fun bss => (net, bss.signalLevel)

theorem mem_candidates {wpa : WpaSupplicant} {c : NetworkProfile × Int} :
    c ∈ candidates wpa ↔ c.1 ∈ wpa.networks ∧ c.1.disabled = 0 ∧
      ∃ bss ∈ wpa.scanResults, bss.ssid = c.1.ssid ∧ bss.signalLevel = c.2 := by
  obtain ⟨net, sig⟩ := c
  simp only [candidates, List.mem_flatMap, ne_eq, ite_not]
  constructor
  · rintro ⟨net', hnet, hc⟩
    split_ifs at hc with hd
    · obtain ⟨bss, hbss, hpair⟩ := List.mem_map.mp hc
      obtain ⟨rfl, rfl⟩ := Prod.mk.inj hpair
      exact ⟨hnet, hd, bss, (List.mem_filter.mp hbss).1, by simpa using (List.mem_filter.mp hbss).2, rfl⟩
    · exact absurd hc (List.not_mem_nil _)
  · rintro ⟨hnet, hd, bss, hbss, hssid, rfl⟩
    refine ⟨net, hnet, ?_⟩
    rw [if_pos hd]
    exact List.mem_map.mpr ⟨bss, List.mem_filter.mpr ⟨hbss, by simpa using hssid⟩, rfl⟩

/-- One comparison of `select_network`, on a candidate pair. -/
def improve (s : Selection) (c : NetworkProfile × Int) : Selection :=
  if outranks c.1.priority c.2 s.bestPriority s.bestSignal then ⟨some c.1, c.1.priority, c.2⟩
  else s

theorem foldl_considerScan (net : NetworkProfile) (bs : List ScanResult) (s : Selection) :
    bs.foldl (considerScan net) s =
      ((bs.filter fun bss => bss.ssid = net.ssid).map fun bss => (net, bss.signalLevel)).foldl
        improve s := by
  induction bs generalizing s with
  | nil => rfl
  | cons bss bs ih =>
    by_cases h : bss.ssid = net.ssid <;> simp [considerScan, improve, List.filter_cons, h, ih]

/-- The two loops of `select_network` compare the candidates in turn. -/
theorem selectNetwork_eq (wpa : WpaSupplicant) :
    selectNetwork wpa = ((candidates wpa).foldl improve ⟨none, -1, -1000⟩).best := by
  unfold selectNetwork candidates
  generalize (⟨none, -1, -1000⟩ : Selection) = s
  induction wpa.networks generalizing s with
  | nil => rfl
  | cons net nets ih =>
    rw [List.foldl_cons, List.flatMap_cons, List.foldl_append, ← ih, considerNetwork]
    split_ifs <;> simp only [List.foldl_nil, foldl_considerScan]

/-- The running best of the comparisons: nothing compared outranks it, and it is the start or
the last candidate that outranked the start. -/
theorem foldl_improve (cs : List (NetworkProfile × Int)) (s : Selection) :
    ¬outranks s.bestPriority s.bestSignal (cs.foldl improve s).bestPriority
        (cs.foldl improve s).bestSignal ∧
      (∀ c ∈ cs, ¬outranks c.1.priority c.2 (cs.foldl improve s).bestPriority
        (cs.foldl improve s).bestSignal) ∧
      (cs.foldl improve s = s ∨ ∃ c ∈ cs, cs.foldl improve s = ⟨some c.1, c.1.priority, c.2⟩ ∧
        outranks c.1.priority c.2 s.bestPriority s.bestSignal) := by
  induction cs generalizing s with
  | nil => exact ⟨not_outranks_self _ _, by simp, .inl rfl⟩
  | cons c cs ih =>
    obtain ⟨hs, hcs, hlast⟩ := ih (improve s c)
    simp only [List.foldl_cons, List.mem_cons, forall_eq_or_imp, exists_eq_or_imp]
    by_cases hc : outranks c.1.priority c.2 s.bestPriority s.bestSignal
    · have hstep : improve s c = ⟨some c.1, c.1.priority, c.2⟩ := if_pos hc
      rw [hstep] at hs hcs hlast ⊢
      refine ⟨not_outranks_trans (outranks_asymm hc) hs, ⟨hs, hcs⟩, .inr ?_⟩
      rcases hlast with h | ⟨c', hc', he, ho⟩
      · exact .inl ⟨h, hc⟩
      · exact .inr ⟨c', hc', he, outranks_trans ho hc⟩
    · have hstep : improve s c = s := if_neg hc
      rw [hstep] at hs hcs hlast ⊢
      refine ⟨hs, ⟨not_outranks_trans hc hs, hcs⟩, ?_⟩
      rcases hlast with h | ⟨c', hc', he, ho⟩
      · exact .inl h
      · exact .inr (.inr ⟨c', hc', he, ho⟩)

/-- What `select_network` returns, for any profiles and scan results: `NULL` exactly when no
enabled profile with a scan result of its SSID outranks the start values `-1` and `-1000`;
otherwise an enabled profile, with a scan result of its SSID that outranks the start values and
that no enabled profile with any scan result of its SSID outranks. -/
theorem select_network_spec (wpa : WpaSupplicant) :
    (selectNetwork wpa = none ↔ ∀ net ∈ wpa.networks, net.disabled = 0 →
      ∀ bss ∈ wpa.scanResults, bss.ssid = net.ssid →
        ¬outranks net.priority bss.signalLevel (-1) (-1000)) ∧
    ∀ net, selectNetwork wpa = some net → net ∈ wpa.networks ∧ net.disabled = 0 ∧
      ∃ bss ∈ wpa.scanResults, bss.ssid = net.ssid ∧
        outranks net.priority bss.signalLevel (-1) (-1000) ∧
        ∀ net' ∈ wpa.networks, net'.disabled = 0 → ∀ bss' ∈ wpa.scanResults,
          bss'.ssid = net'.ssid → ¬outranks net'.priority bss'.signalLevel net.priority
            bss.signalLevel := by
  obtain ⟨-, hmax, hlast⟩ := foldl_improve (candidates wpa) ⟨none, -1, -1000⟩
  rw [selectNetwork_eq]
  generalize (candidates wpa).foldl improve ⟨none, -1, -1000⟩ = r at hmax hlast
  have hall : ∀ net ∈ wpa.networks, net.disabled = 0 → ∀ bss ∈ wpa.scanResults,
      bss.ssid = net.ssid → ¬outranks net.priority bss.signalLevel r.bestPriority r.bestSignal :=
    fun net hn hd bss hb hs => hmax (net, bss.signalLevel) (mem_candidates.mpr ⟨hn, hd, bss, hb, hs, rfl⟩)
  refine ⟨⟨fun hnone => ?_, fun hno => ?_⟩, fun net hnet => ?_⟩
  · rcases hlast with rfl | ⟨c, -, rfl, -⟩
    · exact hall
    · cases hnone
  · rcases hlast with rfl | ⟨c, hc, -, ho⟩
    · rfl
    · obtain ⟨hn, hd, bss, hb, hs, hsig⟩ := mem_candidates.mp hc
      exact absurd ho (hsig ▸ hno c.1 hn hd bss hb hs)
  · rcases hlast with rfl | ⟨c, hc, rfl, ho⟩
    · cases hnet
    · cases hnet
      obtain ⟨hn, hd, bss, hb, hs, hsig⟩ := mem_candidates.mp hc
      exact ⟨hn, hd, bss, hb, hs, hsig ▸ ho, hsig ▸ hall⟩

/-- A profile of priority `-2` as `parse_config_file` builds it, and a scan that saw its SSID. -/
def negativePriorityScan : WpaSupplicant :=
  ⟨[⟨"home", "secret", .authWpa2Psk, .cipherCcmp, .cipherCcmp, -2, 0, 0⟩], [⟨"home", -50⟩], 1⟩

theorem negative_priority_match_dropped :
    (∃ net ∈ negativePriorityScan.networks, net.disabled = 0 ∧
      ∃ bss ∈ negativePriorityScan.scanResults, bss.ssid = net.ssid) ∧
    selectNetwork negativePriorityScan = none := by
  decide

end ReactOs.Wpa
