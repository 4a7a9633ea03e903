import ReactOs.Iwconfig.Setters

namespace ReactOs.Iwconfig

/-- `set_channel` for every channel: `(int)freq` is defined only for channels from `-910` to
`-52`, where it is the frequency in Hz. Every channel of the 2.4 GHz band (1 to 14) and every
channel above it gives a frequency past `INT_MAX`, so the conversion has undefined behaviour. -/
theorem set_channel_defined_iff (channel : Int) :
    setChannel channel =
      if -910 ≤ channel ∧ channel ≤ -52 then
        .request (.freq (2407000000 + channel * 5000000) 0 iwFreqFixed)
      else .undefined := by
  unfold setChannel channelFrequency doubleToInt
  split_ifs <;> first | rfl | omega

example : setChannel 6 = .undefined := by decide

/-- The channel `print_interface_info` shows for the frequency `set_channel` computes is the
channel itself, for the channels 1 to 200; for every other channel it shows none. Channels 0 and
-1 fall in the 2.4 GHz band but are not shown. -/
theorem printed_channel_round_trip (channel : Int) :
    printedChannel (channelFrequency channel) =
      if 1 ≤ channel ∧ channel ≤ 200 then some channel else none := by
  have hq : ∀ k : Int, (k + channel * 5000000 - k).tdiv 5000000 = channel := fun k => by
    rw [add_sub_cancel_left, Int.mul_tdiv_cancel _ (by norm_num)]
  unfold printedChannel channelFrequency
  by_cases hc : channel ≤ 14
  · simp only [if_pos hc, hq]
    split_ifs <;> first | rfl | omega
  · simp only [if_neg hc, hq]
    split_ifs <;> first | rfl | omega

theorem dropWhile_isSpace_append {ws t : List Char} (hws : ∀ c ∈ ws, isSpace c = true)
    (ht : ∀ c, t.head? = some c → isSpace c = false) : (ws ++ t).dropWhile isSpace = t := by
  rw [List.dropWhile_append_of_pos hws]
  cases t with
  | nil => rfl
  | cons c t => exact List.dropWhile_cons_of_neg (by simp [ht c rfl])

theorem strtolDigits_digits (s : List Char) (neg : Bool) {ds : List Char} (hne : ds ≠ [])
    (hd : ∀ c ∈ ds, c.isDigit = true) :
    strtolDigits s neg ds =
      (clampLong (if neg then -(decimalValue ds : Int) else decimalValue ds), []) := by
  simp only [strtolDigits, List.takeWhile_eq_self_iff.mpr hd, List.dropWhile_eq_nil_iff.mpr hd,
    hne, if_false]

/-- The texts `strtol` reads to their end, with their value before `strtol` clamps it: white
space, an optional sign and one digit at least; or the empty text, read as 0 with `endptr` at
its end. -/
inductive WholeNumber : List Char → Int → Prop
  | empty : WholeNumber [] 0
  | digits {ws sign ds : List Char} (hws : ∀ c ∈ ws, isSpace c = true)
      (hsign : sign = [] ∨ sign = ['+'] ∨ sign = ['-']) (hne : ds ≠ [])
      (hds : ∀ c ∈ ds, c.isDigit = true) :
      WholeNumber (ws ++ sign ++ ds)
        (if sign = ['-'] then -(decimalValue ds : Int) else decimalValue ds)

theorem isSpace_of_isDigit {c : Char} (h : c.isDigit = true) : isSpace c = false := by
  by_contra hc
  simp only [Bool.not_eq_false, isSpace, Bool.or_eq_true, decide_eq_true_eq] at hc
  rcases hc with (((((rfl | rfl) | rfl) | rfl) | rfl) | rfl) <;> exact absurd h (by decide)

/-- `strtol` on a whole number reads all of it. -/
theorem strtol_of_wholeNumber (h : WholeNumber s v) : strtol s = (clampLong v, []) := by
  cases h with
  | empty => rfl
  | @digits ws sign ds hws hsign hne hds =>
    obtain ⟨d, ds', rfl⟩ := List.exists_cons_of_ne_nil hne
    have hd := isSpace_of_isDigit (hds d (List.mem_cons_self _ _))
    have hdash : d ≠ '-' := by rintro rfl; exact absurd (hds _ (List.mem_cons_self _ _)) (by decide)
    have hplus : d ≠ '+' := by rintro rfl; exact absurd (hds _ (List.mem_cons_self _ _)) (by decide)
    rcases hsign with rfl | rfl | rfl
    · rw [strtol, List.append_nil, dropWhile_isSpace_append hws (by simp [hd])]
      split
      · next heq => exact absurd (List.cons.inj heq).1 hdash
      · next heq => exact absurd (List.cons.inj heq).1 hplus
      · simp [strtolDigits_digits _ false hne hds]
    all_goals
      rw [strtol, List.append_assoc, dropWhile_isSpace_append hws (by simp [isSpace])]
      simp [strtolDigits_digits _ _ hne hds]

theorem strtolDigits_whole (hs : s = ws ++ sign ++ u) (hws : ∀ c ∈ ws, isSpace c = true)
    (hsign : sign = [] ∨ sign = ['+'] ∨ sign = ['-']) (hr : (strtolDigits s neg u).2 = []) :
    ∃ v, WholeNumber s v := by
  by_cases hds : u.takeWhile Char.isDigit = []
  · simp only [strtolDigits, hds, if_true] at hr
    exact ⟨0, hr ▸ .empty⟩
  · simp only [strtolDigits, hds, if_false] at hr
    have hdig : ∀ c ∈ u, c.isDigit = true := List.dropWhile_eq_nil_iff.mp hr
    subst hs
    exact ⟨_, .digits hws hsign (fun h => hds (by simp [h])) hdig⟩

/-- `strtol` reads a text to its end only when it is a whole number. -/
theorem wholeNumber_of_strtol (h : (strtol s).2 = []) : ∃ v, WholeNumber s v := by
  have hsplit := (List.takeWhile_append_dropWhile isSpace s).symm
  have hws : ∀ c ∈ s.takeWhile isSpace, isSpace c = true := fun c hc => List.mem_takeWhile_imp hc
  unfold strtol at h
  split at h
  · next u heq =>
    exact strtolDigits_whole (hsplit.trans (by rw [heq]; simp)) hws (.inr (.inr rfl)) h
  · next u heq =>
    exact strtolDigits_whole (hsplit.trans (by rw [heq]; simp)) hws (.inr (.inl rfl)) h
  · have hs : s = s.takeWhile isSpace ++ [] ++ s.dropWhile isSpace := by rwa [List.append_nil]
    exact strtolDigits_whole hs hws (.inl rfl) h

theorem setTxpower_of_wholeNumber (hp : power ≠ "off" ∧ power ≠ "auto")
    (hv : WholeNumber power.toList v) :
    setTxpower power = .request (.txpower (longToInt (clampLong v)) 1 0 iwTxpowDbm) := by
  simp only [setTxpower, if_neg hp.1, if_neg hp.2, strtol_of_wholeNumber hv, ne_eq,
    not_true_eq_false, if_false]

theorem setTxpower_of_not_wholeNumber (hp : power ≠ "off" ∧ power ≠ "auto")
    (hv : ∀ v, ¬WholeNumber power.toList v) :
    setTxpower power = .invalid ("Error: Invalid txpower value '" ++ power ++ "'\n") := by
  have hr : (strtol power.toList).2 ≠ [] := fun hr => (wholeNumber_of_strtol hr).elim hv
  simp only [setTxpower, if_neg hp.1, if_neg hp.2, hr, ne_eq, not_false_eq_true, if_true]

/-- `set_txpower` on every text other than `off` and `auto`: a whole number is sent as a fixed
power in dBm, its value clamped by `strtol` to a `long` and cut to an `int`; anything else is
rejected with the message that names it, before any `ioctl`. -/
theorem set_txpower_reads (power : String) (hp : power ≠ "off" ∧ power ≠ "auto") :
    (∃ v, WholeNumber power.toList v ∧
      setTxpower power = .request (.txpower (longToInt (clampLong v)) 1 0 iwTxpowDbm)) ∨
    ((∀ v, ¬WholeNumber power.toList v) ∧
      setTxpower power = .invalid ("Error: Invalid txpower value '" ++ power ++ "'\n")) := by
  by_cases hv : ∃ v, WholeNumber power.toList v
  · obtain ⟨v, hv⟩ := hv
    exact .inl ⟨v, hv, setTxpower_of_wholeNumber hp hv⟩
  · have hv : ∀ v, ¬WholeNumber power.toList v := fun v h => hv ⟨v, h⟩
    exact .inr ⟨hv, setTxpower_of_not_wholeNumber hp hv⟩

theorem set_txpower_reads_dbm :
    ("20dBm" ≠ "off" ∧ "20dBm" ≠ "auto") ∧
      ((∃ v, WholeNumber "20dBm".toList v ∧
        setTxpower "20dBm" = .request (.txpower (longToInt (clampLong v)) 1 0 iwTxpowDbm)) ∨
      ((∀ v, ¬WholeNumber "20dBm".toList v) ∧
        setTxpower "20dBm" = .invalid ("Error: Invalid txpower value '" ++ "20dBm" ++ "'\n"))) :=
  ⟨by decide, set_txpower_reads "20dBm" (by decide)⟩

/-- The decimal digits of `k`, most significant first; `0` is written `0`. -/
def decimalText (k : Nat) : List Char :=
  if k = 0 then ['0'] else (Nat.digits 10 k).reverse.map Nat.digitChar

/-- The decimal text of `n`, with a minus sign when it is negative. -/
def intText (n : Int) : String :=
  ⟨(if n < 0 then ['-'] else []) ++ decimalText n.natAbs⟩

theorem digitChar_value {a : Nat} (h : a < 10) :
    (Nat.digitChar a).isDigit = true ∧ (Nat.digitChar a).toNat - '0'.toNat = a := by
  interval_cases a <;> decide

theorem decimalValue_append_singleton (ds : List Char) (d : Char) :
    decimalValue (ds ++ [d]) = 10 * decimalValue ds + (d.toNat - '0'.toNat) := by
  simp only [decimalValue, List.foldl_append, List.foldl_cons, List.foldl_nil]

theorem decimalValue_digits (L : List Nat) (h : ∀ a ∈ L, a < 10) :
    decimalValue (L.reverse.map Nat.digitChar) = Nat.ofDigits 10 L := by
  induction L with
  | nil => rfl
  | cons a L ih =>
    rw [List.reverse_cons, List.map_append, List.map_singleton, decimalValue_append_singleton,
      ih fun b hb => h b (List.mem_cons_of_mem a hb),
      (digitChar_value (h a (List.mem_cons_self a L))).2, Nat.ofDigits_cons]
    ring

theorem decimalText_wholeNumber (k : Nat) :
    decimalText k ≠ [] ∧ (∀ c ∈ decimalText k, c.isDigit = true) ∧
      decimalValue (decimalText k) = k := by
  unfold decimalText
  split_ifs with hk
  · subst hk
    decide
  · have hlt : ∀ a ∈ Nat.digits 10 k, a < 10 := fun a ha => Nat.digits_lt_base (by norm_num) ha
    refine ⟨by simp [Nat.digits_ne_nil_iff_ne_zero.mpr hk], ?_, ?_⟩
    · simp only [List.mem_map, List.mem_reverse]
      rintro c ⟨a, ha, rfl⟩
      exact (digitChar_value (hlt a ha)).1
    · rw [decimalValue_digits _ hlt, Nat.ofDigits_digits]

theorem intText_wholeNumber (n : Int) : WholeNumber (intText n).toList n := by
  obtain ⟨hne, hds, hval⟩ := decimalText_wholeNumber n.natAbs
  by_cases hn : n < 0
  · have h := @WholeNumber.digits [] ['-'] _ (by simp) (by simp) hne hds
    rw [if_pos rfl, hval, Int.ofNat_natAbs_of_nonpos hn.le, neg_neg] at h
    simpa only [intText, hn, if_true] using h
  · have h := @WholeNumber.digits [] [] _ (by simp) (by simp) hne hds
    rw [if_neg (by simp), hval, Int.natAbs_of_nonneg (not_lt.mp hn)] at h
    simpa only [intText, hn, if_false] using h

theorem longToInt_clampLong {n : Int} (h : -2 ^ 31 ≤ n ∧ n < 2 ^ 31) :
    longToInt (clampLong n) = n := by
  unfold longToInt clampLong
  omega

/-- The round trip of `txpower`: the decimal text of every power that fits in an `int` is sent
as that power, fixed, in dBm. -/
theorem set_txpower_intText (n : Int) (h : -2 ^ 31 ≤ n ∧ n < 2 ^ 31) :
    setTxpower (intText n) = .request (.txpower n 1 0 iwTxpowDbm) := by
  have hv := intText_wholeNumber n
  have hw : ∀ p : String, (strtol p.toList).2 ≠ [] → intText n ≠ p := by
    rintro p hp rfl
    exact hp (by rw [strtol_of_wholeNumber hv])
  rw [setTxpower_of_wholeNumber ⟨hw "off" (by decide), hw "auto" (by decide)⟩ hv,
    longToInt_clampLong h]

theorem set_txpower_minus_forty :
    (-2 ^ 31 ≤ (-40 : Int) ∧ (-40 : Int) < 2 ^ 31) ∧
      setTxpower (intText (-40)) = .request (.txpower (-40) 1 0 iwTxpowDbm) :=
  ⟨by decide, set_txpower_intText (-40) (by decide)⟩

/-- How the settings read when `main` makes a request for each: `commit` words, and keywords each
followed by a value that their setter turns into a request, with the settings requested. -/
inductive Plan : List String → List IwSetting → Prop
  | nil : Plan [] []
  | commit {args ss} : Plan args ss → Plan ("commit" :: args) ss
  | set {keyword value args ss setter name s} : settingOf keyword = some (setter, name) →
      setter value = .request s → Plan args ss → Plan (keyword :: value :: args) (s :: ss)

/-- Whether the driver accepts each of the requests `rs`, made one after the other after
`sent`. -/
def accepted (answer : List IwRequest → IwRequest → Bool) : List IwRequest → List IwRequest → Bool
  | _, [] => true
  | sent, r :: rs => answer sent r && accepted answer (sent ++ [r]) rs

/-- The requests of a loop that ends with `err`, after the requests `sent` before it: each names
the interface, and the driver accepted each of them but the last of a loop that ends on an
`ioctl` error, which it rejected. -/
def RequestLog (answer : List IwRequest → IwRequest → Bool) (ifname : String)
    (sent reqs : List IwRequest) (err : Option IwError) : Prop :=
  ∃ rs, reqs = sent ++ rs ∧ (∀ r ∈ rs, r.ifrName = ifname.toList.take 16) ∧
    ((∃ name, err = some (.ioctlFailed name)) →
      ∃ pre r, rs = pre ++ [r] ∧ accepted answer sent pre = true ∧
        answer (sent ++ pre) r = false) ∧
    ((∀ name, err ≠ some (.ioctlFailed name)) → accepted answer sent rs = true)

section Loop

variable {answer : List IwRequest → IwRequest → Bool} {ifname : String}

theorem settingOf_commit : settingOf "commit" = none := rfl

/-- A plan whose requests the driver accepts runs to its end. -/
theorem setLoop_of_plan (hp : Plan args ss) (sent : List IwRequest)
    (ha : accepted answer sent (ss.map (IwRequest.mk (ifname.toList.take 16))) = true) :
    setLoop answer ifname sent args =
      some (sent ++ ss.map (IwRequest.mk (ifname.toList.take 16)), none) := by
  induction hp generalizing sent with
  | nil => simp [setLoop]
  | @commit args ss _ ih =>
    cases args with
    | nil => rw [setLoop.eq_2, settingOf_commit, if_pos rfl, ← ih sent ha]
    | cons v rest => rw [setLoop.eq_3, settingOf_commit, if_pos rfl, ← ih sent ha]
  | set hk hs _ ih =>
    simp only [List.map_cons, accepted, Bool.and_eq_true] at ha
    simp only [setLoop.eq_3, hk, hs, if_pos ha.1, ih _ ha.2, List.append_assoc,
      List.singleton_append, List.map_cons]

/-- A loop that ends without an error ran a plan whose requests the driver accepted. -/
theorem plan_of_setLoop (h : setLoop answer ifname sent args = some (reqs, none)) :
    ∃ ss, Plan args ss ∧ reqs = sent ++ ss.map (IwRequest.mk (ifname.toList.take 16)) ∧
      accepted answer sent (ss.map (IwRequest.mk (ifname.toList.take 16))) = true := by
  induction sent, args using setLoop.induct answer ifname generalizing reqs with
  | case1 sent =>
    cases h
    exact ⟨[], .nil, by simp, rfl⟩
  | case3 sent _ ih =>
    rw [setLoop.eq_2, settingOf_commit, if_pos rfl] at h
    obtain ⟨ss, hp, hreqs, ha⟩ := ih h
    exact ⟨ss, .commit hp, hreqs, ha⟩
  | case5 sent keyword value rest setter name hk s hs r hr =>
    rename_i ih
    simp only [r] at hr ih
    simp only [setLoop.eq_3, hk, hs, if_pos hr] at h
    obtain ⟨ss, hp, rfl, ha⟩ := ih h
    exact ⟨s :: ss, .set hk hs hp, by simp,
      by simp only [List.map_cons, accepted, hr, ha, Bool.and_self]⟩
  | case9 sent value rest _ ih =>
    rw [setLoop.eq_3, settingOf_commit, if_pos rfl] at h
    obtain ⟨ss, hp, hreqs, ha⟩ := ih h
    exact ⟨ss, .commit hp, hreqs, ha⟩
  | case2 sent keyword _ hk =>
    simp [setLoop.eq_2, hk] at h
  | case4 sent keyword hk hc =>
    simp [setLoop.eq_2, hk, hc] at h
  | case6 sent keyword value rest setter name hk s hs r =>
    rename_i hr
    simp only [setLoop.eq_3, hk, hs, r, if_neg hr] at h
    simp at h
  | case7 sent keyword value rest setter name hk m hs | case8 sent keyword value rest setter name hk hs =>
    simp [setLoop.eq_3, hk, hs] at h
  | case10 sent keyword value rest hk hc =>
    simp [setLoop.eq_3, hk, hc] at h

namespace RequestLog

variable {sent reqs : List IwRequest} {err : Option IwError} {r : IwRequest}

theorem none_made (herr : ∀ name, err ≠ some (.ioctlFailed name)) :
    RequestLog answer ifname sent sent err :=
  ⟨[], by simp, by simp, fun ⟨name, h⟩ => absurd h (herr name), fun _ => rfl⟩

theorem rejected (hr : answer sent r = false) (hn : r.ifrName = ifname.toList.take 16) :
    RequestLog answer ifname sent (sent ++ [r]) (some (.ioctlFailed name)) :=
  ⟨[r], rfl, by simpa using hn, fun _ => ⟨[], r, rfl, rfl, by simpa using hr⟩,
    fun h => absurd rfl (h name)⟩

theorem accepted_first (hr : answer sent r = true) (hn : r.ifrName = ifname.toList.take 16)
    (h : RequestLog answer ifname (sent ++ [r]) reqs err) : RequestLog answer ifname sent reqs err := by
  obtain ⟨rs, rfl, hnames, hfail, hok⟩ := h
  refine ⟨r :: rs, by simp, by simpa [hn] using hnames, fun he => ?_, fun he => ?_⟩
  · obtain ⟨pre, r', rfl, hpre, hr'⟩ := hfail he
    exact ⟨r :: pre, r', rfl, by simp [accepted, hr, hpre], by simpa using hr'⟩
  · simp [accepted, hr, hok he]

end RequestLog

/-- Whatever way the loop ends, its requests are those `RequestLog` describes. -/
theorem set_loop_request_log (h : setLoop answer ifname sent args = some (reqs, err)) :
    RequestLog answer ifname sent reqs err := by
  induction sent, args using setLoop.induct answer ifname generalizing reqs err with
  | case1 sent =>
    cases h
    exact .none_made fun _ => nofun
  | case2 sent keyword _ hk =>
    simp only [setLoop.eq_2, hk, Option.some.injEq, Prod.mk.injEq] at h
    obtain ⟨rfl, rfl⟩ := h
    exact .none_made fun _ => by simp
  | case3 sent _ ih =>
    rw [setLoop.eq_2, settingOf_commit, if_pos rfl] at h
    exact ih h
  | case4 sent keyword hk hc =>
    simp only [setLoop.eq_2, hk, if_neg hc, Option.some.injEq, Prod.mk.injEq] at h
    obtain ⟨rfl, rfl⟩ := h
    exact .none_made fun _ => by simp
  | case5 sent keyword value rest setter name hk s hs r hr =>
    rename_i ih
    simp only [r] at hr ih
    simp only [setLoop.eq_3, hk, hs, if_pos hr] at h
    exact .accepted_first hr rfl (ih h)
  | case6 sent keyword value rest setter name hk s hs r =>
    rename_i hr
    simp only [r] at hr
    simp only [setLoop.eq_3, hk, hs, if_neg hr, Option.some.injEq, Prod.mk.injEq] at h
    obtain ⟨rfl, rfl⟩ := h
    exact .rejected (by simpa using hr) rfl
  | case7 sent keyword value rest setter name hk m hs =>
    simp only [setLoop.eq_3, hk, hs, Option.some.injEq, Prod.mk.injEq] at h
    obtain ⟨rfl, rfl⟩ := h
    exact .none_made fun _ => by simp
  | case8 sent keyword value rest setter name hk hs =>
    simp [setLoop.eq_3, hk, hs] at h
  | case9 sent value rest _ ih =>
    rw [setLoop.eq_3, settingOf_commit, if_pos rfl] at h
    exact ih h
  | case10 sent keyword value rest hk hc =>
    simp only [setLoop.eq_3, hk, if_neg hc, Option.some.injEq, Prod.mk.injEq] at h
    obtain ⟨rfl, rfl⟩ := h
    exact .none_made fun _ => by simp

theorem iwconfigSet_eq_zero_iff :
    iwconfigSet socketOk answer ifname settings = some (0, reqs) ↔
      socketOk = true ∧ setLoop answer ifname [] settings = some (reqs, none) := by
  cases socketOk with
  | false => simp [iwconfigSet]
  | true =>
    simp only [iwconfigSet, Bool.not_true, Bool.false_eq_true, if_false, Option.map_eq_some',
      true_and]
    constructor
    · rintro ⟨⟨reqs', err⟩, h, he⟩
      cases err <;> simp_all
    · intro h
      exact ⟨_, h, by simp⟩

/-- `iwconfig` with settings exits with 0 exactly when its socket opens, its settings read as a
plan of requests, and the driver accepts each of them; it then made those requests, in order,
for the interface named by at most 16 bytes of its name. -/
theorem iwconfig_succeeds_iff :
    iwconfigSet socketOk answer ifname settings = some (0, reqs) ↔
      socketOk = true ∧ ∃ ss, Plan settings ss ∧
        reqs = ss.map (IwRequest.mk (ifname.toList.take 16)) ∧ accepted answer [] reqs = true := by
  rw [iwconfigSet_eq_zero_iff]
  constructor
  · rintro ⟨hs, h⟩
    obtain ⟨ss, hp, rfl, ha⟩ := plan_of_setLoop h
    exact ⟨hs, ss, hp, by simp, by simpa using ha⟩
  · rintro ⟨hs, ss, hp, rfl, ha⟩
    exact ⟨hs, by simpa using setLoop_of_plan hp [] ha⟩

end Loop

/-- A driver that refuses to set the transmit power. -/
def refuseTxpower (_ : List IwRequest) (r : IwRequest) : Bool :=
  match r.setting with
  | .txpower .. => false
  | _ => true

theorem home_then_txpower_refused :
    setLoop refuseTxpower "wlan0" [] ["essid", "home", "commit", "txpower", "20"] =
      some ([⟨"wlan0".toList, .essid 1 (some "home")⟩, ⟨"wlan0".toList, .txpower 20 1 0 0⟩],
        some (.ioctlFailed "txpower")) ∧
    RequestLog refuseTxpower "wlan0" []
      [⟨"wlan0".toList, .essid 1 (some "home")⟩, ⟨"wlan0".toList, .txpower 20 1 0 0⟩]
      (some (.ioctlFailed "txpower")) := by
  refine ⟨?run, set_loop_request_log ?run⟩
  rfl

end ReactOs.Iwconfig
