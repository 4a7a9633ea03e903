import ReactOs.Browser.Engine
import ReactOs.Browser.HistoryLaws

namespace ReactOs.Browser

/-- Over live slots the search loop never faults and stops at the first tab with the id. -/
theorem findTab_eq (heap : Ptr → Option BrowserTab) (tabId : UInt32) (ps : List Ptr)
    (h : ∀ p ∈ ps, heap p ≠ none) (k : Nat) :
    findTab heap tabId ps k =
      some (if ps.findIdx (fun p => (heap p).map (·.id) = some tabId) < ps.length
        then some (k + ps.findIdx fun p => (heap p).map (·.id) = some tabId) else none) := by
  induction ps generalizing k with
  | nil => rfl
  | cons p ps ih =>
    obtain ⟨tab, ht⟩ := Option.ne_none_iff_exists'.mp (h p (by simp))
    rw [findTab, ht, List.findIdx_cons]
    dsimp only
    by_cases hid : tab.id = tabId
    · simp [ht, hid]
    · rw [if_neg hid, ih (fun q hq => h q (by simp [hq])) (k + 1)]
      simp only [ht, Option.map_some', Option.some.injEq, hid, decide_False, cond_false,
        List.length_cons, Nat.add_lt_add_iff_right]
      split <;> simp only [Option.some.injEq]; omega

/-- The removal loop copies slot `j + 1` into slot `j` for each `j` it passes. -/
theorem getElem?_shiftTabs (tabs : List Ptr) (i n : Nat) (h : i + n < tabs.length) (j : Nat) :
    (shiftTabs tabs i n)[j]? = if i ≤ j ∧ j < i + n then tabs[j + 1]? else tabs[j]? := by
  induction n generalizing tabs i with
  | zero => rw [shiftTabs, if_neg (by omega)]
  | succ n ih =>
    rw [shiftTabs, ih _ _ (by rw [List.length_set]; omega)]
    simp only [List.getElem?_set, List.getD_eq_getElem?_getD]
    by_cases hj : j = i
    · subst hj
      simp only [if_pos trivial, show j < tabs.length by omega]
      rw [if_neg (by omega), if_pos (by omega), List.getElem?_eq_getElem (by omega)]
      rfl
    · split_ifs <;> first | rfl | omega

theorem shiftTabs_length (tabs : List Ptr) (i n : Nat) : (shiftTabs tabs i n).length = tabs.length := by
  induction n generalizing tabs i with
  | zero => rfl
  | succ n ih => rw [shiftTabs, ih, List.length_set]

/-- The removal loop over `tab_count - 1 - i` steps deletes slot `i` from `tabs[0..tab_count)`. -/
theorem shiftTabs_take (tabs : List Ptr) (i m : Nat) (hi : i < m) (hm : m ≤ tabs.length) :
    (shiftTabs tabs i (m - 1 - i)).take (m - 1) = (tabs.take m).eraseIdx i := by
  apply List.ext_getElem?
  intro j
  rw [List.getElem?_take, List.getElem?_eraseIdx, List.getElem?_take, List.getElem?_take,
    getElem?_shiftTabs _ _ _ (by omega)]
  split_ifs <;> first | rfl | omega

/-- The index the search loop of `browser_close_tab` stops at: the first tab with id `tab_id`. -/
def BrowserEngine.firstWithId (e : BrowserEngine) (tabId : UInt32) : Nat :=
  e.tabs.live.findIdx fun p => e.idAt p = some tabId

/-- The tab table of every reachable engine: `tab_count` slots of the `max_tabs` in use,
holding distinct non-null pointers to live tabs, with the active index among them. -/
structure TableWf (e : BrowserEngine) : Prop where
  length : e.tabs.tabs.length = e.config.maxTabs.toNat
  count_le : e.tabs.tabCount.toNat ≤ e.config.maxTabs.toNat
  live : ∀ p ∈ e.tabs.live, p ≠ 0 ∧ e.heap p ≠ none
  nodup : e.tabs.live.Nodup
  active_lt : 0 < e.tabs.tabCount.toNat → e.tabs.activeTab.toNat < e.tabs.tabCount.toNat

theorem TableWf.live_length (h : TableWf e) : e.tabs.live.length = e.tabs.tabCount.toNat := by
  simp [TabTable.live, h.length, h.count_le]

theorem TabTable.live_getD (t : TabTable) (hi : i < t.tabCount.toNat) :
    t.live.getD i 0 = t.tabs.getD i 0 := by
  simp [TabTable.live, List.getElem?_take, hi]

theorem browserEngineCreate_wf (config : Option BrowserConfig) :
    TableWf (browserEngineCreate config) := by
  refine ⟨by simp [browserEngineCreate], by simp [browserEngineCreate], ?_, ?_, by simp [browserEngineCreate]⟩ <;>
    simp [browserEngineCreate, TabTable.live]

/-- What `browser_close_tab` does when some tab has the id. -/
theorem TableWf.close_found (h : TableWf e) (tabId : UInt32)
    (hlt : e.firstWithId tabId < e.tabs.live.length) :
    ∃ e', browserCloseTab e tabId = some e' ∧ e'.config = e.config ∧
      e'.tabs.tabs.length = e.tabs.tabs.length ∧
      e'.tabs.live = e.tabs.live.eraseIdx (e.firstWithId tabId) ∧
      e'.tabs.tabCount = e.tabs.tabCount - 1 ∧
      e'.tabs.activeTab = (if e.tabs.activeTab ≥ e.tabs.tabCount - 1 ∧ e.tabs.tabCount - 1 > 0
        then e.tabs.tabCount - 1 - 1 else e.tabs.activeTab) ∧
      e'.heap = Function.update e.heap (e.tabs.live.getD (e.firstWithId tabId) 0) none := by
  have hl := h.live_length
  have hm := h.count_le
  have hlen := h.length
  have hpos : 0 < e.tabs.tabCount.toNat := by omega
  have hc := u32_toNat_sub_one_of_pos hpos
  have hlt' := hlt
  unfold BrowserEngine.firstWithId BrowserEngine.idAt at hlt'
  unfold browserCloseTab
  rw [findTab_eq _ _ _ (fun p hp => (h.live p hp).2), if_pos hlt', Nat.zero_add]
  refine ⟨_, rfl, rfl, by simp [shiftTabs_length], ?_, rfl, rfl, ?_⟩
  · show (shiftTabs e.tabs.tabs (e.firstWithId tabId)
        ((e.tabs.tabCount - 1).toNat - e.firstWithId tabId)).take (e.tabs.tabCount - 1).toNat =
      (e.tabs.tabs.take e.tabs.tabCount.toNat).eraseIdx (e.firstWithId tabId)
    rw [hc]
    exact shiftTabs_take _ _ _ (by omega) (by omega)
  · rw [TabTable.live_getD _ (by omega)]; rfl

/-- What `browser_close_tab` does when no tab has the id: nothing. -/
theorem TableWf.close_absent (h : TableWf e) (hge : e.tabs.live.length ≤ e.firstWithId tabId) :
    browserCloseTab e tabId = some e := by
  have hge' := hge
  unfold BrowserEngine.firstWithId BrowserEngine.idAt at hge'
  unfold browserCloseTab
  rw [findTab_eq _ _ _ (fun p hp => (h.live p hp).2), if_neg (by omega)]
  rfl

theorem TableWf.closeTab (h : TableWf e) (hc : browserCloseTab e tabId = some e') : TableWf e' := by
  by_cases hlt : e.firstWithId tabId < e.tabs.live.length
  · obtain ⟨e'', he, hcfg, hlen, hlive, hcount, hactive, hheap⟩ := h.close_found tabId hlt
    rw [hc, Option.some.injEq] at he
    subst he
    have hl := h.live_length
    have hm := h.count_le
    have hcount' : e'.tabs.tabCount.toNat = e.tabs.tabCount.toNat - 1 := by
      rw [hcount, u32_toNat_sub_one_of_pos (by omega)]
    have hfree : ∀ q ∈ e'.tabs.live, q ≠ e.tabs.live.getD (e.firstWithId tabId) 0 := by
      intro q hq hqe
      rw [hlive, ← h.nodup.erase_getElem _ hlt] at hq
      rw [List.getD_eq_getElem?_getD, List.getElem?_eq_getElem hlt, Option.getD_some] at hqe
      exact h.nodup.not_mem_erase (hqe ▸ hq)
    refine ⟨by rw [hlen, hcfg, h.length], by rw [hcfg]; omega, fun q hq => ?_, ?_, fun hpos => ?_⟩
    · have hold := h.live q (by rw [hlive] at hq; exact List.mem_of_mem_eraseIdx hq)
      rw [hheap, Function.update_noteq (hfree q hq)]
      exact hold
    · rw [hlive]; exact h.nodup.eraseIdx _
    · have := h.active_lt (by omega)
      have := u32_toNat_lt e.tabs.tabCount
      rw [hactive, hcount']
      split <;> rename_i hif <;>
        simp only [ge_iff_le, gt_iff_lt, u32_le_iff, u32_lt_iff, u32_toNat_sub_one,
          UInt32.toNat_zero] at hif ⊢ <;>
        omega
  · rw [h.close_absent (by omega), Option.some.injEq] at hc
    exact hc ▸ h

/-- What `browser_create_tab` does: nothing when the table is full or an allocation failed,
otherwise it appends the new tab at `p`, makes it active and puts it on the heap. -/
theorem TableWf.create_cases (h : TableWf e) (alloc : Option Ptr) :
    (browserCreateTab e alloc).2 = e ∨
    ∃ p, alloc = some p ∧ e.tabs.tabCount.toNat < e.config.maxTabs.toNat ∧
      (browserCreateTab e alloc).2.config = e.config ∧
      (browserCreateTab e alloc).2.tabs.tabs.length = e.tabs.tabs.length ∧
      (browserCreateTab e alloc).2.tabs.live = e.tabs.live ++ [p] ∧
      (browserCreateTab e alloc).2.tabs.tabCount.toNat = e.tabs.tabCount.toNat + 1 ∧
      (browserCreateTab e alloc).2.tabs.activeTab.toNat = e.tabs.tabCount.toNat ∧
      (browserCreateTab e alloc).2.heap = Function.update e.heap p (some (newTab e.tabs.tabCount)) := by
  unfold browserCreateTab
  split
  · exact .inl rfl
  · rename_i hlt
    cases alloc with
    | none => exact .inl rfl
    | some p =>
      simp only [ge_iff_le, u32_le_iff, not_le] at hlt
      have hm := u32_toNat_lt e.config.maxTabs
      have hc : (e.tabs.tabCount + 1).toNat = e.tabs.tabCount.toNat + 1 := by
        rw [u32_toNat_add_one]; omega
      refine .inr ⟨p, rfl, hlt, rfl, by simp, ?_, hc, by simp only [u32_toNat_sub_one, hc]; omega, rfl⟩
      show (e.tabs.tabs.set e.tabs.tabCount.toNat p).take (e.tabs.tabCount + 1).toNat = _
      rw [hc, take_set_succ _ _ (by rw [h.length]; exact hlt)]
      rfl

theorem TableWf.createTab (h : TableWf e) (hf : fresh e alloc = true) :
    TableWf (browserCreateTab e alloc).2 := by
  rcases h.create_cases alloc with he | ⟨p, rfl, hlt, hcfg, hlen, hlive, hcount, hactive, hheap⟩
  · rw [he]; exact h
  · simp only [fresh, Bool.and_eq_true, bne_iff_ne, ne_eq, Option.isNone_iff_eq_none] at hf
    have hold : ∀ q ∈ e.tabs.live, q ≠ p := fun q hq hqp => (h.live q hq).2 (hqp ▸ hf.2)
    refine ⟨by rw [hlen, hcfg, h.length], by rw [hcount, hcfg]; omega, fun q hq => ?_, ?_,
      fun _ => by omega⟩
    · rw [hlive, List.mem_append, List.mem_singleton] at hq
      rw [hheap]
      rcases hq with hq | rfl
      · rw [Function.update_noteq (hold q hq)]; exact h.live q hq
      · simp [hf.1]
    · rw [hlive, List.nodup_append]
      exact ⟨h.nodup, List.nodup_singleton p, fun q hq hr => hold q hq (List.mem_singleton.mp hr)⟩

/-- A call on a tab keeps the table and keeps the slot it writes live. -/
theorem TableWf.callTab (h : TableWf e) (hc : e.callTab p c = some (r, e')) : TableWf e' := by
  rcases BrowserEngine.callTab_eq_some hc with ⟨-, -, rfl⟩ | ⟨-, tab, tab', ht, -, rfl⟩
  · exact h
  · refine ⟨h.length, h.count_le, fun q hq => ⟨(h.live q hq).1, ?_⟩, h.nodup, h.active_lt⟩
    by_cases hqp : q = p
    · subst hqp; simp
    · show Function.update e.heap p (some tab') q ≠ none
      rw [Function.update_noteq hqp]; exact (h.live q hq).2

/-- The engine of every reachable state: a well-formed table whose tabs are exactly the tab
objects on the heap, none leaked and none dangling, each a tab the navigation calls reach. -/
structure EngineWf (e : BrowserEngine) extends TableWf e : Prop where
  owned : ∀ p, e.heap p ≠ none → p ∈ e.tabs.live
  tabs : ∀ p tab, e.heap p = some tab → TabReachable tab

theorem browserEngineCreate_engineWf (config : Option BrowserConfig) :
    EngineWf (browserEngineCreate config) :=
  ⟨browserEngineCreate_wf config, fun _ hp => absurd rfl hp, fun _ _ hp => by cases hp⟩

theorem EngineWf.createTab (h : EngineWf e) (hf : fresh e alloc = true) :
    EngineWf (browserCreateTab e alloc).2 := by
  rcases h.create_cases alloc with he | ⟨p, rfl, -, -, -, hlive, -, -, hheap⟩
  · rw [he]; exact h
  · refine ⟨h.toTableWf.createTab hf, fun q hq => ?_, fun q tab hq => ?_⟩ <;>
      rw [hheap] at hq <;> by_cases hqp : q = p
    · simp [hlive, hqp]
    · rw [Function.update_noteq hqp] at hq
      rw [hlive]; exact List.mem_append_left _ (h.owned q hq)
    · subst hqp
      obtain rfl : newTab e.tabs.tabCount = tab := by simpa using hq
      exact ⟨_, [], rfl⟩
    · rw [Function.update_noteq hqp] at hq; exact h.tabs q tab hq

theorem EngineWf.closeTab (h : EngineWf e) (hc : browserCloseTab e tabId = some e') : EngineWf e' := by
  by_cases hlt : e.firstWithId tabId < e.tabs.live.length
  · obtain ⟨e'', he, -, -, hlive, -, -, hheap⟩ := h.close_found tabId hlt
    rw [hc, Option.some.injEq] at he
    subst he
    refine ⟨h.toTableWf.closeTab hc, fun q hq => ?_, fun q tab hq => ?_⟩ <;> rw [hheap] at hq <;>
      by_cases hqp : q = e.tabs.live.getD (e.firstWithId tabId) 0
    · subst hqp; simp at hq
    · rw [Function.update_noteq hqp] at hq
      obtain ⟨j, hj⟩ := List.mem_iff_getElem?.mp (h.owned q hq)
      rw [hlive, List.mem_eraseIdx_iff_getElem?]
      exact ⟨j, fun hji => hqp (by rw [← hji, List.getD_eq_getElem?_getD, hj]; rfl), hj⟩
    · subst hqp; simp at hq
    · rw [Function.update_noteq hqp] at hq; exact h.tabs q tab hq
  · rw [h.close_absent (by omega), Option.some.injEq] at hc
    exact hc ▸ h

theorem EngineWf.callTab (h : EngineWf e) (hc : e.callTab p c = some (r, e')) : EngineWf e' := by
  have ht := h.toTableWf.callTab hc
  rcases BrowserEngine.callTab_eq_some hc with ⟨-, -, rfl⟩ | ⟨-, tab, tab', htab, hrun, rfl⟩
  · exact h
  · refine ⟨ht, fun q hq => ?_, fun q t hq => ?_⟩ <;> by_cases hqp : q = p
    · subst hqp; exact h.owned q (by simp [htab])
    · exact h.owned q (by simpa [Function.update_noteq hqp] using hq)
    · subst hqp
      obtain rfl : tab' = t := by simpa using hq
      exact (h.tabs q tab htab).run hrun
    · exact h.tabs q t (by simpa [Function.update_noteq hqp] using hq)

theorem EngineWf.run (h : EngineWf e) {c : EngineCall} (hc : c.run e = some e') : EngineWf e' := by
  rcases EngineCall.run_eq_some hc with ⟨alloc, -, hf, rfl⟩ | ⟨tabId, -, hc⟩ | ⟨p, tc, r, -, hc⟩
  · exact h.createTab hf
  · exact h.closeTab hc
  · exact h.callTab hc

theorem EngineWf.run_engine (h : EngineWf e) (hr : runEngine e calls = some e') : EngineWf e' := by
  induction calls generalizing e with
  | nil => cases hr; exact h
  | cons c cs ih =>
    simp only [runEngine, Option.bind_eq_some] at hr
    obtain ⟨e'', hc, hr⟩ := hr
    exact ih (h.run hc) hr

theorem EngineReachable.engineWf (h : EngineReachable e) : EngineWf e := by
  obtain ⟨config, calls, hr⟩ := h
  exact (browserEngineCreate_engineWf config).run_engine hr

theorem EngineReachable.wf (h : EngineReachable e) : TableWf e :=
  h.engineWf.toTableWf

/-- On a well-formed table `browser_get_active_tab` reads the active slot, or gives `NULL` on
an empty table. -/
theorem TableWf.getActiveTab (h : TableWf e) :
    browserGetActiveTab e =
      if e.tabs.tabCount.toNat = 0 then 0 else e.tabs.live.getD e.tabs.activeTab.toNat 0 := by
  unfold browserGetActiveTab
  by_cases hc : e.tabs.tabCount.toNat = 0
  · simp [hc]
  · have := h.active_lt (by omega)
    rw [if_neg (by simpa using hc), if_neg (by simp; omega), if_neg hc,
      TabTable.live_getD _ this]

end ReactOs.Browser
