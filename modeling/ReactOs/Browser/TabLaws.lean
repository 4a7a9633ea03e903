import ReactOs.Browser.TabTable

namespace ReactOs.Browser

/-- The table of every reachable engine is well formed, and `browser_get_active_tab` returns
one of its tabs exactly when it has tabs. -/
theorem reachable_table_wf (h : EngineReachable e) :
    e.tabs.tabCount.toNat ≤ e.config.maxTabs.toNat ∧
    (∀ p ∈ e.tabs.live, p ≠ 0 ∧ e.heap p ≠ none) ∧ e.tabs.live.Nodup ∧
    (0 < e.tabs.tabCount.toNat → e.tabs.activeTab.toNat < e.tabs.tabCount.toNat) ∧
    (browserGetActiveTab e ∈ e.tabs.live ↔ 0 < e.tabs.tabCount.toNat) := by
  have hw := h.wf
  refine ⟨hw.count_le, hw.live, hw.nodup, hw.active_lt, ?_⟩
  rw [hw.getActiveTab]
  split
  · rename_i hc; simp [TabTable.live, hc]
  · rename_i hc
    have ha := hw.active_lt (by omega)
    rw [← hw.live_length] at ha
    simp only [List.getD_eq_getElem?_getD, List.getElem?_eq_getElem ha, Option.getD_some]
    exact iff_of_true (List.getElem_mem ha) (by omega)

theorem two_tabs_active_listed :
    browserGetActiveTab (browserCreateTab (browserCreateTab (browserEngineCreate none)
      (some 1)).2 (some 2)).2 ∈
    (browserCreateTab (browserCreateTab (browserEngineCreate none) (some 1)).2 (some 2)).2.tabs.live :=
  (reachable_table_wf ⟨none, [.createTab (some 1), .createTab (some 2)], rfl⟩).2.2.2.2.mpr
    (by decide)

/-- The heap of every reachable engine holds exactly the tabs of its table, none leaked and
none dangling, and each of them is a tab the navigation calls reach. -/
theorem reachable_engine_heap (h : EngineReachable e) :
    (∀ p, e.heap p ≠ none ↔ p ∈ e.tabs.live) ∧ ∀ p tab, e.heap p = some tab → TabReachable tab :=
  ⟨fun p => ⟨h.engineWf.owned p, fun hp => (h.engineWf.live p hp).2⟩, h.engineWf.tabs⟩

/-- A tab at 1 that visits a page, a tab at 2, then the first closed. -/
def closeVisitedRun : List EngineCall :=
  [.createTab (some 1), .onTab 1 (.navigate "a" .started), .createTab (some 2), .closeTab 0]

theorem closed_tab_heap :
    ∃ e, runEngine (browserEngineCreate none) closeVisitedRun = some e ∧
      (∀ p, e.heap p ≠ none ↔ p ∈ e.tabs.live) ∧ ∀ p tab, e.heap p = some tab → TabReachable tab :=
  ⟨_, rfl, reachable_engine_heap ⟨none, closeVisitedRun, rfl⟩⟩

/-- On a well-formed table `browser_close_tab` deletes the first tab with the id, keeping the
order of the others; with no such tab it changes nothing. -/
theorem close_tab_removes_first (h : TableWf e) (tabId : UInt32) :
    ((∃ p ∈ e.tabs.live, e.idAt p = some tabId) →
      e.idAt (e.tabs.live.getD (e.firstWithId tabId) 0) = some tabId ∧
      (∀ m < e.firstWithId tabId, e.idAt (e.tabs.live.getD m 0) ≠ some tabId) ∧
      ∃ e', browserCloseTab e tabId = some e' ∧
        e'.tabs.live = e.tabs.live.eraseIdx (e.firstWithId tabId) ∧
        e'.tabs.tabCount.toNat = e.tabs.tabCount.toNat - 1) ∧
    ((∀ p ∈ e.tabs.live, e.idAt p ≠ some tabId) → browserCloseTab e tabId = some e) := by
  refine ⟨fun hex => ?_, fun hno => h.close_absent ?_⟩
  · have hlt : e.firstWithId tabId < e.tabs.live.length :=
      List.findIdx_lt_length_of_exists (by simpa using hex)
    obtain ⟨e', he, -, -, hlive, hcount, -⟩ := h.close_found tabId hlt
    have hl := h.live_length
    refine ⟨?_, fun m hm => ?_, e', he, hlive, ?_⟩
    · simpa [List.getElem?_eq_getElem hlt] using List.findIdx_getElem (w := hlt)
    · simpa [List.getElem?_eq_getElem (show m < e.tabs.live.length by omega)] using
        List.not_of_lt_findIdx hm
    · rw [hcount, u32_toNat_sub_one_of_pos (by omega)]
  · exact (List.findIdx_eq_length_of_false (by simpa using hno)).ge

theorem close_second_of_three :
    ∃ e', browserCloseTab (browserCreateTab (browserCreateTab (browserCreateTab
        (browserEngineCreate none) (some 1)).2 (some 2)).2 (some 3)).2 1 = some e' ∧
      e'.tabs.live = [1, 3] ∧ e'.tabs.tabCount.toNat = 2 := by
  obtain ⟨-, -, e', he, hlive, hcount⟩ := (close_tab_removes_first (EngineReachable.wf
    ⟨none, [.createTab (some 1), .createTab (some 2), .createTab (some 3)], rfl⟩) 1).1
    ⟨2, by decide, by decide⟩
  exact ⟨e', he, by rw [hlive]; decide, by rw [hcount]; decide⟩

/-- Closing a tab that stands before the active one, when the active one is not the last,
keeps `active_tab` while the left shift moves the tabs: the next tab becomes active. -/
theorem close_before_active_moves_active (h : TableWf e)
    (hr : e.firstWithId tabId < e.tabs.activeTab.toNat)
    (ha : e.tabs.activeTab.toNat + 1 < e.tabs.tabCount.toNat) :
    ∃ e', browserCloseTab e tabId = some e' ∧
      browserGetActiveTab e' = e.tabs.live.getD (e.tabs.activeTab.toNat + 1) 0 ∧
      browserGetActiveTab e' ≠ browserGetActiveTab e := by
  have hl := h.live_length
  obtain ⟨e', he, -, -, hlive, hcount, hactive, -⟩ := h.close_found tabId (by omega)
  have hsub := u32_toNat_sub_one_of_pos (a := e.tabs.tabCount) (by omega)
  have hc' : e'.tabs.tabCount.toNat = e.tabs.tabCount.toNat - 1 := by rw [hcount, hsub]
  have ha' : e'.tabs.activeTab = e.tabs.activeTab := by
    have hkeep : ¬(e.tabs.activeTab ≥ e.tabs.tabCount - 1 ∧ e.tabs.tabCount - 1 > 0) := by
      simp only [ge_iff_le, gt_iff_lt, u32_le_iff, u32_lt_iff, hsub, UInt32.toNat_zero]; omega
    rw [hactive, if_neg hkeep]
  have hw' := h.closeTab he
  have hget : browserGetActiveTab e' = e.tabs.live.getD (e.tabs.activeTab.toNat + 1) 0 := by
    rw [hw'.getActiveTab, if_neg (by omega), hlive, ha']
    simp only [List.getD_eq_getElem?_getD, List.getElem?_eraseIdx, if_neg (show
      ¬e.tabs.activeTab.toNat < e.firstWithId tabId by omega)]
  refine ⟨e', he, hget, ?_⟩
  rw [hget, h.getActiveTab, if_neg (by omega)]
  simp only [List.getD_eq_getElem?_getD, List.getElem?_eq_getElem (show
    e.tabs.activeTab.toNat + 1 < e.tabs.live.length by omega), List.getElem?_eq_getElem (show
    e.tabs.activeTab.toNat < e.tabs.live.length by omega), Option.getD_some]
  intro heq
  have := (h.nodup.getElem_inj_iff).mp heq
  omega

/-- Three tabs with ids 0, 1, 2 at addresses 1, 2, 3, the middle one active. -/
def middleActive : BrowserEngine :=
  let e := (browserCreateTab (browserCreateTab (browserCreateTab (browserEngineCreate none)
    (some 1)).2 (some 2)).2 (some 3)).2
  { e with tabs := { e.tabs with activeTab := 1 } }

theorem close_first_of_middle_active :
    ∃ e', browserCloseTab middleActive 0 = some e' ∧ browserGetActiveTab e' = 3 ∧
      browserGetActiveTab e' ≠ browserGetActiveTab middleActive := by
  have hw := EngineReachable.wf
    ⟨none, [.createTab (some 1), .createTab (some 2), .createTab (some 3)], rfl⟩
  obtain ⟨e', he, hget, hne⟩ := close_before_active_moves_active (e := middleActive)
    ⟨hw.length, hw.count_le, hw.live, hw.nodup, fun _ => by decide⟩
    (show middleActive.firstWithId 0 < middleActive.tabs.activeTab.toNat by decide) (by decide)
  exact ⟨e', he, by rw [hget]; decide, hne⟩

/-- Tabs at 1 and 2, the first closed, a tab at 3 created. -/
def collisionRun : List EngineCall :=
  [.createTab (some 1), .createTab (some 2), .closeTab 0, .createTab (some 3)]

/-- After the first of two tabs is closed the next tab reuses id 1, and closing the active tab
by its id, as Ctrl+W does, closes the other tab. -/
theorem tab_ids_collide :
    (runEngine (browserEngineCreate none) collisionRun).map (fun e => e.tabs.live.map e.idAt) =
      some [some 1, some 1] ∧
    (runEngine (browserEngineCreate none) collisionRun).map browserGetActiveTab = some 3 ∧
    ((runEngine (browserEngineCreate none) collisionRun).bind shortcutCloseTab).map
      (·.tabs.live) = some [3] := by
  decide

end ReactOs.Browser
