import ReactOs.Browser.TabLaws

namespace ReactOs.Browser

/-- One pass of the loop of `browser_engine_shutdown`:
`browser_close_tab(engine, engine->tabs.tabs[0]->id)`. -/
def closeFirstTab (e : BrowserEngine) : Option BrowserEngine :=
  (e.heap (e.tabs.tabs.getD 0 0)).bind fun tab => browserCloseTab e tab.id

/-- The loop `while (engine->tabs.tab_count > 0)` of `browser_engine_shutdown`, for at most
`fuel` passes: the passes made and the engine it leaves, or `none` when it has not ended
within `fuel` passes or a pass has undefined behaviour. -/
def closeAllTabs : Nat → BrowserEngine → Option (Nat × BrowserEngine)
  | 0, e => if e.tabs.tabCount > 0 then none else some (0, e)
  | fuel + 1, e =>
    if e.tabs.tabCount > 0 then
      (closeFirstTab e).bind fun e' => (closeAllTabs fuel e').map fun r => (r.1 + 1, r.2)
    else some (0, e)

theorem TableWf.live_eq_cons (h : TableWf e) (hpos : 0 < e.tabs.tabCount.toNat) :
    e.tabs.live = e.tabs.tabs.getD 0 0 :: e.tabs.live.tail := by
  obtain ⟨p, ps, hps⟩ := List.exists_cons_of_length_pos (h.live_length ▸ hpos)
  rw [← TabTable.live_getD _ hpos, hps]; rfl

/-- On a well-formed table the first tab with the id of `tabs[0]` is `tabs[0]` itself, so a
pass closes it, whatever ids the other tabs have. -/
theorem EngineWf.firstPass (h : EngineWf e) (hpos : 0 < e.tabs.tabCount.toNat) :
    ∃ tab e', e.heap (e.tabs.tabs.getD 0 0) = some tab ∧ e.firstWithId tab.id = 0 ∧
      closeFirstTab e = some e' ∧ browserCloseTab e tab.id = some e' ∧
      e'.tabs.live = e.tabs.live.tail ∧ e'.tabs.tabCount.toNat = e.tabs.tabCount.toNat - 1 := by
  have hcons := h.live_eq_cons hpos
  obtain ⟨tab, htab⟩ := Option.ne_none_iff_exists'.mp
    (h.live _ (hcons ▸ List.mem_cons_self _ _)).2
  have hfirst : e.firstWithId tab.id = 0 := by
    rw [BrowserEngine.firstWithId, hcons, List.findIdx_cons]
    simp only [BrowserEngine.idAt, htab, Option.map_some', decide_True, cond_true]
  obtain ⟨e', he, -, -, hlive, hcount, -⟩ :=
    h.close_found tab.id (by rw [hfirst, h.live_length]; exact hpos)
  refine ⟨tab, e', htab, hfirst, by rw [closeFirstTab, htab]; exact he, he, ?_, ?_⟩
  · rw [hlive, hfirst, hcons]; rfl
  · rw [hcount, u32_toNat_sub_one_of_pos hpos]

/-- The loop needs exactly `tab_count` passes, and leaves a well-formed engine with no tab. -/
theorem EngineWf.closeAll (h : EngineWf e) :
    ∃ e', e'.tabs.tabCount = 0 ∧ EngineWf e' ∧ ∀ fuel, closeAllTabs fuel e =
      if e.tabs.tabCount.toNat ≤ fuel then some (e.tabs.tabCount.toNat, e') else none := by
  obtain ⟨n, hn⟩ : ∃ n, e.tabs.tabCount.toNat = n := ⟨_, rfl⟩
  induction n generalizing e with
  | zero =>
    have h0 : e.tabs.tabCount = 0 := u32_eq_iff.mpr hn
    refine ⟨e, h0, h, fun fuel => ?_⟩
    cases fuel <;> simp [closeAllTabs, h0, hn]
  | succ n ih =>
    obtain ⟨tab, e₁, -, -, hpass, hclose, -, hcount⟩ := h.firstPass (by omega)
    obtain ⟨e', h0, hw', hloop⟩ := ih (h.closeTab hclose) (by omega)
    have hgt : e.tabs.tabCount > 0 := by simp only [gt_iff_lt, u32_lt_iff, UInt32.toNat_zero]; omega
    refine ⟨e', h0, hw', fun fuel => ?_⟩
    cases fuel with
    | zero => simp [closeAllTabs, hgt, hn]
    | succ fuel =>
      rw [closeAllTabs, if_pos hgt, hpass, Option.some_bind, hloop, hcount, hn]
      by_cases hf : n ≤ fuel <;> simp [hf]

/-- The loop of `browser_engine_shutdown` on every reachable engine: each pass closes
`tabs[0]`, the first tab with its id even when ids collide, and the loop ends after exactly
`tab_count` passes with no tab left, every tab freed. -/
theorem shutdown_closes_every_tab (h : EngineReachable e) :
    (0 < e.tabs.tabCount.toNat → ∃ tab e', e.heap (e.tabs.tabs.getD 0 0) = some tab ∧
      e.firstWithId tab.id = 0 ∧ closeFirstTab e = some e' ∧ e'.tabs.live = e.tabs.live.tail) ∧
    ∃ e', e'.tabs.tabCount = 0 ∧ (∀ p, e'.heap p = none) ∧ ∀ fuel, closeAllTabs fuel e =
      if e.tabs.tabCount.toNat ≤ fuel then some (e.tabs.tabCount.toNat, e') else none := by
  have hw := h.engineWf
  refine ⟨fun hpos => ?_, ?_⟩
  · obtain ⟨tab, e', htab, hfirst, hpass, -, hlive, -⟩ := hw.firstPass hpos
    exact ⟨tab, e', htab, hfirst, hpass, hlive⟩
  · obtain ⟨e', h0, hw', hloop⟩ := hw.closeAll
    refine ⟨e', h0, fun p => ?_, hloop⟩
    by_contra hp
    have hmem := hw'.owned p hp
    simp [TabTable.live, h0] at hmem

theorem shutdown_after_collision :
    ∃ e, runEngine (browserEngineCreate none) collisionRun = some e ∧
      ∃ e', e'.tabs.tabCount = 0 ∧ (∀ p, e'.heap p = none) ∧ ∀ fuel, closeAllTabs fuel e =
        if e.tabs.tabCount.toNat ≤ fuel then some (e.tabs.tabCount.toNat, e') else none :=
  ⟨_, rfl, (shutdown_closes_every_tab ⟨none, collisionRun, rfl⟩).2⟩

end ReactOs.Browser
