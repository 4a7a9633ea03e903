import ReactOs.Browser.History

namespace ReactOs.Browser

theorem runTab_append (tab : BrowserTab) (xs ys : List TabCall) :
    runTab tab (xs ++ ys) = (runTab tab xs).bind fun t => runTab t ys := by
  induction xs generalizing tab with
  | nil => rfl
  | cons c cs ih =>
    simp only [List.cons_append, runTab]
    cases c.run tab with
    | none => rfl
    | some r => exact ih r.2

theorem TabReachable.run (h : TabReachable tab) {c : TabCall} (hc : c.run tab = some (r, tab')) :
    TabReachable tab' := by
  obtain ⟨id, calls, hr⟩ := h
  exact ⟨id, calls ++ [c], by simp [runTab_append, hr, runTab, hc]⟩

/-- The entries after a navigation with room: those up to the current one, then `url`. -/
theorem NavWf.add_take (h : NavWf nav) (url : String) (hk : nav.historyIndex.toNat + 1 < 100) :
    (addToHistory nav url).history.take (nav.historyIndex.toNat + 2) =
      nav.history.take (nav.historyIndex.toNat + 1) ++ [some url] := by
  rw [(h.add_room url hk).1, take_set_succ _ _ (by rw [h.length]; omega)]

section Moves

variable {tab tab' : BrowserTab} {r : Int} {fetch : FetchOutcome}

/-- The forward guard, read exactly: on an empty history `history_count - 1` wraps and the
guard fails for every index the invariant allows. -/
theorem NavWf.forward_guard (h : NavWf tab.navigation) :
    tab.navigation.historyIndex ≥ tab.navigation.historyCount - 1 ↔
      0 < tab.navigation.historyCount.toNat ∧
      tab.navigation.historyCount.toNat ≤ tab.navigation.historyIndex.toNat + 1 := by
  have := h.count_le
  have := h.index_cases
  simp only [ge_iff_le, u32_le_iff, u32_toNat_sub_one]
  omega

/-- Below `history_count`, only slot 0 is null. -/
theorem NavWf.slot_eq_none (h : NavWf nav) (hi : i < nav.historyCount.toNat) :
    nav.slot i = none ↔ i = 0 := by
  refine ⟨fun hs => by_contra fun h0 => h.filled i (Nat.pos_of_ne_zero h0) hi hs, ?_⟩
  rintro rfl
  exact h.zero_null

/-- `browser_go_back` succeeds from every index past the first entry when no page loads. -/
theorem NavWf.goBack_some (h : NavWf tab.navigation) (hi : 1 < tab.navigation.historyIndex.toNat)
    (hf : fetch ≠ .loaded) :
    ∃ url, historyEntry tab.navigation (tab.navigation.historyIndex - 1) = some url ∧
      browserGoBack tab fetch = some (0, { tab with
        url := url, navigation := { tab.navigation with
          historyIndex := tab.navigation.historyIndex - 1 },
        state := { tab.state with loading := false } }) := by
  have := h.index_cases
  have hsub := u32_toNat_sub_one_of_pos (a := tab.navigation.historyIndex) (by omega)
  obtain ⟨url, hu⟩ := Option.ne_none_iff_exists'.mp
    (h.filled (tab.navigation.historyIndex - 1).toNat (by omega) (by omega))
  refine ⟨url, hu, ?_⟩
  rw [browserGoBack, if_neg (by rw [u32_eq_iff, UInt32.toNat_zero]; omega)]
  exact showEntry_eq_some.mpr ⟨url, hu, hf, rfl, rfl⟩

/-- `browser_go_forward` succeeds below the last entry when no page loads. -/
theorem NavWf.goForward_some (h : NavWf tab.navigation)
    (hi : tab.navigation.historyIndex.toNat + 1 < tab.navigation.historyCount.toNat)
    (hf : fetch ≠ .loaded) :
    ∃ url, historyEntry tab.navigation (tab.navigation.historyIndex + 1) = some url ∧
      browserGoForward tab fetch = some (0, { tab with
        url := url, navigation := { tab.navigation with
          historyIndex := tab.navigation.historyIndex + 1 },
        state := { tab.state with loading := false } }) := by
  have := h.count_le
  have hadd : (tab.navigation.historyIndex + 1).toNat = tab.navigation.historyIndex.toNat + 1 := by
    rw [u32_toNat_add_one]; omega
  obtain ⟨url, hu⟩ := Option.ne_none_iff_exists'.mp
    (h.filled (tab.navigation.historyIndex + 1).toNat (by omega) (by omega))
  refine ⟨url, hu, ?_⟩
  rw [browserGoForward, if_neg (by rw [h.forward_guard]; omega)]
  exact showEntry_eq_some.mpr ⟨url, hu, hf, rfl, rfl⟩

/-- A `browser_go_back` that returned 0 moved down from an index past the first entry. -/
theorem TabWf.goBack_ok (h : TabWf tab) (hb : browserGoBack tab fetch = some (0, tab')) :
    1 < tab.navigation.historyIndex.toNat ∧
    historyEntry tab.navigation (tab.navigation.historyIndex - 1) = some tab'.url ∧
    tab'.navigation = { tab.navigation with historyIndex := tab.navigation.historyIndex - 1 } := by
  unfold browserGoBack at hb
  split at hb
  · cases hb
  · rename_i h0
    obtain ⟨url, hu, -, -, rfl⟩ := showEntry_eq_some.mp hb
    refine ⟨?_, hu, rfl⟩
    have hz := h.nav.zero_null
    by_contra hle
    have h1 : (tab.navigation.historyIndex - 1).toNat = 0 := by
      simp only [u32_eq_iff, UInt32.toNat_zero, u32_toNat_sub_one] at h0 ⊢; omega
    rw [historyEntry, h1, hz] at hu
    cases hu

/-- A `browser_go_forward` that returned 0 moved up from below the last entry. -/
theorem TabWf.goForward_ok (h : TabWf tab) (hf : browserGoForward tab fetch = some (0, tab')) :
    tab.navigation.historyIndex.toNat + 1 < tab.navigation.historyCount.toNat ∧
    historyEntry tab.navigation (tab.navigation.historyIndex + 1) = some tab'.url ∧
    tab'.navigation = { tab.navigation with historyIndex := tab.navigation.historyIndex + 1 } := by
  unfold browserGoForward at hf
  split at hf
  · cases hf
  · rename_i hg
    obtain ⟨url, hu, -, -, rfl⟩ := showEntry_eq_some.mp hf
    refine ⟨?_, hu, rfl⟩
    rw [h.nav.forward_guard] at hg
    rcases Nat.eq_zero_or_pos tab.navigation.historyCount.toNat with h0 | h0
    · rw [h.nav.next_entry_empty h0] at hu; cases hu
    · omega

/-- On an empty history `browser_go_forward` passes its wrapped guard and copies the null
slot 1. -/
theorem NavWf.goForward_empty (h : NavWf tab.navigation) (hc : tab.navigation.historyCount.toNat = 0)
    (fetch : FetchOutcome) : browserGoForward tab fetch = none := by
  rw [browserGoForward, if_neg (by rw [h.forward_guard]; omega), showEntry_eq_none,
    h.next_entry_empty hc]
  exact .inl rfl

/-- From the first entry `browser_go_back` copies the null slot 0. -/
theorem NavWf.goBack_first (h : NavWf tab.navigation) (hi : tab.navigation.historyIndex.toNat = 1)
    (fetch : FetchOutcome) : browserGoBack tab fetch = none := by
  have h0 : (tab.navigation.historyIndex - 1).toNat = 0 := by
    rw [u32_toNat_sub_one_of_pos (by omega), hi]
  rw [browserGoBack, if_neg (by rw [u32_eq_iff, UInt32.toNat_zero]; omega), showEntry_eq_none,
    historyEntry, h0]
  exact .inl h.zero_null

/-- `browser_go_back` is undefined from the first entry, which is past the null slot, and
wherever it passes its guard and loads the page. -/
theorem NavWf.goBack_eq_none (h : NavWf tab.navigation) :
    browserGoBack tab fetch = none ↔ tab.navigation.historyIndex.toNat = 1 ∨
      tab.navigation.historyIndex.toNat ≠ 0 ∧ fetch = .loaded := by
  have := h.index_cases
  unfold browserGoBack
  split <;> rename_i h0 <;> rw [u32_eq_iff, UInt32.toNat_zero] at h0
  · simp [h0]
  · have hsub := u32_toNat_sub_one_of_pos (a := tab.navigation.historyIndex) (by omega)
    have h1 : tab.navigation.historyIndex.toNat - 1 = 0 ↔ tab.navigation.historyIndex.toNat = 1 := by
      omega
    rw [showEntry_eq_none, historyEntry, h.slot_eq_none (by omega), hsub, h1]
    simp only [h0, ne_eq, not_false_eq_true, true_and]

/-- `browser_go_forward` is undefined on an empty history, past the wrapped guard, and wherever
it moves up and loads the page. -/
theorem NavWf.goForward_eq_none (h : NavWf tab.navigation) :
    browserGoForward tab fetch = none ↔ tab.navigation.historyCount.toNat = 0 ∨
      tab.navigation.historyIndex.toNat + 1 < tab.navigation.historyCount.toNat ∧
        fetch = .loaded := by
  have := h.count_le
  unfold browserGoForward
  split <;> rename_i hg <;> rw [h.forward_guard] at hg
  · exact iff_of_false (Option.some_ne_none _) (by rintro (h0 | ⟨hlt, -⟩) <;> omega)
  · rw [showEntry_eq_none]
    rcases Nat.eq_zero_or_pos tab.navigation.historyCount.toNat with h0 | h0
    · simp [h.next_entry_empty h0, h0]
    · have hadd : (tab.navigation.historyIndex + 1).toNat = tab.navigation.historyIndex.toNat + 1 := by
        rw [u32_toNat_add_one]; omega
      have hlt : tab.navigation.historyIndex.toNat + 1 < tab.navigation.historyCount.toNat := by
        omega
      rw [historyEntry, h.slot_eq_none (by omega), hadd]
      simp only [Nat.add_one_ne_zero, false_or, h0.ne', hlt, true_and]

/-- When a call on a well-formed tab has undefined behaviour: a navigation that loads its
response, every reload, back from the first entry or with a page to load, and forward on an
empty history or with a page to load. -/
def TabCall.Faults (tab : BrowserTab) : TabCall → Prop
  | .navigate _ fetch => fetch = .loaded
  | .goBack fetch => tab.navigation.historyIndex.toNat = 1 ∨
      tab.navigation.historyIndex.toNat ≠ 0 ∧ fetch = .loaded
  | .goForward fetch => tab.navigation.historyCount.toNat = 0 ∨
      tab.navigation.historyIndex.toNat + 1 < tab.navigation.historyCount.toNat ∧ fetch = .loaded
  | .reload => True
  | .stop => False

instance (tab : BrowserTab) : (c : TabCall) → Decidable (c.Faults tab)
  | .navigate _ fetch => inferInstanceAs (Decidable (fetch = .loaded))
  | .goBack _ => inferInstanceAs (Decidable (_ ∨ _))
  | .goForward _ => inferInstanceAs (Decidable (_ ∨ _))
  | .reload => inferInstanceAs (Decidable True)
  | .stop => inferInstanceAs (Decidable False)

theorem TabWf.run_eq_none_iff (h : TabWf tab) {c : TabCall} : c.run tab = none ↔ c.Faults tab := by
  cases c with
  | navigate url fetch => exact browserNavigate_eq_none
  | goBack fetch => exact h.nav.goBack_eq_none
  | goForward fetch => exact h.nav.goForward_eq_none
  | reload => exact iff_of_true rfl trivial
  | stop => exact iff_of_false (Option.some_ne_none _) id

end Moves

/-- Below the last slot of the array the current entry is the displayed URL. -/
theorem TabWf.entry_url (h : TabWf tab) (hi : tab.navigation.historyIndex.toNat < 99)
    (hc : 0 < tab.navigation.historyCount.toNat) :
    historyEntry tab.navigation tab.navigation.historyIndex = some tab.url :=
  (h.shows hc).resolve_right (by omega)

/-- Going back and forward again, with no page loaded, returns to the same index and shows
its entry. -/
theorem TabWf.back_forward (h : TabWf tab) (hb : browserGoBack tab fetch = some (0, tab₁))
    (hf : fetch' ≠ .loaded) :
    ∃ tab₂, browserGoForward tab₁ fetch' = some (0, tab₂) ∧ tab₂.navigation = tab.navigation ∧
      historyEntry tab.navigation tab.navigation.historyIndex = some tab₂.url := by
  obtain ⟨hi, -, hn⟩ := h.goBack_ok hb
  have := h.nav.index_cases
  have := h.nav.count_le
  have hback : tab.navigation.historyIndex - 1 + 1 = tab.navigation.historyIndex := by
    simp only [u32_eq_iff, u32_toNat_add_one, u32_toNat_sub_one]; omega
  obtain ⟨url, hu, hfw⟩ := (h.goBack hb).nav.goForward_some (by rw [hn]; simp; omega) hf
  rw [hn, hback] at hu
  exact ⟨_, hfw, by rw [hn]; simp [hback], hu⟩

/-- Going forward and back again, with no page loaded, restores the index and the displayed
URL. -/
theorem TabWf.forward_back (h : TabWf tab) (hf : browserGoForward tab fetch = some (0, tab₁))
    (hl : fetch' ≠ .loaded) :
    ∃ tab₂, browserGoBack tab₁ fetch' = some (0, tab₂) ∧ tab₂.navigation = tab.navigation ∧
      tab₂.url = tab.url := by
  obtain ⟨hi, -, hn⟩ := h.goForward_ok hf
  have hc : 0 < tab.navigation.historyCount.toNat := by omega
  have := (h.nav.index_lt hc).1
  have := h.nav.count_le
  have hfwd : tab.navigation.historyIndex + 1 - 1 = tab.navigation.historyIndex := by
    simp only [u32_eq_iff, u32_toNat_add_one, u32_toNat_sub_one]; omega
  obtain ⟨url, hu, hb⟩ := (h.goForward hf).nav.goBack_some (by rw [hn]; simp; omega) hl
  rw [hn, hfwd] at hu
  have he : historyEntry tab.navigation tab.navigation.historyIndex = some url := hu
  rw [h.entry_url (by omega) hc] at he
  exact ⟨_, hb, by rw [hn]; simp [hfwd], (Option.some.inj he).symm⟩

theorem NavWf.take_one (h : NavWf nav) : nav.history.take 1 = [none] := by
  have hz := h.zero_null
  have hl := h.length
  match hs : nav.history, hl with
  | x :: xs, _ =>
    simp only [Navigation.slot, hs, List.getD_cons_zero] at hz
    simp [hz]

/-- `n ≤ 99` navigations from a new tab end at index `n` with the last URL current. -/
theorem fill_history (url : String) (n : Nat) (hn : n ≤ 99) : ∃ tab,
    runTab (newTab 0) (List.replicate n (.navigate url .started)) = some tab ∧ TabWf tab ∧
    tab.navigation.historyIndex.toNat = n ∧
    (0 < n → historyEntry tab.navigation tab.navigation.historyIndex = some url) := by
  induction n with
  | zero => exact ⟨_, rfl, newTab_wf 0, rfl, fun h => absurd h (lt_irrefl 0)⟩
  | succ n ih =>
    obtain ⟨tab, hr, hw, hi, -⟩ := ih (by omega)
    obtain ⟨-, -, hi'⟩ := hw.nav.add_room url (by omega)
    obtain ⟨r, tab', hn⟩ := browserNavigate_isSome tab url .started nofun
    obtain ⟨-, -, hnav⟩ := browserNavigate_eq_some hn
    refine ⟨tab', ?_, hw.navigate hn, ?_, fun _ => ?_⟩
    · rw [List.replicate_succ', runTab_append, hr]
      simp [runTab, TabCall.run, hn]
    · rw [hnav, hi', hi]
    · rw [hnav]; exact hw.nav.add_entry url (by omega)

/-- Ninety-nine navigations to `"a"` fill the history; a hundredth shows `"b"`. -/
def fullHistoryRun : List TabCall :=
  List.replicate 99 (.navigate "a" .started) ++ [.navigate "b" .started]

theorem full_history_run_tab : ∃ tab, runTab (newTab 0) fullHistoryRun = some tab ∧ TabWf tab ∧
    tab.navigation.historyIndex.toNat = 99 ∧
    historyEntry tab.navigation tab.navigation.historyIndex = some "a" ∧ tab.url = "b" := by
  obtain ⟨tab, hr, hw, hi, he⟩ := fill_history "a" 99 le_rfl
  obtain ⟨r, tab', hn⟩ := browserNavigate_isSome tab "b" .started nofun
  obtain ⟨-, hu, hnav⟩ := browserNavigate_eq_some hn
  rw [hw.nav.add_full "b" (by omega)] at hnav
  refine ⟨tab', ?_, hw.navigate hn, ?_, ?_, hu⟩
  · rw [fullHistoryRun, runTab_append, hr]
    simp [runTab, TabCall.run, hn]
  · rw [hnav, hi]
  · rw [hnav]; exact he (by omega)

/-- The entries `history[0..history_count)` of a reachable tab begin with the null slot. -/
theorem reachable_history_slot_zero_null (h : TabReachable tab)
    (hc : 0 < tab.navigation.historyCount.toNat) :
    (tab.navigation.history.take tab.navigation.historyCount.toNat).head? = some none := by
  have h1 : (tab.navigation.history.take 1).head? = some none := by rw [h.wf.nav.take_one]; rfl
  rwa [List.head?_take, if_neg (by omega)] at h1 ⊢

theorem first_navigation_keeps_null_slot : ∃ tab,
    runTab (newTab 0) [.navigate "a" .started] = some tab ∧
    0 < tab.navigation.historyCount.toNat ∧
    (tab.navigation.history.take tab.navigation.historyCount.toNat).head? = some none := by
  refine ⟨_, rfl, ?count, reachable_history_slot_zero_null ⟨0, [.navigate "a" .started], rfl⟩ ?count⟩
  decide

/-- On an empty history `browser_navigate` keeps two entries: the null slot 0, then `url`. -/
theorem navigate_empty_history (h : TabReachable tab)
    (hc : tab.navigation.historyCount.toNat = 0) (url : String) (hf : fetch ≠ .loaded) :
    ∃ r tab', browserNavigate tab url fetch = some (r, tab') ∧
      tab'.navigation.history.take 2 = [none, some url] ∧
      tab'.navigation.historyCount.toNat = 2 ∧ tab'.navigation.historyIndex.toNat = 1 := by
  have hw := h.wf.nav
  have hi := (hw.fresh hc).1
  obtain ⟨-, hcount, hindex⟩ := hw.add_room url (by omega)
  have ht := hw.add_take url (by omega)
  rw [hi] at hcount hindex ht
  obtain ⟨r, tab', hn⟩ := browserNavigate_isSome tab url fetch hf
  obtain ⟨-, -, hnav⟩ := browserNavigate_eq_some hn
  refine ⟨r, tab', hn, ?_⟩
  rw [hnav]
  exact ⟨by rw [ht, hw.take_one]; rfl, hcount, hindex⟩

theorem navigate_new_tab_history : ∃ r tab',
    browserNavigate (newTab 0) "a" .started = some (r, tab') ∧
      tab'.navigation.history.take 2 = [none, some "a"] ∧
      tab'.navigation.historyCount.toNat = 2 ∧ tab'.navigation.historyIndex.toNat = 1 :=
  navigate_empty_history ⟨0, [], rfl⟩ rfl "a" (by decide)

/-- `browser_go_forward` on an empty history and `browser_go_back` from the first entry read a
null slot, whatever the fetch would give. -/
theorem history_null_slot_reads (h : TabReachable tab) :
    (tab.navigation.historyCount.toNat = 0 → ∀ fetch, browserGoForward tab fetch = none) ∧
    (tab.navigation.historyIndex.toNat = 1 → ∀ fetch, browserGoBack tab fetch = none) :=
  ⟨h.wf.nav.goForward_empty, h.wf.nav.goBack_first⟩

theorem go_forward_new_tab_undefined : browserGoForward (newTab 0) .started = none :=
  (history_null_slot_reads ⟨0, [], rfl⟩).1 rfl .started

/-- On a reachable tab a navigation call is undefined exactly when it faults: it loads a
page, it reloads, or it reads a null slot. -/
theorem reachable_tab_undefined_iff (h : TabReachable tab) (c : TabCall) :
    c.run tab = none ↔ c.Faults tab :=
  h.wf.run_eq_none_iff

theorem back_after_first_navigation_undefined : ∃ tab,
    runTab (newTab 0) [.navigate "a" .started] = some tab ∧
    (TabCall.goBack .started).Faults tab ∧ (TabCall.goBack .started).run tab = none := by
  refine ⟨_, rfl, ?faults,
    (reachable_tab_undefined_iff ⟨0, [.navigate "a" .started], rfl⟩ (.goBack .started)).mpr ?faults⟩
  decide

/-- The displayed URL is the current entry except at the last slot of a full history. Below
that slot a navigation that loads no page makes its URL the current entry, and on a non-empty
history a following `browser_go_back` that loads no page shows the URL displayed before. -/
theorem reachable_url_shows_entry (h : TabReachable tab) :
    (0 < tab.navigation.historyCount.toNat →
      historyEntry tab.navigation tab.navigation.historyIndex = some tab.url ∨
      tab.navigation.historyCount.toNat = 100 ∧ tab.navigation.historyIndex.toNat = 99) ∧
    ∀ url fetch, tab.navigation.historyIndex.toNat < 99 → fetch ≠ .loaded →
      ∃ r tab₁, browserNavigate tab url fetch = some (r, tab₁) ∧
        historyEntry tab₁.navigation tab₁.navigation.historyIndex = some url ∧
        (0 < tab.navigation.historyCount.toNat → ∀ fetch', fetch' ≠ .loaded →
          ∃ tab₂, browserGoBack tab₁ fetch' = some (0, tab₂) ∧ tab₂.url = tab.url ∧
            tab₂.navigation.historyIndex = tab.navigation.historyIndex) := by
  have hw := h.wf
  refine ⟨fun hc => (hw.shows hc).imp_right fun hi => ?_, fun url fetch hi hf => ?_⟩
  · have := (hw.nav.index_lt hc).2; have := hw.nav.count_le; omega
  obtain ⟨r, tab₁, hn⟩ := browserNavigate_isSome tab url fetch hf
  obtain ⟨-, -, hnav⟩ := browserNavigate_eq_some hn
  refine ⟨r, tab₁, hn, by rw [hnav]; exact hw.nav.add_entry url (by omega), fun hc fetch' hf' => ?_⟩
  have hi0 := (hw.nav.index_lt hc).1
  obtain ⟨hh, -, hi₁⟩ := hw.nav.add_room url (by omega)
  obtain ⟨u, hu, hb⟩ := (hw.navigate hn).nav.goBack_some (by rw [hnav, hi₁]; omega) hf'
  have hsub : tab₁.navigation.historyIndex - 1 = tab.navigation.historyIndex := by
    rw [u32_eq_iff, u32_toNat_sub_one_of_pos (by rw [hnav, hi₁]; omega), hnav, hi₁]; rfl
  rw [hsub, historyEntry, hnav, Navigation.slot_set hh (by rw [hw.nav.length]; omega),
    if_neg (by omega), ← historyEntry, hw.entry_url hi hc] at hu
  exact ⟨_, hb, (Option.some.inj hu).symm, hsub⟩

theorem navigate_then_back_shows_previous : ∃ tab,
    runTab (newTab 0) [.navigate "a" .started] = some tab ∧ tab.url = "a" ∧
    ∃ r tab₁, browserNavigate tab "b" .started = some (r, tab₁) ∧
      historyEntry tab₁.navigation tab₁.navigation.historyIndex = some "b" ∧
      ∃ tab₂, browserGoBack tab₁ .started = some (0, tab₂) ∧ tab₂.url = "a" := by
  obtain ⟨tab, hr⟩ : ∃ tab, runTab (newTab 0) [.navigate "a" .started] = some tab := ⟨_, rfl⟩
  have hu : tab.url = "a" := by cases hr; rfl
  obtain ⟨-, hstep⟩ := reachable_url_shows_entry ⟨0, _, hr⟩
  obtain ⟨r, tab₁, hn, he, hb⟩ := hstep "b" .started (by cases hr; decide) nofun
  obtain ⟨tab₂, hb, hu₂, -⟩ := hb (by cases hr; decide) .started nofun
  exact ⟨tab, hr, hu, r, tab₁, hn, he, tab₂, hb, hu₂.trans hu⟩

/-- On a full history at its last entry a navigation changes the URL and records nothing. -/
theorem navigate_full_history_unrecorded : ∃ tab, runTab (newTab 0) fullHistoryRun = some tab ∧
    0 < tab.navigation.historyCount.toNat ∧
    historyEntry tab.navigation tab.navigation.historyIndex ≠ some tab.url := by
  obtain ⟨tab, hr, hw, hi, he, hu⟩ := full_history_run_tab
  refine ⟨tab, hr, hw.nav.count_pos (by omega), ?_⟩
  rw [he, hu]; decide

/-- Every run that contains a `browser_reload` has undefined behaviour: it faults before the
reload or at it. -/
theorem reload_makes_run_undefined (tab : BrowserTab) (calls : List TabCall)
    (hc : TabCall.reload ∈ calls) : runTab tab calls = none := by
  induction calls generalizing tab with
  | nil => cases hc
  | cons c cs ih =>
    rcases List.mem_cons.mp hc with rfl | hc
    · rfl
    · simp only [runTab]
      cases c.run tab with
      | none => rfl
      | some r => exact ih r.2 hc

theorem navigate_then_reload_undefined :
    (∃ tab, runTab (newTab 0) [.navigate "a" .started] = some tab ∧
      0 < tab.navigation.historyCount.toNat) ∧
    TabCall.reload ∈ [TabCall.navigate "a" .started, .reload] ∧
    runTab (newTab 0) [.navigate "a" .started, .reload] = none :=
  ⟨⟨_, rfl, by decide⟩, by simp, reload_makes_run_undefined _ _ (by simp)⟩

/-- Going back then forward, with no page loaded, returns to the same index and shows its
entry, which is the URL shown before unless that was a navigation left unrecorded by a full
history. Going forward then back restores both. Only the index moves. -/
theorem go_back_forward_round_trip (h : TabReachable tab) :
    (∀ fetch tab₁, browserGoBack tab fetch = some (0, tab₁) →
      tab₁.navigation = { tab.navigation with historyIndex := tab.navigation.historyIndex - 1 } ∧
      ∀ fetch', fetch' ≠ .loaded →
        ∃ tab₂, browserGoForward tab₁ fetch' = some (0, tab₂) ∧ tab₂.navigation = tab.navigation ∧
          historyEntry tab.navigation tab.navigation.historyIndex = some tab₂.url ∧
          (tab.navigation.historyIndex.toNat < 99 → tab₂.url = tab.url)) ∧
    (∀ fetch tab₁, browserGoForward tab fetch = some (0, tab₁) →
      tab₁.navigation = { tab.navigation with historyIndex := tab.navigation.historyIndex + 1 } ∧
      ∀ fetch', fetch' ≠ .loaded →
        ∃ tab₂, browserGoBack tab₁ fetch' = some (0, tab₂) ∧ tab₂.navigation = tab.navigation ∧
          tab₂.url = tab.url) := by
  have hw := h.wf
  refine ⟨fun fetch tab₁ hb => ⟨(hw.goBack_ok hb).2.2, fun fetch' hf => ?_⟩, fun fetch tab₁ hf =>
    ⟨(hw.goForward_ok hf).2.2, fun fetch' hl => hw.forward_back hf hl⟩⟩
  obtain ⟨tab₂, hfw, hn, he⟩ := hw.back_forward hb hf
  refine ⟨tab₂, hfw, hn, he, fun hi => ?_⟩
  have hc := hw.nav.count_pos (by have := (hw.goBack_ok hb).1; omega)
  rw [hw.entry_url hi hc] at he
  exact (Option.some.inj he).symm

theorem back_forward_two_pages : ∃ tab tab₁ tab₂,
    runTab (newTab 0) [.navigate "a" .started, .navigate "b" .started] = some tab ∧
    browserGoBack tab .started = some (0, tab₁) ∧ browserGoForward tab₁ .started = some (0, tab₂) ∧
    tab₂.url = "b" := by
  obtain ⟨tab, hr⟩ : ∃ tab,
      runTab (newTab 0) [.navigate "a" .started, .navigate "b" .started] = some tab := ⟨_, rfl⟩
  obtain ⟨tab₁, hb⟩ : ∃ tab₁, browserGoBack tab .started = some (0, tab₁) := by cases hr; exact ⟨_, rfl⟩
  obtain ⟨-, hfw⟩ := (go_back_forward_round_trip ⟨0, _, hr⟩).1 .started tab₁ hb
  obtain ⟨tab₂, hf, -, -, hu⟩ := hfw .started nofun
  exact ⟨tab, tab₁, tab₂, hr, hb, hf, (hu (by cases hr; decide)).trans (by cases hr; rfl)⟩

/-- After a navigation left unrecorded by a full history, back then forward shows the last
recorded entry instead of the URL shown before. -/
theorem back_forward_loses_unrecorded_url : ∃ tab tab₁ tab₂,
    runTab (newTab 0) fullHistoryRun = some tab ∧ browserGoBack tab .started = some (0, tab₁) ∧
    browserGoForward tab₁ .started = some (0, tab₂) ∧ tab₂.url ≠ tab.url := by
  obtain ⟨tab, hr, hw, hi, he, hu⟩ := full_history_run_tab
  obtain ⟨u, -, hb⟩ := hw.nav.goBack_some (by omega) (nofun : FetchOutcome.started ≠ .loaded)
  obtain ⟨tab₂, hf, -, he₂⟩ := hw.back_forward hb (nofun : FetchOutcome.started ≠ .loaded)
  refine ⟨tab, _, tab₂, hr, hb, hf, ?_⟩
  rw [he] at he₂
  rw [← Option.some.inj he₂, hu]; decide

end ReactOs.Browser
