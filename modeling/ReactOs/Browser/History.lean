import ReactOs.Browser.Tab

namespace ReactOs.Browser

/-- The shape of the history in every tab reached without undefined behaviour. Slot 0 is
never written: on an empty history `browser_navigate` appends at slot 1. -/
structure NavWf (nav : Navigation) : Prop where
  length : nav.history.length = 100
  count_le : nav.historyCount.toNat ≤ 100
  zero_null : nav.slot 0 = none
  fresh : nav.historyCount.toNat = 0 →
    nav.historyIndex.toNat = 0 ∧ ∀ i, nav.slot i = none
  index_lt : 0 < nav.historyCount.toNat →
    0 < nav.historyIndex.toNat ∧ nav.historyIndex.toNat < nav.historyCount.toNat
  filled : ∀ i, 0 < i → i < nav.historyCount.toNat → nav.slot i ≠ none

/-- The displayed URL is the current entry, except at the last slot of a full history, where
`browser_navigate` changes the URL without recording it. -/
def Shows (nav : Navigation) (url : String) : Prop :=
  0 < nav.historyCount.toNat →
    historyEntry nav nav.historyIndex = some url ∨ nav.historyIndex.toNat = 99

structure TabWf (tab : BrowserTab) : Prop where
  nav : NavWf tab.navigation
  shows : Shows tab.navigation tab.url
  blank : tab.navigation.historyCount.toNat = 0 → tab.url = "about:blank"

theorem newTab_wf (id : UInt32) : TabWf (newTab id) := by
  have hnull : ∀ i, (newTab id).navigation.slot i = none := by
    intro i
    simp only [Navigation.slot, newTab, List.getD_eq_getElem?_getD, List.getElem?_replicate]
    split <;> rfl
  exact ⟨⟨by simp [newTab], by simp [newTab], hnull 0, fun _ => ⟨rfl, hnull⟩, by simp [newTab],
    by simp [newTab]⟩, by simp [Shows, newTab], fun _ => rfl⟩

/-- The index and count of a well-formed history: both zero, or the index is an entry past the
null slot. -/
theorem NavWf.index_cases (h : NavWf nav) :
    nav.historyCount.toNat = 0 ∧ nav.historyIndex.toNat = 0 ∨
      0 < nav.historyIndex.toNat ∧ nav.historyIndex.toNat < nav.historyCount.toNat := by
  rcases Nat.eq_zero_or_pos nav.historyCount.toNat with h0 | h0
  · exact .inl ⟨h0, (h.fresh h0).1⟩
  · exact .inr (h.index_lt h0)

/-- On a well-formed history the cleared history holds `history_index + 1` entries, also on an
empty one, where the guard's `history_count - 1` wraps. -/
theorem NavWf.clear_count (h : NavWf nav) :
    (clearForwardHistory nav).historyCount.toNat = nav.historyIndex.toNat + 1 := by
  have := h.index_cases
  have := h.count_le
  unfold clearForwardHistory
  split <;> rename_i hg <;> simp only [u32_lt_iff, u32_toNat_sub_one, u32_toNat_add_one] at hg ⊢ <;>
    omega

theorem appendHistory_room (url : String) (hc : nav.historyCount.toNat < 100) :
    (appendHistory nav url).history = nav.history.set nav.historyCount.toNat (some url) ∧
    (appendHistory nav url).historyCount.toNat = nav.historyCount.toNat + 1 ∧
    (appendHistory nav url).historyIndex.toNat = nav.historyCount.toNat := by
  simp only [appendHistory, u32_lt_iff, if_pos (show nav.historyCount.toNat < (100 : UInt32).toNat from hc),
    u32_toNat_add_one, u32_toNat_sub_one, true_and]
  omega

theorem appendHistory_full (hc : 100 ≤ nav.historyCount.toNat) : appendHistory nav url = nav := by
  simp only [appendHistory, u32_lt_iff]
  rw [if_neg (show ¬nav.historyCount.toNat < (100 : UInt32).toNat from Nat.not_lt.mpr hc)]

/-- With room for slot `history_index + 1`, `browser_navigate` writes `url` there and makes it
the last and current entry. -/
theorem NavWf.add_room (h : NavWf nav) (url : String) (hk : nav.historyIndex.toNat + 1 < 100) :
    (addToHistory nav url).history = nav.history.set (nav.historyIndex.toNat + 1) (some url) ∧
    (addToHistory nav url).historyCount.toNat = nav.historyIndex.toNat + 2 ∧
    (addToHistory nav url).historyIndex.toNat = nav.historyIndex.toNat + 1 := by
  have hc := h.clear_count
  obtain ⟨h₁, h₂, h₃⟩ := appendHistory_room url (hc ▸ hk)
  simp only [addToHistory, h₁, h₂, h₃, hc, clearForwardHistory_history, true_and]

/-- At the last slot of the array, `browser_navigate` records nothing. -/
theorem NavWf.add_full (h : NavWf nav) (url : String) (hk : 99 ≤ nav.historyIndex.toNat) :
    addToHistory nav url = nav := by
  have := h.index_cases
  have := h.count_le
  have hcl : clearForwardHistory nav = nav := by
    unfold clearForwardHistory
    rw [if_neg (by simp only [u32_lt_iff, u32_toNat_sub_one]; omega)]
  rw [addToHistory, hcl, appendHistory_full (by omega)]

theorem NavWf.add_entry (h : NavWf nav) (url : String) (hk : nav.historyIndex.toNat + 1 < 100) :
    historyEntry (addToHistory nav url) (addToHistory nav url).historyIndex = some url := by
  obtain ⟨hh, -, hi⟩ := h.add_room url hk
  rw [historyEntry, hi, Navigation.slot_set hh (by rw [h.length]; omega), if_pos rfl]

theorem NavWf.add_wf (h : NavWf nav) (url : String) : NavWf (addToHistory nav url) := by
  by_cases hk : nav.historyIndex.toNat + 1 < 100
  · obtain ⟨hh, hc, hi⟩ := h.add_room url hk
    have hl := h.length
    refine ⟨?_, ?_, ?_, ?_, ?_, ?_⟩
    · simp [hh, hl]
    · omega
    · rw [Navigation.slot_set hh (by omega), if_neg (by omega)]; exact h.zero_null
    · omega
    · omega
    · intro i hi0 hic
      rw [Navigation.slot_set hh (by omega)]
      split
      · simp
      · have := h.index_cases
        exact h.filled i hi0 (by omega)
  · rw [h.add_full url (by omega)]; exact h

theorem NavWf.add_shows (h : NavWf nav) (url : String) : Shows (addToHistory nav url) url := by
  intro _
  by_cases hk : nav.historyIndex.toNat + 1 < 100
  · exact .inl (h.add_entry url hk)
  · right
    rw [h.add_full url (by omega)]
    have := h.index_cases
    have := h.count_le
    omega

/-- After a navigation the history is never empty. -/
theorem NavWf.add_count_pos (h : NavWf nav) (url : String) :
    0 < (addToHistory nav url).historyCount.toNat := by
  by_cases hk : nav.historyIndex.toNat + 1 < 100
  · rw [(h.add_room url hk).2.1]; omega
  · rw [h.add_full url (by omega)]
    have := h.index_cases
    omega

theorem TabWf.navigate (h : TabWf tab) (hn : browserNavigate tab url fetch = some (r, tab')) :
    TabWf tab' := by
  obtain ⟨-, hu, hnav⟩ := browserNavigate_eq_some hn
  refine ⟨?_, ?_, fun h0 => absurd h0 ?_⟩ <;> rw [hnav]
  · exact h.nav.add_wf url
  · rw [hu]; exact h.nav.add_shows url
  · exact (h.nav.add_count_pos url).ne'

/-- Showing an in-range slot whose copy succeeded keeps the history well formed; the slot is
not 0, which is null. -/
theorem NavWf.moveTo (h : NavWf nav) (he : historyEntry nav i = some url)
    (hi : i.toNat < nav.historyCount.toNat) :
    NavWf { nav with historyIndex := i } ∧ Shows { nav with historyIndex := i } url := by
  have hi0 : 0 < i.toNat := by
    rcases Nat.eq_zero_or_pos i.toNat with h0 | h0
    · rw [historyEntry, h0, h.zero_null] at he; cases he
    · exact h0
  exact ⟨⟨h.length, h.count_le, h.zero_null, fun h0 => absurd hi (by dsimp only at h0; omega), fun _ => ⟨hi0, hi⟩, h.filled⟩,
    fun _ => .inl he⟩

theorem NavWf.count_pos (h : NavWf nav) (hi : nav.historyIndex.toNat ≠ 0) :
    0 < nav.historyCount.toNat := by
  have := h.index_cases
  omega

/-- On an empty history the slot after the index, slot 1, is null. -/
theorem NavWf.next_entry_empty (h : NavWf nav) (hc : nav.historyCount.toNat = 0) :
    historyEntry nav (nav.historyIndex + 1) = none := by
  have hi : (nav.historyIndex + 1).toNat = 1 := by rw [u32_toNat_add_one, (h.fresh hc).1]; rfl
  rw [historyEntry, hi, (h.fresh hc).2]

theorem TabWf.goBack (h : TabWf tab) (hb : browserGoBack tab fetch = some (r, tab')) :
    TabWf tab' := by
  unfold browserGoBack at hb
  split at hb
  · cases hb; exact h
  · rename_i h0
    obtain ⟨url, he, -, -, rfl⟩ := showEntry_eq_some.mp hb
    have := h.nav.index_cases
    simp only [u32_eq_iff, UInt32.toNat_zero] at h0
    have hm := h.nav.moveTo he (by rw [u32_toNat_sub_one_of_pos (by omega)]; omega)
    exact ⟨hm.1, hm.2, fun h1 => absurd h1 (by dsimp only; omega)⟩

theorem TabWf.goForward (h : TabWf tab) (hf : browserGoForward tab fetch = some (r, tab')) :
    TabWf tab' := by
  unfold browserGoForward at hf
  split at hf
  · cases hf; exact h
  · rename_i hg
    obtain ⟨url, he, -, -, rfl⟩ := showEntry_eq_some.mp hf
    have := h.nav.count_le
    simp only [ge_iff_le, u32_le_iff, u32_toNat_sub_one, not_le] at hg
    rcases Nat.eq_zero_or_pos tab.navigation.historyCount.toNat with h0 | h0
    · rw [h.nav.next_entry_empty h0] at he; cases he
    · have hm := h.nav.moveTo he (by rw [u32_toNat_add_one]; omega)
      exact ⟨hm.1, hm.2, fun h1 => absurd h1 h0.ne'⟩

theorem TabWf.run (h : TabWf tab) {c : TabCall} (hc : c.run tab = some (r, tab')) : TabWf tab' := by
  cases c with
  | navigate url fetch => exact h.navigate hc
  | goBack fetch => exact h.goBack hc
  | goForward fetch => exact h.goForward hc
  | reload => cases hc
  | stop =>
    obtain rfl : browserStop tab = tab' := congrArg Prod.snd (Option.some.inj hc)
    exact ⟨h.nav, h.shows, h.blank⟩

theorem TabWf.run_tab (h : TabWf tab) (hr : runTab tab calls = some tab') : TabWf tab' := by
  induction calls generalizing tab with
  | nil => cases hr; exact h
  | cons c cs ih =>
    simp only [runTab, Option.bind_eq_some] at hr
    obtain ⟨⟨r, t⟩, hc, ht⟩ := hr
    exact ih (h.run hc) ht

theorem TabReachable.wf (h : TabReachable tab) : TabWf tab := by
  obtain ⟨id, calls, hr⟩ := h
  exact (newTab_wf id).run_tab hr

end ReactOs.Browser
