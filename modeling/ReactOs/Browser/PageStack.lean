import ReactOs.Browser.HistoryLaws

namespace ReactOs.Browser

/-- A tab's history as its user sees it: the pages behind the current one, nearest first, the
current page, and the pages ahead of it, nearest first. -/
structure PageStack where
  back : List String
  current : String
  forward : List String
deriving DecidableEq, Repr

namespace PageStack

/-- Visiting a page: the current one goes behind it and the pages ahead are dropped. Before
the first visit there is no history. -/
def visit : Option PageStack → String → PageStack
  | none, url => ⟨[], url, []⟩
  | some s, url => ⟨s.current :: s.back, url, []⟩

def goBack (s : PageStack) : Option PageStack :=
  match s.back with
  | [] => none
  | u :: bs => some ⟨bs, u, s.current :: s.forward⟩

def goForward (s : PageStack) : Option PageStack :=
  match s.forward with
  | [] => none
  | u :: fs => some ⟨s.current :: s.back, u, fs⟩

/-- The page shown: the current one, or the blank page of a new tab. -/
def shown : Option PageStack → String
  | none => "about:blank"
  | some s => s.current

/-- Take the move, or stay where there is nowhere to move to. -/
def moveOr (move : PageStack → Option PageStack) (s : Option PageStack) : Option PageStack :=
  match s.bind move with
  | none => s
  | some s' => some s'

/-- What a call does to the history: navigating visits a page, a reload keeps the history,
back and forward move when they can, and stopping changes nothing. -/
def apply : TabCall → Option PageStack → Option PageStack
  | .navigate url _, s => some (visit s url)
  | .reload, s => s
  | .goBack _, s => moveOr goBack s
  | .goForward _, s => moveOr goForward s
  | .stop, s => s

def run (s : Option PageStack) : List TabCall → Option PageStack
  | [] => s
  | c :: cs => run (apply c s) cs

/-- The calls on which the code follows the abstract history. Loading a page is undefined in
`browser_load_html`, and a reload is undefined in `browser_navigate`. The array has 100 slots
and never uses slot 0, so a visit with 98 pages behind is not recorded; going back to the
first page reads slot 0, and going forward on an empty history passes the wrapped guard. -/
def fits : TabCall → Option PageStack → Bool
  | .navigate _ fetch, none => fetch != .loaded
  | .navigate _ fetch, some s => fetch != .loaded && s.back.length < 98
  | .reload, _ => false
  | .goBack _, none => true
  | .goBack fetch, some s => fetch != .loaded && !s.back.isEmpty
  | .goForward _, none => false
  | .goForward fetch, some s => fetch != .loaded || s.forward.isEmpty
  | .stop, _ => true

/-- Every call of the run fits the history it meets. -/
def runFits (s : Option PageStack) : List TabCall → Bool
  | [] => true
  | c :: cs => fits c s && runFits (apply c s) cs

end PageStack

namespace Navigation

/-- The string in history slot `i`, `""` for a null slot. -/
def entry (nav : Navigation) (i : Nat) : String :=
  (nav.slot i).getD ""

/-- The strings of the `n` history slots from slot `i`. -/
def entries (nav : Navigation) (i n : Nat) : List String :=
  (List.range n).map fun k => nav.entry (i + k)

/-- The abstract history the record stands for: slot 0 is unused, the entries before
`history_index` are behind the current one and those after it ahead. -/
def pageStack (nav : Navigation) : Option PageStack :=
  if nav.historyCount.toNat = 0 then none
  else some ⟨(nav.entries 1 (nav.historyIndex.toNat - 1)).reverse, nav.entry nav.historyIndex.toNat,
    nav.entries (nav.historyIndex.toNat + 1) (nav.historyCount.toNat - nav.historyIndex.toNat - 1)⟩

@[simp] theorem entries_zero (nav : Navigation) (i : Nat) : nav.entries i 0 = [] := rfl

theorem entries_succ (nav : Navigation) (i n : Nat) :
    nav.entries i (n + 1) = nav.entries i n ++ [nav.entry (i + n)] := by
  simp [entries, List.range_succ]

theorem entries_succ_left (nav : Navigation) (i n : Nat) :
    nav.entries i (n + 1) = nav.entry i :: nav.entries (i + 1) n := by
  simp [entries, List.range_succ_eq_map, Nat.add_assoc, Nat.add_comm 1]

@[simp] theorem entries_length (nav : Navigation) (i n : Nat) : (nav.entries i n).length = n := by
  simp [entries]

@[simp] theorem entry_setIndex (nav : Navigation) (i : UInt32) :
    ({ nav with historyIndex := i } : Navigation).entry = nav.entry := rfl

@[simp] theorem entries_setIndex (nav : Navigation) (i : UInt32) :
    ({ nav with historyIndex := i } : Navigation).entries = nav.entries := rfl

theorem entries_congr {nav nav' : Navigation} {i n : Nat}
    (h : ∀ k < n, nav.entry (i + k) = nav'.entry (i + k)) : nav.entries i n = nav'.entries i n :=
  List.map_congr_left fun k hk => h k (List.mem_range.mp hk)

theorem pageStack_of_ne {nav : Navigation} (hc : nav.historyCount.toNat ≠ 0) :
    nav.pageStack = some ⟨(nav.entries 1 (nav.historyIndex.toNat - 1)).reverse,
      nav.entry nav.historyIndex.toNat,
      nav.entries (nav.historyIndex.toNat + 1) (nav.historyCount.toNat - nav.historyIndex.toNat - 1)⟩ :=
  if_neg hc

theorem pageStack_eq_none {nav : Navigation} : nav.pageStack = none ↔ nav.historyCount.toNat = 0 := by
  unfold pageStack; split <;> simp_all

theorem pageStack_back_length {nav : Navigation} (hs : nav.pageStack = some s) :
    s.back.length = nav.historyIndex.toNat - 1 := by
  unfold pageStack at hs
  split at hs
  · cases hs
  · cases hs; simp

theorem pageStack_forward_length {nav : Navigation} (hs : nav.pageStack = some s) :
    s.forward.length = nav.historyCount.toNat - nav.historyIndex.toNat - 1 := by
  unfold pageStack at hs
  split at hs
  · cases hs
  · cases hs; simp

theorem shown_pageStack {nav : Navigation} (hc : nav.historyCount.toNat ≠ 0) :
    PageStack.shown nav.pageStack = nav.entry nav.historyIndex.toNat := by
  rw [pageStack_of_ne hc]; rfl

/-- At the last entry there is nothing ahead. -/
theorem goForward_last {nav : Navigation} (hc : 0 < nav.historyCount.toNat)
    (hi : nav.historyCount.toNat ≤ nav.historyIndex.toNat + 1) :
    nav.pageStack.bind PageStack.goForward = none := by
  rw [pageStack_of_ne (by omega), show nav.historyCount.toNat - nav.historyIndex.toNat - 1 = 0 by omega]
  rfl

theorem entry_of_historyEntry {nav : Navigation} (he : historyEntry nav i = some url) :
    nav.entry i.toNat = url := by
  rw [entry, ← historyEntry, he, Option.getD_some]

end Navigation

/-- With room, recording a navigation is a visit. -/
theorem NavWf.pageStack_add (h : NavWf nav) (url : String) (hk : nav.historyIndex.toNat + 1 < 100) :
    (addToHistory nav url).pageStack = some (PageStack.visit nav.pageStack url) := by
  obtain ⟨hh, hc, hi⟩ := h.add_room url hk
  have hent : ∀ k, (addToHistory nav url).entry k =
      if nav.historyIndex.toNat + 1 = k then url else nav.entry k := by
    intro k
    rw [Navigation.entry, Navigation.slot_set hh (by rw [h.length]; omega)]
    split <;> rfl
  have hback : (addToHistory nav url).entries 1 nav.historyIndex.toNat =
      nav.entries 1 nav.historyIndex.toNat :=
    Navigation.entries_congr fun k hk => by rw [hent, if_neg (by omega)]
  rw [Navigation.pageStack_of_ne (by omega), hi, hc, Nat.add_sub_cancel, hback, hent, if_pos rfl,
    show nav.historyIndex.toNat + 2 - (nav.historyIndex.toNat + 1) - 1 = 0 by omega,
    Navigation.entries_zero]
  rcases h.index_cases with ⟨h0, hi0⟩ | ⟨hi0, hic⟩
  · rw [Navigation.pageStack_eq_none.mpr h0, hi0]; rfl
  · obtain ⟨j, hj⟩ : ∃ j, nav.historyIndex.toNat = j + 1 := ⟨_, (Nat.sub_add_cancel hi0).symm⟩
    rw [Navigation.pageStack_of_ne (by omega), hj, Navigation.entries_succ, Nat.add_sub_cancel]
    simp [PageStack.visit, Nat.add_comm 1]

/-- Going back from past the first entry is the abstract move back. -/
theorem NavWf.pageStack_goBack (h : NavWf nav) (hi : 1 < nav.historyIndex.toNat) :
    nav.pageStack.bind PageStack.goBack =
      ({ nav with historyIndex := nav.historyIndex - 1 } : Navigation).pageStack := by
  have := h.index_cases
  have := u32_toNat_lt nav.historyIndex
  obtain ⟨j, hj⟩ : ∃ j, nav.historyIndex.toNat = j + 2 := ⟨_, (Nat.sub_add_cancel hi).symm⟩
  obtain ⟨m, hm⟩ : ∃ m, nav.historyCount.toNat = j + 3 + m := ⟨nav.historyCount.toNat - (j + 3), by omega⟩
  have hj' : (nav.historyIndex - 1).toNat = j + 1 := by simp only [u32_toNat_sub_one]; omega
  rw [Navigation.pageStack_of_ne (by omega), Navigation.pageStack_of_ne (by dsimp only; omega)]
  dsimp only
  rw [hj, hj', hm, show j + 2 - 1 = j + 1 by omega, show j + 1 - 1 = j by omega,
    show j + 3 + m - (j + 2) - 1 = m by omega, show j + 3 + m - (j + 1) - 1 = m + 1 by omega,
    Navigation.entries_succ, Navigation.entries_succ_left]
  simp [PageStack.goBack, Nat.add_comm 1]

/-- Going forward below the last entry is the abstract move forward. -/
theorem NavWf.pageStack_goForward (h : NavWf nav)
    (hi : nav.historyIndex.toNat + 1 < nav.historyCount.toNat) :
    nav.pageStack.bind PageStack.goForward =
      ({ nav with historyIndex := nav.historyIndex + 1 } : Navigation).pageStack := by
  have := h.index_cases
  have := h.count_le
  obtain ⟨j, hj⟩ : ∃ j, nav.historyIndex.toNat = j + 1 := ⟨nav.historyIndex.toNat - 1, by omega⟩
  obtain ⟨m, hm⟩ : ∃ m, nav.historyCount.toNat = j + 3 + m := ⟨nav.historyCount.toNat - (j + 3), by omega⟩
  have hj' : (nav.historyIndex + 1).toNat = j + 2 := by simp only [u32_toNat_add_one]; omega
  rw [Navigation.pageStack_of_ne (by omega), Navigation.pageStack_of_ne (by dsimp only; omega)]
  dsimp only
  simp only [Navigation.entries_setIndex, Navigation.entry_setIndex]
  rw [hj, hj', hm, show j + 1 - 1 = j by omega, show j + 2 - 1 = j + 1 by omega,
    show j + 3 + m - (j + 1) - 1 = m + 1 by omega, show j + 3 + m - (j + 2) - 1 = m by omega,
    Navigation.entries_succ_left nav (j + 1 + 1) m, Navigation.entries_succ nav 1 j]
  simp [PageStack.goForward, Nat.add_comm 1]

theorem PageStack.moveOr_of_ne_none (h : s.bind move ≠ none) : moveOr move s = s.bind move := by
  unfold moveOr; split <;> simp_all

theorem PageStack.moveOr_of_none (h : s.bind move = none) : moveOr move s = s := by
  rw [moveOr, h]

/-- The tab stands for the abstract history `s`: it is well formed, its entries are those of
`s`, and it shows the page `s` shows. -/
structure Represents (tab : BrowserTab) (s : Option PageStack) : Prop where
  wf : TabWf tab
  pages : tab.navigation.pageStack = s
  shown : tab.url = PageStack.shown s

theorem newTab_represents (id : UInt32) : Represents (newTab id) none :=
  ⟨newTab_wf id, Navigation.pageStack_eq_none.mpr rfl, rfl⟩

theorem Represents.count_of_none (h : Represents tab none) : tab.navigation.historyCount.toNat = 0 :=
  Navigation.pageStack_eq_none.mp h.pages

theorem Represents.index_of_some (h : Represents tab (some s)) :
    0 < tab.navigation.historyCount.toNat ∧ tab.navigation.historyIndex.toNat = s.back.length + 1 ∧
      s.forward.length = tab.navigation.historyCount.toNat - tab.navigation.historyIndex.toNat - 1 := by
  have hc : tab.navigation.historyCount.toNat ≠ 0 := fun h0 => by
    have := h.pages; rw [Navigation.pageStack_eq_none.mpr h0] at this; cases this
  have := Navigation.pageStack_back_length h.pages
  have := h.wf.nav.index_cases
  exact ⟨by omega, by omega, Navigation.pageStack_forward_length h.pages⟩

theorem Represents.navigate (h : Represents tab s) (hf : PageStack.fits (.navigate url fetch) s) :
    ∃ r tab', browserNavigate tab url fetch = some (r, tab') ∧
      Represents tab' (some (PageStack.visit s url)) := by
  have hl : fetch ≠ .loaded := by cases s <;> simp_all [PageStack.fits]
  have hk : tab.navigation.historyIndex.toNat + 1 < 100 := by
    cases s with
    | none => have := h.wf.nav.index_cases; have := h.count_of_none; omega
    | some s =>
      have := h.index_of_some
      simp only [PageStack.fits, Bool.and_eq_true, decide_eq_true_eq] at hf
      omega
  obtain ⟨r, tab', hn⟩ := browserNavigate_isSome tab url fetch hl
  obtain ⟨-, hu, hnav⟩ := browserNavigate_eq_some hn
  refine ⟨r, tab', hn, h.wf.navigate hn, ?_, ?_⟩
  · rw [hnav, h.wf.nav.pageStack_add url hk, h.pages]
  · rw [hu]; cases s <;> rfl

theorem Represents.goBack (h : Represents tab s) (hf : PageStack.fits (.goBack fetch) s) :
    ∃ r tab', browserGoBack tab fetch = some (r, tab') ∧
      Represents tab' (PageStack.moveOr PageStack.goBack s) := by
  cases s with
  | none =>
    have hi := (h.wf.nav.fresh h.count_of_none).1
    exact ⟨-1, tab, by rw [browserGoBack, if_pos (u32_eq_iff.mpr (hi.trans UInt32.toNat_zero.symm))], h⟩
  | some s =>
    obtain ⟨hc, hi, -⟩ := h.index_of_some
    simp only [PageStack.fits, Bool.and_eq_true, bne_iff_ne, ne_eq, Bool.not_eq_true',
      List.isEmpty_eq_false] at hf
    have hi1 : 1 < tab.navigation.historyIndex.toNat := by
      have := List.length_pos.mpr hf.2; omega
    obtain ⟨url, hu, hb⟩ := h.wf.nav.goBack_some hi1 hf.1
    have hmove := h.wf.nav.pageStack_goBack hi1
    have hc' : ({ tab.navigation with historyIndex := tab.navigation.historyIndex - 1 } :
        Navigation).historyCount.toNat ≠ 0 := by dsimp only; omega
    rw [h.pages] at hmove
    refine ⟨0, _, hb, h.wf.goBack hb, ?_, ?_⟩
    · rw [PageStack.moveOr_of_ne_none (by rw [hmove, Ne, Navigation.pageStack_eq_none]; exact hc'),
        hmove]
    · rw [PageStack.moveOr_of_ne_none (by rw [hmove, Ne, Navigation.pageStack_eq_none]; exact hc'),
        hmove, Navigation.shown_pageStack hc']
      exact (Navigation.entry_of_historyEntry hu).symm

theorem Represents.goForward (h : Represents tab s) (hf : PageStack.fits (.goForward fetch) s) :
    ∃ r tab', browserGoForward tab fetch = some (r, tab') ∧
      Represents tab' (PageStack.moveOr PageStack.goForward s) := by
  cases s with
  | none => simp [PageStack.fits] at hf
  | some s =>
    obtain ⟨hc, -, hfl⟩ := h.index_of_some
    by_cases hi : tab.navigation.historyIndex.toNat + 1 < tab.navigation.historyCount.toNat
    · have hl : fetch ≠ .loaded := by
        have : s.forward ≠ [] := List.ne_nil_of_length_pos (by omega)
        simpa [PageStack.fits, this] using hf
      obtain ⟨url, hu, hfw⟩ := h.wf.nav.goForward_some hi hl
      have hmove := h.wf.nav.pageStack_goForward hi
      have hc' : ({ tab.navigation with historyIndex := tab.navigation.historyIndex + 1 } :
          Navigation).historyCount.toNat ≠ 0 := by dsimp only; omega
      rw [h.pages] at hmove
      refine ⟨0, _, hfw, h.wf.goForward hfw, ?_, ?_⟩
      · rw [PageStack.moveOr_of_ne_none (by rw [hmove, Ne, Navigation.pageStack_eq_none]; exact hc'),
          hmove]
      · rw [PageStack.moveOr_of_ne_none (by rw [hmove, Ne, Navigation.pageStack_eq_none]; exact hc'),
          hmove, Navigation.shown_pageStack hc']
        exact (Navigation.entry_of_historyEntry hu).symm
    · have hlast := Navigation.goForward_last hc (by omega)
      rw [h.pages] at hlast
      refine ⟨-1, tab, ?_, by rw [PageStack.moveOr_of_none hlast]; exact h⟩
      rw [browserGoForward, if_pos (by rw [h.wf.nav.forward_guard]; omega)]

/-- One call that fits the abstract history runs without undefined behaviour and leaves a tab
that stands for the abstract result. -/
theorem Represents.step (h : Represents tab s) (hf : PageStack.fits c s) :
    ∃ r tab', c.run tab = some (r, tab') ∧ Represents tab' (PageStack.apply c s) := by
  cases c with
  | navigate url fetch => exact h.navigate hf
  | goBack fetch => exact h.goBack hf
  | goForward fetch => exact h.goForward hf
  | reload => cases hf
  | stop => exact ⟨0, _, rfl, ⟨h.wf.nav, h.wf.shows, h.wf.blank⟩, h.pages, h.shown⟩

theorem Represents.run (h : Represents tab s) (hf : PageStack.runFits s calls) :
    ∃ tab', runTab tab calls = some tab' ∧ Represents tab' (PageStack.run s calls) := by
  induction calls generalizing tab s with
  | nil => exact ⟨tab, rfl, h⟩
  | cons c cs ih =>
    simp only [PageStack.runFits, Bool.and_eq_true] at hf
    obtain ⟨r, tab₁, hc, h₁⟩ := h.step hf.1
    obtain ⟨tab', hr, h'⟩ := ih h₁ hf.2
    exact ⟨tab', by simp only [runTab, hc, Option.some_bind, hr], h'⟩

/-- A call that does not fit leaves no tab standing for the abstract result: a visit with 98
pages behind is dropped, and every other such call faults. -/
theorem Represents.not_fits (h : Represents tab s) (hf : PageStack.fits c s = false) :
    ¬∃ r tab', c.run tab = some (r, tab') ∧ Represents tab' (PageStack.apply c s) := by
  rintro ⟨r, tab', hc, h'⟩
  have hfault : ¬c.Faults tab := fun hF => by rw [h.wf.run_eq_none_iff.mpr hF] at hc; cases hc
  cases c with
  | navigate url fetch =>
    have hl : fetch ≠ .loaded := hfault
    cases s with
    | none => simp [PageStack.fits, hl] at hf
    | some s =>
      have := h.index_of_some
      simp only [PageStack.fits, Bool.and_eq_false_iff, bne_eq_false_iff_eq, hl,
        decide_eq_false_iff_not, Nat.not_lt, false_or] at hf
      have hp := h'.pages
      rw [(browserNavigate_eq_some hc).2.2, h.wf.nav.add_full url (by omega), h.pages] at hp
      have := congrArg (Option.map fun s => s.back.length) hp
      simp [PageStack.apply, PageStack.visit] at this
  | reload => cases hc
  | goBack fetch =>
    cases s with
    | none => cases hf
    | some s =>
      obtain ⟨-, hi, -⟩ := h.index_of_some
      simp only [PageStack.fits, Bool.and_eq_false_iff, bne_eq_false_iff_eq, Bool.not_eq_false',
        List.isEmpty_iff] at hf
      refine hfault (hf.elim (fun hl => .inr ⟨by omega, hl⟩) fun hb => .inl ?_)
      simp [hb] at hi; omega
  | goForward fetch =>
    cases s with
    | none => exact hfault (.inl h.count_of_none)
    | some s =>
      obtain ⟨-, -, hfl⟩ := h.index_of_some
      simp only [PageStack.fits, Bool.or_eq_false_iff, bne_eq_false_iff_eq, List.isEmpty_eq_false] at hf
      exact hfault (.inr ⟨by have := List.length_pos.mpr hf.2; omega, hf.1⟩)
  | stop => cases hf

/-- The code's history refines the abstract one on exactly the calls that fit: those run
without undefined behaviour into a tab standing for the abstract result, and no other does. -/
theorem Represents.refines_iff_fits (h : Represents tab s) :
    PageStack.fits c s = true ↔
      ∃ r tab', c.run tab = some (r, tab') ∧ Represents tab' (PageStack.apply c s) :=
  ⟨h.step, fun he => by_contra fun hf => h.not_fits (by simpa using hf) he⟩

theorem new_tab_forward_diverges : Represents (newTab 0) none ∧
    (PageStack.fits (.goForward .started) none = true ↔
      ∃ r tab', (TabCall.goForward .started).run (newTab 0) = some (r, tab') ∧
        Represents tab' (PageStack.apply (.goForward .started) none)) :=
  ⟨newTab_represents 0, (newTab_represents 0).refines_iff_fits⟩

/-- From a new tab, every run whose calls fit the abstract history has no undefined behaviour,
and the tab it ends in stands for the abstract run. -/
theorem new_tab_refines_page_stack (id : UInt32) (hf : PageStack.runFits none calls) :
    ∃ tab, runTab (newTab id) calls = some tab ∧ Represents tab (PageStack.run none calls) :=
  (newTab_represents id).run hf

/-- Two visits, the second with a failed fetch, then back and forward loading no page, and a
stop. -/
def twoPageRun : List TabCall :=
  [.navigate "a" .started, .navigate "b" .failed, .goBack .started, .goForward .failed, .stop]

theorem two_page_run_refines : PageStack.runFits none twoPageRun ∧
    ∃ tab, runTab (newTab 0) twoPageRun = some tab ∧
      Represents tab (PageStack.run none twoPageRun) :=
  ⟨by decide, new_tab_refines_page_stack 0 (by decide)⟩

example : PageStack.run none twoPageRun = some ⟨["a"], "b", []⟩ := rfl

end ReactOs.Browser
