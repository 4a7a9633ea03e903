import Mathlib

namespace ReactOs.Browser

@[simp] theorem u32_lt_iff {a b : UInt32} : a < b ↔ a.toNat < b.toNat := Iff.rfl

@[simp] theorem u32_le_iff {a b : UInt32} : a ≤ b ↔ a.toNat ≤ b.toNat := Iff.rfl

@[simp] theorem u32_eq_iff {a b : UInt32} : a = b ↔ a.toNat = b.toNat :=
  ⟨fun h => h ▸ rfl, UInt32.toNat.inj⟩

/-- Subtracting one wraps from `0` to `2^32 - 1`. -/
@[simp] theorem u32_toNat_sub_one (a : UInt32) : (a - 1).toNat = (2^32 - 1 + a.toNat) % 2^32 := by
  simp [UInt32.toNat, UInt32.sub_def, BitVec.toNat_sub]

@[simp] theorem u32_toNat_add_one (a : UInt32) : (a + 1).toNat = (a.toNat + 1) % 2^32 := by
  simp [UInt32.toNat, UInt32.add_def]

theorem u32_toNat_lt (a : UInt32) : a.toNat < 2^32 := a.toBitVec.isLt

theorem u32_toNat_sub_one_of_pos {a : UInt32} (h : 0 < a.toNat) : (a - 1).toNat = a.toNat - 1 := by
  rw [u32_toNat_sub_one]; have := u32_toNat_lt a; omega

/-- Writing the slot just past a prefix extends the prefix by the written value. -/
theorem take_set_succ {α : Type} (l : List α) (x : α) (h : i < l.length) :
    (l.set i x).take (i + 1) = l.take i ++ [x] := by
  rw [List.take_succ, List.set_take, List.set_eq_of_length_le (List.length_take_le _ _),
    List.getElem?_set_self h]
  rfl

/-- `state` of `struct browser_tab`. -/
structure TabState where
  loading : Bool
  secure : Bool
  progress : UInt32
deriving DecidableEq, Repr, Inhabited

/-- `navigation` of `struct browser_tab`: the slots of the history array (`none` is a null
slot), the index of the current entry and the number of entries. -/
structure Navigation where
  history : List (Option String)
  historyIndex : UInt32
  historyCount : UInt32
deriving DecidableEq, Repr, Inhabited

structure BrowserTab where
  id : UInt32
  url : String
  state : TabState
  navigation : Navigation
deriving DecidableEq, Repr, Inhabited

/-- The tab `browser_create_tab` builds: `calloc` zeroes the state and the 100 history slots. -/
def newTab (id : UInt32) : BrowserTab :=
  { id, url := "about:blank", state := ⟨false, false, 0⟩,
    navigation := ⟨List.replicate 100 none, 0, 0⟩ }

/-- What the fetch collaborator gives a navigation: a null request or operation (`failed`);
an operation whose response is missing, not OK, or has a body that `browser_load_html` does
not parse into a document (`started`); or an OK response whose body parses (`loaded`). -/
inductive FetchOutcome
  | failed
  | started
  | loaded
deriving DecidableEq, Repr

/-- "Clear forward history" in `browser_navigate`: the guard compares `uint32_t` values, so
`history_count - 1` wraps on an empty history. The freed slots keep their stale pointers. -/
def clearForwardHistory (nav : Navigation) : Navigation :=
  if nav.historyIndex < nav.historyCount - 1 then
    { nav with historyCount := nav.historyIndex + 1 }
  else nav

/-- "Add to history" in `browser_navigate`: append `url` while fewer than 100 entries are kept. -/
def appendHistory (nav : Navigation) (url : String) : Navigation :=
  if nav.historyCount < 100 then
    let count := nav.historyCount + 1
    { history := nav.history.set nav.historyCount.toNat (some url),
      historyCount := count, historyIndex := count - 1 }
  else nav

def addToHistory (nav : Navigation) (url : String) : Navigation :=
  appendHistory (clearForwardHistory nav) url

@[simp] theorem clearForwardHistory_history (nav : Navigation) :
    (clearForwardHistory nav).history = nav.history := by
  unfold clearForwardHistory; split <;> rfl

@[simp] theorem clearForwardHistory_historyIndex (nav : Navigation) :
    (clearForwardHistory nav).historyIndex = nav.historyIndex := by
  unfold clearForwardHistory; split <;> rfl

/-- `if (response && response->ok) browser_load_html(tab, body)`, as `browser_navigate`,
`browser_go_back` and `browser_go_forward` end. `browser_load_html` returns early unless the
body parses into a document (the document and the title it replaces are not modelled). Past
that it frees `render_tree` and calls `build_render_tree` through it; `render_tree` is null
from `calloc` and set only by that call, so the call reads a null or freed pointer: undefined
behaviour, `none`. -/
def loadResponse (tab : BrowserTab) : FetchOutcome → Option BrowserTab
  | .loaded => none
  | _ => some tab

/-- `browser_navigate` on a tab and a non-null URL. -/
def browserNavigate (tab : BrowserTab) (url : String) (fetch : FetchOutcome) :
    Option (Int × BrowserTab) :=
  let state := { tab.state with
    loading := true, progress := 0, secure := "https://".isPrefixOf url }
  let tab := { tab with state, url := url, navigation := addToHistory tab.navigation url }
  match fetch with
  | .failed => some (-1, { tab with state := { tab.state with loading := false } })
  | fetch => (loadResponse tab fetch).map fun tab =>
    (0, { tab with state := { tab.state with loading := false, progress := 100 } })

/-- `browser_navigate` is undefined exactly when it loads the response. -/
@[simp] theorem browserNavigate_eq_none {tab : BrowserTab} {url : String} {fetch : FetchOutcome} :
    browserNavigate tab url fetch = none ↔ fetch = .loaded := by
  cases fetch <;> simp [browserNavigate, loadResponse]

/-- The tab `browser_navigate` returns shows `url` and has recorded it. -/
theorem browserNavigate_eq_some {tab tab' : BrowserTab} {url : String} {fetch : FetchOutcome}
    {r : Int} (h : browserNavigate tab url fetch = some (r, tab')) :
    tab'.id = tab.id ∧ tab'.url = url ∧ tab'.navigation = addToHistory tab.navigation url := by
  cases fetch <;> cases h <;> exact ⟨rfl, rfl, rfl⟩

theorem browserNavigate_isSome (tab : BrowserTab) (url : String) (fetch : FetchOutcome)
    (hf : fetch ≠ .loaded) : ∃ r tab', browserNavigate tab url fetch = some (r, tab') := by
  obtain ⟨⟨r, tab'⟩, h⟩ := Option.ne_none_iff_exists'.mp (mt browserNavigate_eq_none.mp hf)
  exact ⟨r, tab', h⟩

/-- Slot `i` of the history array; `none` for a null slot or one past the array, where `strdup`
has undefined behaviour. -/
def Navigation.slot (nav : Navigation) (i : Nat) : Option String :=
  nav.history.getD i none

theorem Navigation.slot_set {nav nav' : Navigation} {j : Nat} {x : Option String}
    (hh : nav'.history = nav.history.set j x) (hj : j < nav.history.length) (i : Nat) :
    nav'.slot i = if j = i then x else nav.slot i := by
  simp only [slot, hh, List.getD_eq_getElem?_getD, List.getElem?_set, hj, if_true]
  split <;> rfl

/-- The string `strdup` copies from `history[i]`. -/
def historyEntry (nav : Navigation) (i : UInt32) : Option String :=
  nav.slot i.toNat

/-- Move to history slot `index`, show its entry and load it, as `browser_go_back` and
`browser_go_forward` do once their guard passes. They return 0 whether or not the fetch
starts; loading a parsed page is undefined (`loadResponse`). -/
def showEntry (tab : BrowserTab) (index : UInt32) (fetch : FetchOutcome) :
    Option (Int × BrowserTab) :=
  (historyEntry tab.navigation index).bind fun url =>
    let tab := { tab with
      url := url, navigation := { tab.navigation with historyIndex := index },
      state := { tab.state with loading := true } }
    (loadResponse tab fetch).map fun tab => (0, { tab with state := { tab.state with loading := false } })

theorem showEntry_eq_some {tab tab' : BrowserTab} {index : UInt32} {fetch : FetchOutcome}
    {r : Int} :
    showEntry tab index fetch = some (r, tab') ↔ ∃ url, historyEntry tab.navigation index = some url ∧
      fetch ≠ .loaded ∧ r = 0 ∧ tab' = { tab with
        url := url, navigation := { tab.navigation with historyIndex := index },
        state := { tab.state with loading := false } } := by
  unfold showEntry
  cases historyEntry tab.navigation index <;> cases fetch <;> simp [loadResponse, eq_comm]

/-- Showing an entry is undefined on a null slot and when the page loads. -/
theorem showEntry_eq_none {tab : BrowserTab} {index : UInt32} {fetch : FetchOutcome} :
    showEntry tab index fetch = none ↔ historyEntry tab.navigation index = none ∨ fetch = .loaded := by
  unfold showEntry
  cases historyEntry tab.navigation index <;> cases fetch <;> simp [loadResponse]

/-- `browser_go_back`; `none` is the undefined behaviour of `strdup` on a null slot or of
loading the page. -/
def browserGoBack (tab : BrowserTab) (fetch : FetchOutcome) : Option (Int × BrowserTab) :=
  if tab.navigation.historyIndex = 0 then some (-1, tab)
  else showEntry tab (tab.navigation.historyIndex - 1) fetch

/-- `browser_go_forward`; its guard subtracts one from `history_count` in `uint32_t`. -/
def browserGoForward (tab : BrowserTab) (fetch : FetchOutcome) : Option (Int × BrowserTab) :=
  if tab.navigation.historyIndex ≥ tab.navigation.historyCount - 1 then some (-1, tab)
  else showEntry tab (tab.navigation.historyIndex + 1) fetch

/-- `browser_reload` passes `tab->url` to `browser_navigate`, which frees it and then copies
it with `strdup`, twice: a use after free, undefined behaviour whatever the fetch gives. The
early return needs a null `tab->url`, which no tab has: `browser_create_tab` sets
`"about:blank"` and every call replaces it by a copy. -/
def browserReload (_tab : BrowserTab) : Option (Int × BrowserTab) :=
  none

/-- `browser_stop`: loading ends and the progress is reset. -/
def browserStop (tab : BrowserTab) : BrowserTab :=
  { tab with state := { tab.state with loading := false, progress := 0 } }

/-- The calls a tab takes from the engine's navigation API, each with what its fetch gives. -/
inductive TabCall
  | navigate (url : String) (fetch : FetchOutcome)
  | goBack (fetch : FetchOutcome)
  | goForward (fetch : FetchOutcome)
  | reload
  | stop
deriving DecidableEq, Repr

/-- One call: its return value and the tab after it, `none` on undefined behaviour. The
`void` of `browser_stop` is returned as 0. -/
def TabCall.run : TabCall → BrowserTab → Option (Int × BrowserTab)
  | .navigate url fetch, tab => browserNavigate tab url fetch
  | .goBack fetch, tab => browserGoBack tab fetch
  | .goForward fetch, tab => browserGoForward tab fetch
  | .reload, tab => browserReload tab
  | .stop, tab => some (0, browserStop tab)

def runTab (tab : BrowserTab) : List TabCall → Option BrowserTab
  | [] => some tab
  | c :: cs => (c.run tab).bind fun r => runTab r.2 cs

/-- A tab `browser_create_tab` made, after any calls that did not reach undefined behaviour. -/
def TabReachable (tab : BrowserTab) : Prop :=
  ∃ id calls, runTab (newTab id) calls = some tab

end ReactOs.Browser
