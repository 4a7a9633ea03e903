import ReactOs.Browser.Tab

namespace ReactOs.Browser

/-- `browser_config_t`. -/
structure BrowserConfig where
  maxTabs : UInt32
  jsHeapSize : UInt32
  cacheSize : UInt32
  enableGpu : Bool
  enableWebgl : Bool
  enableWebrtc : Bool
  enableSandbox : Bool
  maxWorkers : UInt32
deriving DecidableEq, Repr, Inhabited

/-- The configuration `browser_engine_create` installs when it is given none. -/
def defaultConfig : BrowserConfig :=
  { maxTabs := 100, jsHeapSize := 256 * 1024 * 1024, cacheSize := 100 * 1024 * 1024,
    enableGpu := true, enableWebgl := true, enableWebrtc := true, enableSandbox := true,
    maxWorkers := 4 }

/-- A heap address; `0` is `NULL`. -/
abbrev Ptr := Nat

/-- `tabs` of `browser_engine_t`: the slots of the pointer array, the number of tabs and the
index of the active one. -/
structure TabTable where
  tabs : List Ptr
  tabCount : UInt32
  activeTab : UInt32
deriving DecidableEq, Repr, Inhabited

/-- The part of `browser_engine_t` the tab functions use, with the tab objects on the heap. -/
structure BrowserEngine where
  config : BrowserConfig
  tabs : TabTable
  heap : Ptr → Option BrowserTab
deriving Inhabited

/-- The tabs of the table, `tabs[0..tab_count)`. -/
def TabTable.live (t : TabTable) : List Ptr :=
  t.tabs.take t.tabCount.toNat

/-- The id of the tab at `p`, if `p` holds a live tab. -/
def BrowserEngine.idAt (e : BrowserEngine) (p : Ptr) : Option UInt32 :=
  (e.heap p).map (·.id)

/-- `browser_engine_create` when its allocations succeed: the given or the default
configuration and a zeroed array of `max_tabs` slots. -/
def browserEngineCreate (config : Option BrowserConfig) : BrowserEngine :=
  let config := config.getD defaultConfig
  { config := config, tabs := ⟨List.replicate config.maxTabs.toNat 0, 0, 0⟩, heap := fun _ => none }

/-- `browser_create_tab`. `alloc` is the address `calloc` returned for the tab, or `none` when
`calloc`, `js_engine_create` or `dom_document_create` failed and the tab was freed. The new
tab's id is the current `tab_count`, and it becomes the active tab. -/
def browserCreateTab (e : BrowserEngine) (alloc : Option Ptr) : Ptr × BrowserEngine :=
  if e.tabs.tabCount ≥ e.config.maxTabs then (0, e)
  else match alloc with
    | none => (0, e)
    | some p =>
      let count := e.tabs.tabCount + 1
      (p, { e with
        tabs := ⟨e.tabs.tabs.set e.tabs.tabCount.toNat p, count, count - 1⟩,
        heap := Function.update e.heap p (some (newTab e.tabs.tabCount)) })

def browserGetActiveTab (e : BrowserEngine) : Ptr :=
  if e.tabs.tabCount = 0 then 0
  else if e.tabs.activeTab ≥ e.tabs.tabCount then 0
  else e.tabs.tabs.getD e.tabs.activeTab.toNat 0

/-- The search loop of `browser_close_tab` over the slots `ps`, the first at index `i`: the
index of the first whose tab has id `tab_id`. Reading a slot that holds no live tab is
undefined behaviour, `none`. -/
def findTab (heap : Ptr → Option BrowserTab) (tabId : UInt32) : List Ptr → Nat → Option (Option Nat)
  | [], _ => some none
  | p :: ps, i =>
    match heap p with
    | none => none
    | some tab => if tab.id = tabId then some (some i) else findTab heap tabId ps (i + 1)

/-- The removal loop of `browser_close_tab`: `tabs[i] = tabs[i + 1]` for `n` steps from `i`. -/
def shiftTabs (tabs : List Ptr) (i : Nat) : Nat → List Ptr
  | 0 => tabs
  | n + 1 => shiftTabs (tabs.set i (tabs.getD (i + 1) 0)) (i + 1) n

/-- `browser_close_tab`: find the first tab with id `tab_id`, free it, shift the later slots
left, and pull `active_tab` back into range. `none` is undefined behaviour in the search. -/
def browserCloseTab (e : BrowserEngine) (tabId : UInt32) : Option BrowserEngine :=
  (findTab e.heap tabId e.tabs.live 0).map fun
    | none => e
    | some i =>
      let tabCount := e.tabs.tabCount - 1
      let activeTab :=
        if e.tabs.activeTab ≥ tabCount ∧ tabCount > 0 then tabCount - 1 else e.tabs.activeTab
      { e with
        tabs := ⟨shiftTabs e.tabs.tabs i (tabCount.toNat - i), tabCount, activeTab⟩,
        heap := Function.update e.heap (e.tabs.tabs.getD i 0) none }

/-- The Ctrl+W case of `handle_keyboard_shortcut` in the userspace browser: close the active
tab by its id. Dereferencing a dangling active pointer is undefined behaviour, `none`. -/
def shortcutCloseTab (e : BrowserEngine) : Option BrowserEngine :=
  let p := browserGetActiveTab e
  if p = 0 then some e else (e.heap p).bind fun tab => browserCloseTab e tab.id

/-- A navigation call on the tab at `p`. Each of these functions returns -1 at once for a
null tab; an address with no live tab is undefined behaviour. -/
def BrowserEngine.callTab (e : BrowserEngine) (p : Ptr) (c : TabCall) :
    Option (Int × BrowserEngine) :=
  if p = 0 then some (-1, e)
  else (e.heap p).bind fun tab =>
    (c.run tab).map fun r => (r.1, { e with heap := Function.update e.heap p (some r.2) })

/-- What a call on a tab can do: nothing at a null pointer, or replace the live tab at `p` by
the tab the call leaves. -/
theorem BrowserEngine.callTab_eq_some {e e' : BrowserEngine} {p : Ptr} {c : TabCall} {r : Int}
    (h : e.callTab p c = some (r, e')) :
    (p = 0 ∧ r = -1 ∧ e' = e) ∨
    (p ≠ 0 ∧ ∃ tab tab', e.heap p = some tab ∧ c.run tab = some (r, tab') ∧
      e' = { e with heap := Function.update e.heap p (some tab') }) := by
  unfold BrowserEngine.callTab at h
  split at h
  · cases h; exact .inl ⟨‹_›, rfl, rfl⟩
  · simp only [Option.bind_eq_some, Option.map_eq_some'] at h
    obtain ⟨tab, ht, ⟨r', tab'⟩, hc, he⟩ := h
    cases he
    exact .inr ⟨‹_›, tab, tab', ht, hc, rfl⟩

/-- The calls of the engine API: the tab-table calls and the navigation calls on a tab. -/
inductive EngineCall
  | createTab (alloc : Option Ptr)
  | closeTab (tabId : UInt32)
  | onTab (p : Ptr) (c : TabCall)
deriving DecidableEq, Repr

/-- What `calloc` can return for a new tab: `NULL`, or a non-null address holding no live tab. -/
def fresh (e : BrowserEngine) : Option Ptr → Bool
  | none => true
  | some p => p != 0 && (e.heap p).isNone

/-- One call; `none` when it has undefined behaviour or names an address `calloc` cannot
return. -/
def EngineCall.run : EngineCall → BrowserEngine → Option BrowserEngine
  | .createTab alloc, e => if fresh e alloc then some (browserCreateTab e alloc).2 else none
  | .closeTab tabId, e => browserCloseTab e tabId
  | .onTab p c, e => (e.callTab p c).map Prod.snd

/-- What one engine call can do. -/
theorem EngineCall.run_eq_some {c : EngineCall} {e e' : BrowserEngine} (h : c.run e = some e') :
    (∃ alloc, c = .createTab alloc ∧ fresh e alloc = true ∧ e' = (browserCreateTab e alloc).2) ∨
    (∃ tabId, c = .closeTab tabId ∧ browserCloseTab e tabId = some e') ∨
    (∃ p tc r, c = .onTab p tc ∧ e.callTab p tc = some (r, e')) := by
  cases c with
  | createTab alloc =>
    simp only [EngineCall.run] at h
    split at h
    · cases h; exact .inl ⟨alloc, rfl, ‹_›, rfl⟩
    · cases h
  | closeTab tabId => exact .inr (.inl ⟨tabId, rfl, h⟩)
  | onTab p tc =>
    simp only [EngineCall.run, Option.map_eq_some'] at h
    obtain ⟨⟨r, e''⟩, hc, rfl⟩ := h
    exact .inr (.inr ⟨p, tc, r, rfl, hc⟩)

def runEngine (e : BrowserEngine) : List EngineCall → Option BrowserEngine
  | [] => some e
  | c :: cs => (c.run e).bind fun e' => runEngine e' cs

/-- An engine `browser_engine_create` made, after any calls of its API. -/
def EngineReachable (e : BrowserEngine) : Prop :=
  ∃ config calls, runEngine (browserEngineCreate config) calls = some e

end ReactOs.Browser
