import ReactOs.CLib
import ReactOs.Browser.PageStack
import ReactOs.Browser.Shortcuts

namespace ReactOs.Browser

/-- Storing an `int` in a `uint32_t`: the value modulo 2^32. -/
def toUInt32 (i : Int) : UInt32 :=
  UInt32.ofNat (i % 2 ^ 32).toNat

/-- `browser_options_t`; `none` is `NULL`. -/
structure BrowserOptions where
  initialUrl : Option String
  privateMode : Bool
  fullscreen : Bool
  width : UInt32
  height : UInt32
  profilePath : Option String
  noSandbox : Bool
  disableGpu : Bool
  disableJs : Bool
  userAgent : Option String
  proxy : Option String
  showDevtools : Bool
deriving DecidableEq, Repr

/-- The options `parse_arguments` starts from. -/
def defaultOptions : BrowserOptions :=
  ⟨none, false, false, 1280, 720, none, false, false, false, none, none, false⟩

/-- `strncmp(arg, p, strlen(p)) == 0`. -/
def startsWith (arg p : String) : Bool :=
  p.toList.isPrefixOf arg.toList

/-- The string `arg + k` points to. -/
def skip (arg : String) (k : Nat) : String :=
  ⟨arg.toList.drop k⟩

/-- Where `parse_arguments` calls `exit(0)`: after the usage text or after the version. -/
inductive ParseExit
  | usage
  | version
deriving DecidableEq, Repr

/-- What an argument is to the loop of `parse_arguments`: the first of its tests it passes. -/
inductive ArgKind
  | help
  | version
  | privateMode
  | fullscreen
  | width (v : UInt32)
  | height (v : UInt32)
  | profile (path : String)
  | noSandbox
  | disableGpu
  | disableJs
  | userAgent (ua : String)
  | proxy (server : String)
  | devtools
  | url (u : String)
  | ignored
deriving DecidableEq, Repr

/-- The tests of the loop of `parse_arguments`, in their order. -/
def argKind (arg : String) : ArgKind :=
  if arg = "-h" ∨ arg = "--help" then .help
  else if arg = "-v" ∨ arg = "--version" then .version
  else if arg = "-p" ∨ arg = "--private" then .privateMode
  else if arg = "-f" ∨ arg = "--fullscreen" then .fullscreen
  else if startsWith arg "--width=" then .width (toUInt32 (atoi (skip arg 8)))
  else if startsWith arg "--height=" then .height (toUInt32 (atoi (skip arg 9)))
  else if startsWith arg "--profile=" then .profile (skip arg 10)
  else if arg = "--no-sandbox" then .noSandbox
  else if arg = "--disable-gpu" then .disableGpu
  else if arg = "--disable-js" then .disableJs
  else if startsWith arg "--user-agent=" then .userAgent (skip arg 13)
  else if startsWith arg "--proxy=" then .proxy (skip arg 8)
  else if arg = "--devtools" then .devtools
  else if arg.toList.head? ≠ some '-' then .url arg
  else .ignored

namespace ArgKind

/-- The kinds whose branch calls `exit(0)`. -/
def exit? : ArgKind → Option ParseExit
  | help => some .usage
  | version => some .version
  | _ => none

/-- The URL an argument sets. -/
def url? : ArgKind → Option String
  | url u => some u
  | _ => none

/-- The assignment of each branch of the loop. -/
def set : ArgKind → BrowserOptions → BrowserOptions
  | privateMode, o => { o with privateMode := true }
  | fullscreen, o => { o with fullscreen := true }
  | width v, o => { o with width := v }
  | height v, o => { o with height := v }
  | profile path, o => { o with profilePath := some path }
  | noSandbox, o => { o with noSandbox := true }
  | disableGpu, o => { o with disableGpu := true }
  | disableJs, o => { o with disableJs := true }
  | userAgent ua, o => { o with userAgent := some ua }
  | proxy server, o => { o with proxy := some server }
  | devtools, o => { o with showDevtools := true }
  | url u, o => { o with initialUrl := some u }
  | help, o | version, o | ignored, o => o

end ArgKind

/-- One pass of the loop on `argv[i]`: its tests, then `exit(0)` or the assignment. -/
def parseArgument (o : BrowserOptions) (arg : String) : Except ParseExit BrowserOptions :=
  match (argKind arg).exit? with
  | some x => .error x
  | none => .ok ((argKind arg).set o)

/-- `parse_arguments` on `argv[1..argc)`: the loop, then the default URL. -/
def parseArguments (args : List String) : Except ParseExit BrowserOptions :=
  (args.foldlM parseArgument defaultOptions).map fun o =>
    { o with initialUrl := some (o.initialUrl.getD "about:blank") }

/-- The last value `f` picks from the kinds, or `d`. -/
def lastOf {V : Type} (ks : List ArgKind) (f : ArgKind → Option V) (d : V) : V :=
  ((ks.filterMap f).getLast?).getD d

/-- The options the arguments ask for: each field from the last argument of its kind, a flag
set by any argument of its kind, and `about:blank` without a URL. -/
def optionsSpec (ks : List ArgKind) : BrowserOptions where
  initialUrl := some (lastOf ks ArgKind.url? "about:blank")
  privateMode := ks.contains .privateMode
  fullscreen := ks.contains .fullscreen
  width := lastOf ks (fun | .width v => some v | _ => none) 1280
  height := lastOf ks (fun | .height v => some v | _ => none) 720
  profilePath := lastOf ks (fun | .profile p => some (some p) | _ => none) none
  noSandbox := ks.contains .noSandbox
  disableGpu := ks.contains .disableGpu
  disableJs := ks.contains .disableJs
  userAgent := lastOf ks (fun | .userAgent ua => some (some ua) | _ => none) none
  proxy := lastOf ks (fun | .proxy s => some (some s) | _ => none) none
  showDevtools := ks.contains .devtools

theorem lastOf_append_single {V : Type} (ks : List ArgKind) (k : ArgKind) (f : ArgKind → Option V)
    (d : V) : lastOf (ks ++ [k]) f d = (f k).getD (lastOf ks f d) := by
  unfold lastOf
  cases h : f k <;>
    simp only [List.filterMap_append, List.filterMap_cons, List.filterMap_nil, h, List.append_nil,
      List.getLast?_concat, Option.getD_some, Option.getD_none]

/-- The loop stops at the first argument whose branch exits, and otherwise makes every
assignment in turn. -/
theorem foldlM_parseArgument (args : List String) (o : BrowserOptions) :
    args.foldlM parseArgument o = match (args.map argKind).findSome? ArgKind.exit? with
      | some x => .error x
      | none => .ok ((args.map argKind).foldl (fun o k => k.set o) o) := by
  induction args generalizing o with
  | nil => rfl
  | cons a as ih =>
    simp only [List.foldlM_cons, List.map_cons, List.findSome?_cons, List.foldl_cons, parseArgument]
    cases (argKind a).exit? with
    | some x => rfl
    | none => exact ih _

/-- The assignments leave each field at the last argument of its kind. -/
theorem foldl_set_defaultOptions (ks : List ArgKind) :
    ks.foldl (fun o k => k.set o) defaultOptions =
      { optionsSpec ks with
        initialUrl := (ks.filterMap ArgKind.url?).getLast? } := by
  induction ks using List.reverseRecOn with
  | nil => rfl
  | append_singleton ks k ih =>
    rw [List.foldl_append, List.foldl_cons, List.foldl_nil, ih]
    simp only [optionsSpec, lastOf_append_single, List.filterMap_append, List.filterMap_cons,
      List.filterMap_nil, List.append_nil, List.elem_eq_mem, List.mem_append, List.mem_singleton]
    cases k <;> simp only [ArgKind.set, ArgKind.url?, reduceCtorEq, or_false, or_true,
      decide_True, Option.getD_none, Option.getD_some, List.append_nil, List.getLast?_concat]

theorem parseArguments_eq (args : List String) :
    parseArguments args = match (args.map argKind).findSome? ArgKind.exit? with
      | some x => .error x
      | none => .ok (optionsSpec (args.map argKind)) := by
  rw [parseArguments, foldlM_parseArgument]
  cases (args.map argKind).findSome? ArgKind.exit? with
  | some x => rfl
  | none => simp only [Except.map, foldl_set_defaultOptions]; rfl

/-- `parse_arguments` exits at the first help or version argument; otherwise each option is
set by the last argument of its kind, and the URL is `about:blank` without one. -/
theorem parse_arguments_spec (args : List String) :
    parseArguments args = match (args.map argKind).findSome? ArgKind.exit? with
      | some x => .error x
      | none => .ok (optionsSpec (args.map argKind)) :=
  parseArguments_eq args

example : parseArguments ["--width=1920", "https://example.com", "-p"] = .ok
    { defaultOptions with initialUrl := some "https://example.com", privateMode := true, width := 1920 } :=
  rfl

example : parseArguments ["--width=-1"] =
    .ok { defaultOptions with initialUrl := some "about:blank", width := 4294967295 } := rfl

example : parseArguments ["x", "-v", "-h"] = .error .version := rfl

example : parseArguments ["--height=99999999999999999999"] =
    .ok { defaultOptions with initialUrl := some "about:blank", height := 4294967295 } := rfl

theorem head_of_startsWith {arg p : String} (h : startsWith arg p = true)
    (hp : p.toList.head? = some '-') : arg.toList.head? = some '-' := by
  obtain ⟨t, ht⟩ := List.isPrefixOf_iff_prefix.mp h
  rw [← ht, List.head?_append, hp]; rfl

/-- Every test before the URL test needs a leading `-`, so an argument without one is the URL. -/
theorem argKind_of_head {arg : String} (h : arg.toList.head? ≠ some '-') :
    argKind arg = .url arg := by
  have hne : ∀ s : String, s.toList.head? = some '-' → arg ≠ s := fun s hs he => h (he ▸ hs)
  have hsw : ∀ p : String, p.toList.head? = some '-' → startsWith arg p = false :=
    fun p hp => Bool.eq_false_iff.mpr fun hs => h (head_of_startsWith hs hp)
  simp (disch := decide) only [argKind, hne, hsw, or_self, if_false, Bool.false_eq_true]
  exact if_pos h

theorem argKind_eq_url {arg u : String} (h : argKind arg = .url u) :
    u = arg ∧ arg.toList.head? ≠ some '-' := by
  simp only [argKind, ite_eq_iff, reduceCtorEq, and_false, or_false, false_or,
    ArgKind.url.injEq] at h
  obtain ⟨-, -, -, -, -, -, -, -, -, -, -, -, -, hd, rfl⟩ := h
  exact ⟨rfl, hd⟩

theorem url?_argKind (arg : String) :
    (argKind arg).url? = if arg.toList.head? ≠ some '-' then some arg else none := by
  split_ifs with h
  · rw [argKind_of_head h]; rfl
  · cases hk : argKind arg <;> simp only [ArgKind.url?]
    exact absurd (argKind_eq_url hk).2 h

theorem filterMap_url?_argKind (args : List String) :
    (args.map argKind).filterMap ArgKind.url? = args.filter fun a => a.toList.head? ≠ some '-' := by
  rw [List.filterMap_map]
  induction args with
  | nil => rfl
  | cons a as ih =>
    rw [List.filterMap_cons, Function.comp_apply, url?_argKind, List.filter_cons]
    by_cases h : a.toList.head? = some '-' <;>
      simp only [h, ih, ne_eq, not_true_eq_false, not_false_eq_true, decide_False, decide_True,
        Bool.false_eq_true, if_false, if_true]

theorem exit?_argKind (arg : String) :
    (argKind arg).exit? = if arg = "-h" ∨ arg = "--help" then some .usage
      else if arg = "-v" ∨ arg = "--version" then some .version else none := by
  unfold argKind
  simp only [apply_ite ArgKind.exit?]
  simp only [ArgKind.exit?, ite_self]

/-- Without a help or version argument `parse_arguments` returns. -/
theorem parseArguments_ok (hx : ∀ a ∈ args, a ∉ ["-h", "--help", "-v", "--version"]) :
    parseArguments args = .ok (optionsSpec (args.map argKind)) := by
  have hnone : (args.map argKind).findSome? ArgKind.exit? = none := by
    simp only [List.findSome?_eq_none_iff, List.mem_map, forall_exists_index, and_imp,
      forall_apply_eq_imp_iff₂]
    intro a ha
    have hs := hx a ha
    simp only [List.mem_cons, List.mem_singleton, List.not_mem_nil, or_false, not_or] at hs
    simp only [exit?_argKind, hs, or_self, if_false]
  rw [parseArguments_eq, hnone]

/-- The URL `parse_arguments` leaves is the last argument without a leading `-`. -/
theorem parseArguments_initialUrl (ho : parseArguments args = .ok o) :
    o.initialUrl =
      some (((args.filter fun a => a.toList.head? ≠ some '-').getLast?).getD "about:blank") := by
  rw [parseArguments_eq] at ho
  split at ho
  · cases ho
  · cases ho
    rw [optionsSpec, lastOf, filterMap_url?_argKind]

/-- The configuration `init_browser_engine` gives `browser_engine_create`. -/
def optionsConfig (o : BrowserOptions) : BrowserConfig :=
  { maxTabs := 100, jsHeapSize := 256 * 1024 * 1024, cacheSize := 100 * 1024 * 1024,
    enableGpu := !o.disableGpu, enableWebgl := !o.disableGpu, enableWebrtc := true,
    enableSandbox := !o.noSandbox, maxWorkers := 4 }

/-- `init_browser_engine` when `browser_engine_create` and `browser_engine_init` succeed. -/
def initBrowserEngine (o : BrowserOptions) : BrowserEngine :=
  browserEngineCreate (some (optionsConfig o))

/-- How `main` reaches its event loop: it exits in `parse_arguments`, returns 1 without a first
tab, or runs the engine it built. -/
inductive Startup
  | exited (x : ParseExit)
  | noTab
  | running (e : BrowserEngine)

/-- `main` up to `run_event_loop`, with the engine and the window created: parse the
arguments, create the first tab (`alloc` is what `calloc` gives it), and navigate it to the
initial URL unless that is `about:blank`. `none` is undefined behaviour. -/
def browserMain (args : List String) (alloc : Option Ptr) (fetch : FetchOutcome) :
    Option Startup :=
  match parseArguments args with
  | .error x => some (.exited x)
  | .ok o =>
    let created := browserCreateTab (initBrowserEngine o) alloc
    if created.1 = 0 then some .noTab
    else match o.initialUrl with
      | some url =>
        if url ≠ "about:blank" then
          (created.2.callTab created.1 (.navigate url fetch)).map fun r => .running r.2
        else some (.running created.2)
      | none => some (.running created.2)

/-- The engine after the first tab of `main`, at `p`. -/
theorem createTab_initBrowserEngine (o : BrowserOptions) (p : Ptr) :
    browserCreateTab (initBrowserEngine o) (some p) = (p, { initBrowserEngine o with
      tabs := ⟨(List.replicate 100 0).set 0 p, 1, 0⟩,
      heap := Function.update (fun _ => none) p (some (newTab 0)) }) := by
  simp only [browserCreateTab, initBrowserEngine, browserEngineCreate, optionsConfig, Option.getD_some]
  rfl

/-- The history of a new tab after its first navigation: the null slot 0, then the URL. -/
theorem newTab_navigate_history (hn : browserNavigate (newTab 0) url fetch = some (r, tab)) :
    tab.navigation.history.take tab.navigation.historyCount.toNat = [none, some url] := by
  rw [(browserNavigate_eq_some hn).2.2]
  rfl

theorem browserMain_running (fetch : FetchOutcome) (hp : p ≠ 0) (ho : parseArguments args = .ok o)
    (hu : o.initialUrl = some url) :
    (browserMain args (some p) fetch = none ↔ fetch = .loaded ∧ url ≠ "about:blank") ∧
    ∀ st, browserMain args (some p) fetch = some st → ∃ e, st = .running e ∧ EngineReachable e ∧
      e.config = optionsConfig o ∧ browserGetActiveTab e = p ∧
      ∃ tab, e.heap p = some tab ∧
        Represents tab (if url = "about:blank" then none else some ⟨[], url, []⟩) ∧
        tab.navigation.history.take tab.navigation.historyCount.toNat =
          if url = "about:blank" then [] else [none, some url] := by
  set e₁ := (browserCreateTab (initBrowserEngine o) (some p)).2 with he₁
  have hcreate := createTab_initBrowserEngine o p
  have hfst : (browserCreateTab (initBrowserEngine o) (some p)).1 = p := by rw [hcreate]
  have hheap : e₁.heap p = some (newTab 0) := by rw [he₁, hcreate]; simp
  have hr₁ : runEngine (browserEngineCreate (some (optionsConfig o))) [.createTab (some p)] = some e₁ := by
    simp [runEngine, EngineCall.run, fresh, hp, initBrowserEngine, browserEngineCreate, he₁]
  have hactive : ∀ h, browserGetActiveTab { e₁ with heap := h } = p := by
    intro h; rw [he₁, hcreate]; rfl
  have hcfg : e₁.config = optionsConfig o := by rw [he₁, hcreate]; rfl
  by_cases hb : url = "about:blank"
  · have hm : browserMain args (some p) fetch = some (.running e₁) := by
      simp only [browserMain, ho, hu, hfst, hp, hb, ne_eq, not_true_eq_false, if_false]
    refine ⟨by simp [hm, hb], fun st hst => ?_⟩
    obtain rfl := Option.some.inj (hm.symm.trans hst)
    refine ⟨e₁, rfl, ⟨_, _, hr₁⟩, hcfg, hactive e₁.heap, newTab 0, hheap, ?_, ?_⟩ <;> rw [if_pos hb]
    exacts [newTab_represents 0, rfl]
  · have hcall : e₁.callTab p (.navigate url fetch) = (browserNavigate (newTab 0) url fetch).map
        fun r => (r.1, { e₁ with heap := Function.update e₁.heap p (some r.2) }) := by
      simp only [BrowserEngine.callTab, hp, if_false, hheap, TabCall.run, Option.some_bind]
    have hm : browserMain args (some p) fetch = (e₁.callTab p (.navigate url fetch)).map
        fun r => .running r.2 := by
      simp only [browserMain, ho, hu, hfst, hp, hb, ne_eq, not_false_eq_true, if_true, if_false, ← he₁]
    refine ⟨by simp [hm, hcall, hb], fun st hst => ?_⟩
    rw [hm, hcall, Option.map_map, Option.map_eq_some'] at hst
    obtain ⟨⟨r, tab⟩, hn, rfl⟩ := hst
    have hl : fetch ≠ .loaded := fun h =>
      Option.some_ne_none _ (hn.symm.trans (browserNavigate_eq_none.mpr h))
    obtain ⟨r', tab', hn', hrep⟩ := (newTab_represents 0).navigate
      (show PageStack.fits (.navigate url fetch) none by simpa [PageStack.fits] using hl)
    obtain rfl : tab' = tab := congrArg Prod.snd (Option.some.inj (hn'.symm.trans hn))
    refine ⟨_, rfl, ⟨some (optionsConfig o), [.createTab (some p), .onTab p (.navigate url fetch)], ?_⟩,
      hcfg, hactive _, tab', Function.update_same _ _ _, ?_, ?_⟩ <;> simp only [if_neg hb]
    · refine (runEngine_append _ [.createTab (some p)] [.onTab p (.navigate url fetch)]).trans ?_
      rw [hr₁]
      simp only [Option.some_bind, runEngine, EngineCall.run, hcall, hn, Option.map_some']
    · exact hrep
    · exact newTab_navigate_history hn

/-- When `main` starts on a command line it parses, it is undefined exactly when the initial
URL is not `about:blank` and its navigation loads the page. Otherwise it reaches its event
loop with a reachable engine configured from the options, the first tab active, and that tab
standing for a history that holds only the initial URL (the array keeps the null slot 0 before
it), or no history for `about:blank`. -/
theorem startup_shows_initial_url (fetch : FetchOutcome) (hp : p ≠ 0) (ho : parseArguments args = .ok o)
    (hu : o.initialUrl = some url) :
    (browserMain args (some p) fetch = none ↔ fetch = .loaded ∧ url ≠ "about:blank") ∧
    ∀ st, browserMain args (some p) fetch = some st → ∃ e, st = .running e ∧ EngineReachable e ∧
      e.config = optionsConfig o ∧ browserGetActiveTab e = p ∧
      ∃ tab, e.heap p = some tab ∧
        Represents tab (if url = "about:blank" then none else some ⟨[], url, []⟩) ∧
        tab.navigation.history.take tab.navigation.historyCount.toNat =
          if url = "about:blank" then [] else [none, some url] :=
  browserMain_running fetch hp ho hu

theorem startup_example_page :
    browserMain ["https://example.com"] (some 1) .started ≠ none ∧
    ∀ st, browserMain ["https://example.com"] (some 1) .started = some st → ∃ e, st = .running e ∧
      EngineReachable e ∧
      e.config = optionsConfig { defaultOptions with initialUrl := some "https://example.com" } ∧
      browserGetActiveTab e = 1 ∧ ∃ tab, e.heap 1 = some tab ∧
        Represents tab (if "https://example.com" = "about:blank" then none
          else some ⟨[], "https://example.com", []⟩) ∧
        tab.navigation.history.take tab.navigation.historyCount.toNat =
          if "https://example.com" = "about:blank" then [] else [none, some "https://example.com"] := by
  obtain ⟨hnone, hrun⟩ := startup_shows_initial_url .started (show (1 : Ptr) ≠ 0 by decide)
    (show parseArguments ["https://example.com"] = _ from rfl) rfl
  exact ⟨fun h => absurd (hnone.mp h).1 nofun, hrun⟩

/-- A command line without a help or version argument starts the browser, unless its
navigation loads the page, on its last argument that does not begin with `-`, or on
`about:blank` when there is none. -/
theorem command_line_url_shown (hp : p ≠ 0)
    (hx : ∀ a ∈ args, a ∉ ["-h", "--help", "-v", "--version"]) (hf : fetch ≠ .loaded) :
    ∃ e, browserMain args (some p) fetch = some (.running e) ∧ EngineReachable e ∧
      browserGetActiveTab e = p ∧ ∃ tab, e.heap p = some tab ∧
        tab.url = ((args.filter fun a => a.toList.head? ≠ some '-').getLast?).getD "about:blank" := by
  have ho := parseArguments_ok hx
  obtain ⟨hnone, hrun⟩ := browserMain_running fetch hp ho (parseArguments_initialUrl ho)
  obtain ⟨st, hst⟩ := Option.ne_none_iff_exists'.mp fun h => hf (hnone.mp h).1
  obtain ⟨e, rfl, hr, -, ha, tab, ht, hrep, -⟩ := hrun st hst
  refine ⟨e, hst, hr, ha, tab, ht, hrep.shown.trans ?_⟩
  split_ifs with hb
  exacts [hb.symm, rfl]

theorem private_window_last_url :
    ∃ e, browserMain ["-p", "a.org", "--width=800", "b.org"] (some 1) .started =
        some (.running e) ∧ EngineReachable e ∧ browserGetActiveTab e = 1 ∧
      ∃ tab, e.heap 1 = some tab ∧ tab.url = "b.org" :=
  command_line_url_shown (by decide) (by decide) nofun

end ReactOs.Browser
