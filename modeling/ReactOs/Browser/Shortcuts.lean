import ReactOs.Browser.TabLaws

namespace ReactOs.Browser

theorem runEngine_append (e : BrowserEngine) (xs ys : List EngineCall) :
    runEngine e (xs ++ ys) = (runEngine e xs).bind fun e' => runEngine e' ys := by
  induction xs generalizing e with
  | nil => rfl
  | cons c cs ih =>
    simp only [List.cons_append, runEngine]
    cases c.run e with
    | none => rfl
    | some e' => exact ih e'

theorem EngineReachable.runEngine (h : EngineReachable e) (hr : runEngine e calls = some e') :
    EngineReachable e' := by
  obtain ⟨config, calls₀, h₀⟩ := h
  exact ⟨config, calls₀ ++ calls, by rw [runEngine_append, h₀]; exact hr⟩

section Switches

variable {e : BrowserEngine} {key modifiers : Int} {fetch : FetchOutcome} {p : Ptr}

end Switches

end ReactOs.Browser
