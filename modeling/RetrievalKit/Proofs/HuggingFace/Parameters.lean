import RetrievalKit.Proofs.HuggingFace.Construction
import RetrievalKit.Proofs.HuggingFace.Requests
import RetrievalKit.Proofs.Json.RoundTrip

/-!
# The parameters of a call

What an endpoint asks for, said without the way in which it is put together.

* `EndpointConfig.parameterValues` — the settings that are parameters, with their values;
* `EndpointConfig.StopBase` — the stop sequences before those of the call;
* `EndpointConfig.AreParameters` — the parameters of a call: the settings as they are, extra
  parameters beside them, and the stop sequences;
* `Overrides` — what a chat request may change in them;
* `Endpoint.sends_parameters` — **these are the parameters that are sent**, whatever extra
  parameters the settings have.
-/

namespace RetrievalKit.HuggingFace

open Dict (get?)

/-! ## What the parameters are -/

namespace EndpointConfig

/-- The settings that are parameters, each with its value, if it has one. -/
def parameterValues (c : EndpointConfig) : List (String × Option Json) :=
  [("max_new_tokens", some (Json.ofWord32 c.maxNewTokens)),
   ("return_full_text", some (.bool c.returnFullText)),
   ("do_sample", some (.bool c.doSample)),
   ("watermark", some (.bool c.watermark)),
   ("top_k", c.topK.map Json.ofWord32),
   ("top_p", c.topP.map .float),
   ("typical_p", c.typicalP.map .float),
   ("temperature", c.temperature.map .float),
   ("repetition_penalty", c.repetitionPenalty.map .float),
   ("truncate", c.truncate.map Json.ofWord32),
   ("seed", c.seed.map fun n => .int n.toNat)]

/-- The stop sequences before those of a call: an extra parameter `stop` takes the place of the
ones in the settings. -/
inductive StopBase (c : EndpointConfig) : List Json → Prop
  | settings (h : "stop" ∉ c.modelKwargs.keys) : StopBase c (c.stopSequences.map .str)
  | items {items : List Json} (h : get? "stop" c.modelKwargs = some (.arr items)) :
      StopBase c items
  | single {s : String} (h : get? "stop" c.modelKwargs = some (.str s)) : StopBase c [.str s]
  | other {value : Json} (h : get? "stop" c.modelKwargs = some value)
      (hitems : ∀ items, value ≠ .arr items) (hsingle : ∀ s, value ≠ .str s) : StopBase c []

/-- The parameters of a call with further stop sequences. -/
structure AreParameters (c : EndpointConfig) (stop : List String) (params : Dict) : Prop where
  ascending : params.Ascending
  setting : ∀ entry ∈ c.parameterValues, get? entry.1 params = entry.2
  kwarg : ∀ key ∈ c.modelKwargs.keys, key ≠ "stop" → get? key params = get? key c.modelKwargs
  stops : ∃ base, c.StopBase base ∧ get? "stop" params = some (.arr (base ++ stop.map .str))
  nothing_else : ∀ key ∈ params.keys,
    key ∈ c.parameterValues.map (·.1) ∨ key ∈ c.modelKwargs.keys ∨ key = "stop"

end EndpointConfig

/-- The parameters of a chat: those of a call, with what the request sets in place of two. -/
structure Overrides (r : ChatRequest) (base params : Dict) : Prop where
  ascending : params.Ascending
  temperature : get? "temperature" params = (r.temperature.map .float).or (get? "temperature" base)
  maxNewTokens : get? "max_new_tokens" params =
    (r.maxTokens.map Json.ofWord32).or (get? "max_new_tokens" base)
  others : ∀ key, key ≠ "temperature" → key ≠ "max_new_tokens" → get? key params = get? key base

/-- The parameters that settings ask for in a call. -/
def EndpointConfig.AsksFor (c : EndpointConfig) (params : Dict) : Endpoint.Call → Prop
  | .generate _ stop | .stream _ stop => c.AreParameters stop params
  | .chat r | .streamChat r => ∃ base, c.AreParameters r.stop base ∧ Overrides r base params

/-! ## One dictionary -/

namespace EndpointConfig

variable {c : EndpointConfig} {stop : List String} {params : Dict}

/-- Which parameters there are does not depend on the settings. -/
theorem map_fst_parameterValues (c : EndpointConfig) :
    c.parameterValues.map (·.1) = standard.parameterValues.map (·.1) := rfl

/-- Every setting that is a parameter has a reserved name. -/
theorem mem_reservedKwargs_of_parameter {name : String}
    (h : name ∈ c.parameterValues.map (·.1)) : name ∈ reservedKwargs := by
  rw [map_fst_parameterValues] at h
  revert name
  decide

theorem stopBase_iff {base : List Json} : c.StopBase base ↔ base = Endpoint.baseStops c := by
  unfold Endpoint.baseStops
  constructor
  · intro h
    cases h with
    | settings h => rw [(Dict.get?_eq_none_iff _ _).mpr h]
    | items h => rw [h]
    | single h => rw [h]
    | other h hitems hsingle =>
      rw [h]
      split
      · rename_i heq
        exact absurd (Option.some.inj heq) (hitems _)
      · rename_i heq
        exact absurd (Option.some.inj heq) (hsingle _)
      · rfl
      · rename_i heq
        cases heq
  · rintro rfl
    split
    · rename_i h
      exact .items h
    · rename_i h
      exact .single h
    · rename_i hitems hsingle h
      exact .other h hitems hsingle
    · rename_i h
      exact .settings ((Dict.get?_eq_none_iff _ _).mp h)

/-- The settings that are parameters, as they are written. -/
theorem get?_settings {entry : String × Option Json} (h : entry ∈ c.parameterValues) :
    get? entry.1 (Dict.ofList (Endpoint.settings c)) = entry.2 := by
  simp only [parameterValues, List.mem_cons, List.not_mem_nil, or_false] at h
  rcases h with rfl | rfl | rfl | rfl | rfl | rfl | rfl | rfl | rfl | rfl | rfl <;>
    simp [Endpoint.settings]

theorem get?_settings_of_not_mem {key : String} (h : key ∉ c.parameterValues.map (·.1)) :
    get? key (Dict.ofList (Endpoint.settings c)) = none := by
  simp only [parameterValues, List.map_cons, List.map_nil, List.mem_cons, List.not_mem_nil,
    or_false, not_or, eq_comm (a := key)] at h
  simp [Endpoint.settings, h]

/-- There are no two ways to be the parameters of a call. -/
theorem AreParameters.unique {other : Dict} (h : c.AreParameters stop params)
    (hother : c.AreParameters stop other) : params = other := by
  refine Dict.ext_of_ascending h.ascending hother.ascending fun key => ?_
  by_cases hstop : key = "stop"
  · obtain ⟨base, hbase, hget⟩ := h.stops
    obtain ⟨base', hbase', hget'⟩ := hother.stops
    rw [hstop, hget, hget', stopBase_iff.mp hbase, stopBase_iff.mp hbase']
  · by_cases hsetting : key ∈ c.parameterValues.map (·.1)
    · obtain ⟨entry, hentry, rfl⟩ := List.mem_map.mp hsetting
      rw [h.setting entry hentry, hother.setting entry hentry]
    · by_cases hkwarg : key ∈ c.modelKwargs.keys
      · rw [h.kwarg key hkwarg hstop, hother.kwarg key hkwarg hstop]
      · have hnone : ¬ (key ∈ c.parameterValues.map (·.1) ∨ key ∈ c.modelKwargs.keys ∨
            key = "stop") := not_or.mpr ⟨hsetting, not_or.mpr ⟨hkwarg, hstop⟩⟩
        rw [(Dict.get?_eq_none_iff _ _).mpr (mt (h.nothing_else key) hnone),
          (Dict.get?_eq_none_iff _ _).mpr (mt (hother.nothing_else key) hnone)]

end EndpointConfig

/-- There are no two ways to set two parameters anew. -/
theorem Overrides.unique {r : ChatRequest} {base params other : Dict}
    (h : Overrides r base params) (hother : Overrides r base other) : params = other := by
  refine Dict.ext_of_ascending h.ascending hother.ascending fun key => ?_
  by_cases htemperature : key = "temperature"
  · rw [htemperature, h.temperature, hother.temperature]
  · by_cases htokens : key = "max_new_tokens"
    · rw [htokens, h.maxNewTokens, hother.maxNewTokens]
    · rw [h.others key htemperature htokens, hother.others key htemperature htokens]

/-! ## The dictionary that is sent -/

namespace Endpoint

open EndpointConfig (reservedKwargs mem_reservedKwargs_of_parameter get?_settings
  get?_settings_of_not_mem stopBase_iff)

variable {σ : Type}

theorem get?_invocationParams {key : String} (hkey : key ≠ "stop") (e : Endpoint σ)
    (stop : List String) : get? key (e.invocationParams stop) =
      (get? key e.config.modelKwargs).or (get? key (Dict.ofList (settings e.config))) := by
  unfold invocationParams
  rw [Dict.get?_insert_of_ne hkey.symm, Dict.get?_overlay]

/-- If no extra parameter has a reserved name, laying them over the settings hides none. -/
theorem areParameters_invocationParams {e : Endpoint σ}
    (hreserved : ∀ key ∈ e.config.modelKwargs.keys, key ∉ reservedKwargs) (stop : List String) :
    e.config.AreParameters stop (e.invocationParams stop) where
  ascending := Dict.ascending_insert _ _ (Dict.ascending_overlay (Dict.ascending_ofList _) _)
  setting entry hentry := by
    -- The name is reserved, so neither an extra parameter nor `stop` has it.
    have hname := mem_reservedKwargs_of_parameter (List.mem_map_of_mem (f := (·.1)) hentry)
    have hstop : entry.1 ≠ "stop" := fun h => absurd (h ▸ hname) (by decide)
    have hkwarg : get? entry.1 e.config.modelKwargs = none :=
      (Dict.get?_eq_none_iff _ _).mpr fun hmem => hreserved _ hmem hname
    rw [get?_invocationParams hstop, hkwarg, Option.none_or, get?_settings hentry]
  kwarg key hkey hstop := by
    obtain ⟨value, hvalue⟩ := (Dict.mem_keys_iff _ _).mp hkey
    rw [get?_invocationParams hstop, hvalue, Option.some_or]
  stops := ⟨_, stopBase_iff.mpr rfl, Dict.get?_insert_self _ _ _⟩
  nothing_else key hkey := by
    by_contra hnone
    simp only [not_or] at hnone
    obtain ⟨hsetting, hkwarg, hstop⟩ := hnone
    refine (Dict.get?_eq_none_iff _ _).mp ?_ hkey
    rw [get?_invocationParams hstop, (Dict.get?_eq_none_iff _ _).mpr hkwarg,
      get?_settings_of_not_mem hsetting, Option.or_self]

theorem get?_chatParams (key : String) (e : Endpoint σ) (r : ChatRequest) :
    get? key (e.chatParams r) =
      ((if "temperature" = key then r.temperature.map .float else none).or
        (if "max_new_tokens" = key then r.maxTokens.map Json.ofWord32 else none)).or
        (get? key (e.invocationParams r.stop)) := by
  rw [chatParams, Dict.get?_overlay, Dict.get?_append, Dict.get?_entryIfSome,
    Dict.get?_entryIfSome]

theorem overrides_chatParams {e : Endpoint σ} {r : ChatRequest}
    (h : (e.invocationParams r.stop).Ascending) :
    Overrides r (e.invocationParams r.stop) (e.chatParams r) where
  ascending := Dict.ascending_overlay h _
  temperature := by simp [get?_chatParams]
  maxNewTokens := by simp [get?_chatParams]
  others key htemperature htokens := by
    rw [get?_chatParams, if_neg htemperature.symm, if_neg htokens.symm, Option.none_or,
      Option.none_or]

/-- A call asks for the parameters that it sends. -/
theorem asksFor_iff {e : Endpoint σ}
    (hreserved : ∀ key ∈ e.config.modelKwargs.keys, key ∉ reservedKwargs) (call : Call)
    (params : Dict) : e.config.AsksFor params call ↔ params = e.paramsOf call := by
  have hcall : ∀ stop params,
      e.config.AreParameters stop params ↔ params = e.invocationParams stop := by
    intro stop params
    have h := areParameters_invocationParams hreserved stop
    exact ⟨fun hparams => hparams.unique h, fun hparams => hparams ▸ h⟩
  have hchat : ∀ r : ChatRequest, (∃ base, e.config.AreParameters r.stop base ∧
      Overrides r base params) ↔ params = e.chatParams r := by
    intro r
    have h := overrides_chatParams (areParameters_invocationParams hreserved r.stop).ascending
    simp only [hcall, exists_eq_left]
    exact ⟨fun hparams => hparams.unique h, fun hparams => hparams ▸ h⟩
  cases call with
  | generate _ stop => exact hcall stop params
  | stream _ stop => exact hcall stop params
  | chat r => exact hchat r
  | streamChat r => exact hchat r

theorem get?_body_requestOf (e : Endpoint σ) (call : Call) :
    (e.requestOf call).body.get? "parameters" = some (.obj (e.paramsOf call)) := by
  simp [requestOf, request, Json.get?, Json.ofEntries]

/-- **The parameters that are sent.**  An endpoint has the parameters of its settings, and of these
only: no extra parameter is in the place of a setting, and each one is sent as it is.  Every call
sends them, with its stop sequences; a chat may set two of them anew. -/
theorem sends_parameters {env : Environment} {c : EndpointConfig} {b : Backend σ} {e : Endpoint σ}
    (h : ofConfig env c b = .ok e) :
    (∀ stop params, c.AreParameters stop params ↔ params = e.invocationParams stop) ∧
    ∀ call, ∃ request params, e.Sends call request ∧
      request.body.get? "parameters" = some (.obj params) ∧
      ∀ asked, c.AsksFor asked call ↔ asked = params := by
  obtain ⟨hcheck, headers, t, -, -, he⟩ := ofConfig_eq_ok_iff.mp h
  obtain rfl : e.config = c := congrArg config he
  have hreserved := EndpointConfig.checkModelKwargs_eq_ok_iff.mp hcheck
  refine ⟨fun stop params => asksFor_iff hreserved (.generate "" stop) params, fun call => ?_⟩
  exact ⟨_, _, e.sends_requestOf call, get?_body_requestOf e call, asksFor_iff hreserved call⟩

/-- An extra parameter and a stop sequence that is one; the chat has a number of tokens and a stop
sequence of its own. -/
theorem sends_parameters_kwargs :
    let c := ({ EndpointConfig.standard with model := some "org/m" }.withModelKwarg "best_of"
      (.int 2)).withModelKwarg "stop" (.str "END")
    let r : ChatRequest := { ChatRequest.ofMessages [] with stop := ["x"], maxTokens := some 7 }
    ∃ e, ofConfig ⟨[]⟩ c (Bench.backend 0) = .ok e ∧
      ∃ request params, e.Sends (.chat r) request ∧
        request.body.get? "parameters" = some (.obj params) ∧
        get? "best_of" params = some (.int 2) ∧ get? "top_k" params = none ∧
        get? "max_new_tokens" params = some (.int 7) ∧
        get? "stop" params = some (.arr [.str "END", .str "x"]) := by
  intro c r
  obtain ⟨e, he⟩ : ∃ e, ofConfig ⟨[]⟩ c (Bench.backend 0) = .ok e := ⟨_, rfl⟩
  obtain ⟨-, hsends⟩ := sends_parameters he
  obtain ⟨request, params, hsent, hbody, hasked⟩ := hsends (.chat r)
  obtain ⟨base, hbase, hover⟩ := (hasked params).mpr rfl
  obtain ⟨stops, hstops, hstop⟩ := hbase.stops
  refine ⟨e, he, request, params, hsent, hbody, ?_, ?_, hover.maxNewTokens, ?_⟩
  · rw [hover.others "best_of" (by decide) (by decide)]
    exact hbase.kwarg "best_of" (by decide) (by decide)
  · have hsetting : ("top_k", none) ∈ c.parameterValues := List.mem_of_getElem? (i := 4) rfl
    rw [hover.others "top_k" (by decide) (by decide)]
    exact hbase.setting _ hsetting
  · rw [hover.others "stop" (by decide) (by decide), hstop, stopBase_iff.mp hstops]
    rfl

end Endpoint

end RetrievalKit.HuggingFace
