import Mathlib.Data.List.DropRight
import RetrievalKit.HuggingFace.Endpoint
import RetrievalKit.Proofs.Wire.Outcomes
import RetrievalKit.Wire.Bench

/-!
# Which settings make an endpoint

* `EndpointConfig.Valid` — what the extra settings may hold, said without the checks;
* `EndpointConfig.Targets` — the one target among three settings and a fallback, where an empty
  text counts as none;
* `EndpointConfig.Locates` — the address at which a target is found;
* `Endpoint.ofConfig_accepts` — **settings make an endpoint if and only if they are valid and have
  one target**, and it is reached where that target is found.
-/

namespace RetrievalKit

/-! ## Addresses -/

/-- The beginning of an address that ends in no slash, with nothing but slashes after it. -/
structure IsTrimmed (url trimmed : String) : Prop where
  slashes : ∃ n, url.toList = trimmed.toList ++ List.replicate n '/'
  no_slash : ∀ front, trimmed.toList ≠ front ++ ['/']

theorem toList_trimSlashes (url : String) :
    (trimSlashes url).toList = url.toList.rdropWhile (· == '/') :=
  String.toList_ofList

theorem rdropWhile_append_replicate (front : List Char) (n : Nat) :
    (front ++ List.replicate n '/').rdropWhile (· == '/') = front.rdropWhile (· == '/') := by
  induction n with
  | zero => rw [List.replicate_zero, List.append_nil]
  | succ n ih =>
    rw [List.replicate_succ', ← List.append_assoc, List.rdropWhile_concat_pos _ _ _ rfl, ih]

/-- `trimSlashes` takes away all slashes at the end, and nothing else. -/
theorem isTrimmed_iff {url trimmed : String} :
    IsTrimmed url trimmed ↔ trimmed = trimSlashes url := by
  constructor
  · rintro ⟨⟨n, hslashes⟩, hend⟩
    refine String.toList_injective ?_
    rw [toList_trimSlashes, hslashes, rdropWhile_append_replicate, eq_comm,
      List.rdropWhile_eq_self_iff]
    intro hne hlast
    refine hend trimmed.toList.dropLast ?_
    rw [← beq_iff_eq.mp hlast, List.dropLast_append_getLast]
  · rintro rfl
    refine ⟨⟨(url.toList.rtakeWhile (· == '/')).length, ?_⟩, fun front hfront => ?_⟩
    · have hall : ∀ c ∈ url.toList.rtakeWhile (· == '/'), c = '/' := fun c hc =>
        beq_iff_eq.mp (List.mem_rtakeWhile_imp (p := (· == '/')) hc)
      rw [toList_trimSlashes, ← List.eq_replicate_of_mem hall, List.rdropWhile_append_rtakeWhile]
    · have hagain := List.rdropWhile_idempotent (· == '/') url.toList
      rw [← toList_trimSlashes, hfront, List.rdropWhile_concat_pos _ _ _ rfl] at hagain
      have hlength := congrArg List.length hagain
      have hle := (List.rdropWhile_prefix (· == '/') front).length_le
      rw [List.length_append, List.length_singleton] at hlength
      omega

namespace HuggingFace

/-! ## Settings -/

/-- A setting that is set to a text, and not to the empty one. -/
def Given (setting : Option String) : Prop := ∃ text, text ≠ "" ∧ setting = some text

theorem filter_eq_some_iff {setting : Option String} {text : String} :
    setting.filter (· != "") = some text ↔ text ≠ "" ∧ setting = some text := by
  rw [Option.filter_eq_some_iff, bne_iff_ne, and_comm]

theorem filter_eq_none_iff {setting : Option String} :
    setting.filter (· != "") = none ↔ ¬ Given setting := by
  rw [Option.eq_none_iff_forall_ne_some, Given, not_exists]
  exact forall_congr' fun text => not_congr filter_eq_some_iff

theorem filter_some_of_ne {text : String} (h : text ≠ "") :
    (some text).filter (· != "") = some text :=
  filter_eq_some_iff.mpr ⟨h, rfl⟩

instance (setting : Option String) : Decidable (Given setting) :=
  match setting with
  | none => isFalse nofun
  | some text => decidable_of_iff (text ≠ "")
      ⟨fun h => ⟨text, h, rfl⟩, fun ⟨_, h, heq⟩ => Option.some.inj heq ▸ h⟩

namespace EndpointConfig

/-- No extra parameter has a reserved name, and the settings of the client from which headers are
made are texts. -/
structure Valid (c : EndpointConfig) : Prop where
  modelKwargs : ∀ key ∈ c.modelKwargs.keys, key ∉ reservedKwargs
  headers : ∀ value, ("headers", value) ∈ c.serverKwargs →
    ∃ fields, value = .obj fields ∧ ∀ field ∈ fields, ∃ text, field.2 = .str text
  billTo : ∀ value, ("bill_to", value) ∈ c.serverKwargs → ∃ who, value = .str who

/-- The target of an endpoint: the one setting of three that is given, or the fallback if none
is. -/
inductive Targets (c : EndpointConfig) (fallback : Option String) : String → Prop
  | model {t : String} (ht : t ≠ "") (h : c.model = some t) (hurl : ¬ Given c.endpointUrl)
    (hrepo : ¬ Given c.repoId) : Targets c fallback t
  | endpointUrl {t : String} (ht : t ≠ "") (h : c.endpointUrl = some t) (hmodel : ¬ Given c.model)
    (hrepo : ¬ Given c.repoId) : Targets c fallback t
  | repoId {t : String} (ht : t ≠ "") (h : c.repoId = some t) (hmodel : ¬ Given c.model)
    (hurl : ¬ Given c.endpointUrl) : Targets c fallback t
  | fallback {t : String} (ht : t ≠ "") (h : fallback = some t) (hmodel : ¬ Given c.model)
    (hurl : ¬ Given c.endpointUrl) (hrepo : ¬ Given c.repoId) : Targets c fallback t

/-- A target that is an address, and no name. -/
def IsAddress (t : String) : Prop :=
  "http://".toList <+: t.toList ∨ "https://".toList <+: t.toList

instance (t : String) : Decidable (IsAddress t) :=
  inferInstanceAs (Decidable (_ ∨ _))

/-- Where a target is found: an address where it says, a name below the router, with the provider
that is given or the one there is otherwise. -/
inductive Locates (c : EndpointConfig) (t : String) : String → Prop
  | address (ht : IsAddress t) : Locates c t t
  | name {router provider : String} (ht : ¬ IsAddress t) (hrouter : IsTrimmed c.routerUrl router)
    (hprovider : provider ≠ "" ∧ c.provider = some provider ∨
      ¬ Given c.provider ∧ provider = "hf-inference") :
    Locates c t (router ++ "/" ++ provider ++ "/models/" ++ t)

variable {c : EndpointConfig}

/-! ## Checks -/

theorem checkModelKwargs_eq_ok_iff :
    c.checkModelKwargs = .ok () ↔ ∀ key ∈ c.modelKwargs.keys, key ∉ reservedKwargs := by
  unfold checkModelKwargs
  dsimp only
  split
  · rename_i h
    rw [List.isEmpty_iff, List.filter_eq_nil_iff] at h
    refine iff_of_true rfl fun key hkey hmem => h key hkey ?_
    exact List.contains_iff_mem.mpr hmem
  · rename_i h
    refine iff_of_false nofun fun hvalid => h ?_
    rw [List.isEmpty_iff, List.filter_eq_nil_iff]
    exact fun key hkey hmem => hvalid key hkey (List.contains_iff_mem.mp hmem)

theorem kind_of_checkModelKwargs {err : Error} (h : c.checkModelKwargs = .error err) :
    err.kind = .config := by
  unfold checkModelKwargs at h
  dsimp only at h
  split at h
  · cases h
  · cases h
    rfl

theorem serverHeader_eq_ok_iff {entry : String × Json} {header : String × String} :
    serverHeader entry = .ok header ↔ entry = (header.1, .str header.2) := by
  obtain ⟨name, value⟩ := entry
  obtain ⟨name', text⟩ := header
  unfold serverHeader
  cases value <;> simp [Json.asString?]

theorem kind_of_serverHeader {entry : String × Json} {err : Error}
    (h : serverHeader entry = .error err) : err.kind = .config := by
  unfold serverHeader at h
  split at h
  · cases h
  · cases h
    rfl

/-- The headers that one setting of the client gives. -/
inductive Gives (entry : String × Json) : List (String × String) → Prop
  | headers {fields : Dict} {headers : List (String × String)} (hkey : entry.1 = "headers")
    (hvalue : entry.2 = .obj fields) (h : fields.mapM serverHeader = .ok headers) :
    Gives entry headers
  | billTo {who : String} (hkey : entry.1 = "bill_to") (hvalue : entry.2 = .str who) :
    Gives entry [(billToHeader, who)]
  | other (hheaders : entry.1 ≠ "headers") (hbill : entry.1 ≠ "bill_to") : Gives entry []

theorem kwargHeaders_eq_ok_iff {entry : String × Json} {headers : List (String × String)} :
    kwargHeaders entry = .ok headers ↔ Gives entry headers := by
  constructor
  · intro h
    unfold kwargHeaders at h
    split at h
    · rename_i hkey
      split at h
      · rename_i fields hobject
        exact .headers hkey (Json.asObject?_eq_some_iff.mp hobject) h
      · cases h
    · rename_i hheaders
      split at h
      · rename_i hkey
        split at h
        · rename_i who hstring
          cases h
          exact .billTo hkey (Json.asString?_eq_some_iff.mp hstring)
        · cases h
      · rename_i hbill
        cases h
        exact .other hheaders hbill
  · intro h
    unfold kwargHeaders
    cases h with
    | headers hkey hvalue h => rw [if_pos hkey, hvalue]; exact h
    | billTo hkey hvalue => rw [hkey, hvalue, if_neg (by decide), if_pos rfl]; rfl
    | other hheaders hbill => rw [if_neg hheaders, if_neg hbill]

theorem kind_of_kwargHeaders {entry : String × Json} {err : Error}
    (h : kwargHeaders entry = .error err) : err.kind = .config := by
  unfold kwargHeaders at h
  split at h
  · split at h
    · obtain ⟨_, -, herror⟩ := mapM_eq_error h
      exact kind_of_serverHeader herror
    · cases h
      rfl
  · split at h
    · split at h
      · cases h
      · cases h
        rfl
    · cases h

/-- A setting of the client is read if and only if it is a text where it has to be. -/
theorem exists_kwargHeaders_eq_ok_iff {entry : String × Json} :
    (∃ headers, kwargHeaders entry = .ok headers) ↔
      (entry.1 = "headers" →
        ∃ fields, entry.2 = .obj fields ∧ ∀ field ∈ fields, ∃ text, field.2 = .str text) ∧
      (entry.1 = "bill_to" → ∃ who, entry.2 = .str who) := by
  have hfields : ∀ fields : Dict, (∃ headers, fields.mapM serverHeader = .ok headers) ↔
      ∀ field ∈ fields, ∃ text, field.2 = .str text := by
    intro fields
    rw [exists_mapM_eq_ok_iff]
    refine forall₂_congr fun field _ => ⟨?_, ?_⟩
    · rintro ⟨header, hheader⟩
      exact ⟨header.2, congrArg Prod.snd (serverHeader_eq_ok_iff.mp hheader)⟩
    · rintro ⟨text, htext⟩
      exact ⟨(field.1, text), serverHeader_eq_ok_iff.mpr (Prod.ext rfl htext)⟩
  simp only [kwargHeaders_eq_ok_iff]
  constructor
  · rintro ⟨headers, hgives⟩
    cases hgives with
    | headers hkey hvalue h =>
      exact ⟨fun _ => ⟨_, hvalue, (hfields _).mp ⟨_, h⟩⟩, fun hbill => by simp [hkey] at hbill⟩
    | billTo hkey hvalue => exact ⟨fun h => by simp [hkey] at h, fun _ => ⟨_, hvalue⟩⟩
    | other hheaders hbill =>
      exact ⟨fun h => absurd h hheaders, fun h => absurd h hbill⟩
  · rintro ⟨hheaders, hbill⟩
    by_cases hkey : entry.1 = "headers"
    · obtain ⟨fields, hvalue, hall⟩ := hheaders hkey
      obtain ⟨headers, h⟩ := (hfields fields).mpr hall
      exact ⟨headers, .headers hkey hvalue h⟩
    · by_cases hkey' : entry.1 = "bill_to"
      · obtain ⟨who, hvalue⟩ := hbill hkey'
        exact ⟨_, .billTo hkey' hvalue⟩
      · exact ⟨[], .other hkey hkey'⟩

theorem serverHeaders_eq_ok_iff {headers : List (String × String)} :
    c.serverHeaders = .ok headers ↔
      ∃ groups, c.serverKwargs.mapM kwargHeaders = .ok groups ∧ headers = groups.flatten := by
  unfold serverHeaders
  constructor
  · intro h
    obtain ⟨groups, hgroups, hflatten⟩ := bind_eq_ok h
    exact ⟨groups, hgroups, (Except.ok.inj hflatten).symm⟩
  · rintro ⟨groups, hgroups, rfl⟩
    rw [hgroups]
    rfl

/-- The checks pass if and only if the extra settings are valid. -/
theorem valid_iff : c.Valid ↔
    c.checkModelKwargs = .ok () ∧ ∃ headers, c.serverHeaders = .ok headers := by
  have hheaders : (∃ headers, c.serverHeaders = .ok headers) ↔
      ∀ entry ∈ c.serverKwargs, ∃ headers, kwargHeaders entry = .ok headers := by
    rw [← exists_mapM_eq_ok_iff]
    simp only [serverHeaders_eq_ok_iff]
    exact ⟨fun ⟨_, groups, h, _⟩ => ⟨groups, h⟩, fun ⟨groups, h⟩ => ⟨_, groups, h, rfl⟩⟩
  rw [checkModelKwargs_eq_ok_iff, hheaders]
  simp only [exists_kwargHeaders_eq_ok_iff]
  constructor
  · intro h
    refine ⟨h.modelKwargs, ?_⟩
    rintro ⟨key, value⟩ hmem
    exact ⟨fun hkey => h.headers value (hkey ▸ hmem), fun hkey => h.billTo value (hkey ▸ hmem)⟩
  · rintro ⟨hkwargs, hentries⟩
    exact ⟨hkwargs, fun value hmem => (hentries _ hmem).1 rfl,
      fun value hmem => (hentries _ hmem).2 rfl⟩

theorem kind_of_serverHeaders {err : Error} (h : c.serverHeaders = .error err) :
    err.kind = .config := by
  unfold serverHeaders at h
  cases hgroups : c.serverKwargs.mapM kwargHeaders with
  | error err' =>
    rw [hgroups] at h
    cases h
    obtain ⟨_, -, herror⟩ := mapM_eq_error hgroups
    exact kind_of_kwargHeaders herror
  | ok groups =>
    rw [hgroups] at h
    cases h

/-! ## Targets -/

variable {fallback : Option String} {t : String}

theorem targets_eq (c : EndpointConfig) : c.targets =
    (c.model.filter (· != "")).toList ++ (c.endpointUrl.filter (· != "")).toList ++
      (c.repoId.filter (· != "")).toList := by
  unfold targets
  simp only [List.filterMap_cons, List.filterMap_nil]
  cases c.model.filter (· != "") <;> cases c.endpointUrl.filter (· != "") <;>
    cases c.repoId.filter (· != "") <;> rfl

/-- The target, by what is left of the settings without the empty ones. -/
theorem targets_iff : c.Targets fallback t ↔
    match c.model.filter (· != ""), c.endpointUrl.filter (· != ""), c.repoId.filter (· != "") with
    | some m, none, none => t = m
    | none, some u, none => t = u
    | none, none, some r => t = r
    | none, none, none => fallback.filter (· != "") = some t
    | _, _, _ => False := by
  constructor
  · intro h
    cases h with
    | model ht h hurl hrepo =>
      rw [filter_eq_some_iff.mpr ⟨ht, h⟩, filter_eq_none_iff.mpr hurl, filter_eq_none_iff.mpr hrepo]
    | endpointUrl ht h hmodel hrepo =>
      rw [filter_eq_some_iff.mpr ⟨ht, h⟩, filter_eq_none_iff.mpr hmodel,
        filter_eq_none_iff.mpr hrepo]
    | repoId ht h hmodel hurl =>
      rw [filter_eq_some_iff.mpr ⟨ht, h⟩, filter_eq_none_iff.mpr hmodel,
        filter_eq_none_iff.mpr hurl]
    | fallback ht h hmodel hurl hrepo =>
      rw [filter_eq_none_iff.mpr hmodel, filter_eq_none_iff.mpr hurl, filter_eq_none_iff.mpr hrepo]
      exact filter_eq_some_iff.mpr ⟨ht, h⟩
  · intro h
    split at h
    · rename_i hmodel hurl hrepo
      obtain ⟨ht, hm⟩ := filter_eq_some_iff.mp hmodel
      exact h ▸ .model ht hm (filter_eq_none_iff.mp hurl) (filter_eq_none_iff.mp hrepo)
    · rename_i hmodel hurl hrepo
      obtain ⟨ht, hu⟩ := filter_eq_some_iff.mp hurl
      exact h ▸ .endpointUrl ht hu (filter_eq_none_iff.mp hmodel) (filter_eq_none_iff.mp hrepo)
    · rename_i hmodel hurl hrepo
      obtain ⟨ht, hr⟩ := filter_eq_some_iff.mp hrepo
      exact h ▸ .repoId ht hr (filter_eq_none_iff.mp hmodel) (filter_eq_none_iff.mp hurl)
    · rename_i hmodel hurl hrepo
      obtain ⟨ht, hf⟩ := filter_eq_some_iff.mp h
      exact .fallback ht hf (filter_eq_none_iff.mp hmodel) (filter_eq_none_iff.mp hurl)
        (filter_eq_none_iff.mp hrepo)
    · cases h

theorem target_eq_ok_iff : c.target fallback = .ok t ↔ c.Targets fallback t := by
  rw [targets_iff, target, targets_eq]
  cases c.model.filter (· != "") <;> cases c.endpointUrl.filter (· != "") <;>
    cases c.repoId.filter (· != "") <;> cases fallback.filter (· != "") <;>
    simp [eq_comm]

theorem kind_of_target {err : Error} (h : c.target fallback = .error err) :
    err.kind = .config := by
  unfold target at h
  split at h
  · split at h
    · cases h
    · cases h
      rfl
  · cases h
  · cases h
    rfl

/-- A target that is given in the settings does not depend on the fallback. -/
theorem Targets.of_given (h : c.Targets fallback t)
    (hgiven : Given c.model ∨ Given c.endpointUrl ∨ Given c.repoId) (other : Option String) :
    c.Targets other t := by
  cases h with
  | model ht h hurl hrepo => exact .model ht h hurl hrepo
  | endpointUrl ht h hmodel hrepo => exact .endpointUrl ht h hmodel hrepo
  | repoId ht h hmodel hurl => exact .repoId ht h hmodel hurl
  | fallback ht h hmodel hurl hrepo =>
    rcases hgiven with hgiven | hgiven | hgiven
    · exact absurd hgiven hmodel
    · exact absurd hgiven hurl
    · exact absurd hgiven hrepo

theorem isAddress_iff : isAddress t = true ↔ IsAddress t := by
  rw [isAddress, Bool.or_eq_true, List.isPrefixOf_iff_prefix, List.isPrefixOf_iff_prefix]
  exact Iff.rfl

theorem providerName_iff {provider : String} :
    (provider ≠ "" ∧ c.provider = some provider ∨
      ¬ Given c.provider ∧ provider = "hf-inference") ↔ provider = c.providerName := by
  rw [← filter_eq_some_iff, ← filter_eq_none_iff, providerName]
  cases c.provider.filter (· != "") <;> simp [eq_comm]

/-- A target is found at one address. -/
theorem locates_iff {url : String} : c.Locates t url ↔ url = c.addressOf t := by
  have hjoin : trimSlashes c.routerUrl ++ "/" ++ c.providerName ++ "/models/" ++ t =
      joinPath c.routerUrl (c.providerName ++ "/models/" ++ t) := by
    simp only [joinPath, String.append_assoc]
  unfold addressOf
  constructor
  · intro h
    cases h with
    | address ht => rw [if_pos (isAddress_iff.mpr ht)]
    | name ht hrouter hprovider =>
      rw [if_neg (mt isAddress_iff.mp ht), isTrimmed_iff.mp hrouter, providerName_iff.mp hprovider,
        hjoin]
  · rintro rfl
    split
    · rename_i ht
      exact .address (isAddress_iff.mp ht)
    · rename_i ht
      rw [← hjoin]
      exact .name (mt isAddress_iff.mpr ht) (isTrimmed_iff.mpr rfl) (providerName_iff.mpr rfl)

end EndpointConfig

/-! ## Endpoints -/

namespace Endpoint

open EndpointConfig

variable {σ : Type} {env : Environment} {c : EndpointConfig} {b : Backend σ}

/-- The endpoint that settings make. -/
theorem ofConfig_eq_ok_iff {e : Endpoint σ} :
    ofConfig env c b = .ok e ↔
      c.checkModelKwargs = .ok () ∧ ∃ headers t, c.serverHeaders = .ok headers ∧
        c.Targets (env.get? "HF_INFERENCE_ENDPOINT") t ∧
        e = ⟨c, c.addressOf t, c.apiToken.or (tokenOfEnvironment env), headers, b⟩ := by
  unfold ofConfig
  constructor
  · intro h
    obtain ⟨_, hcheck, h⟩ := bind_eq_ok h
    obtain ⟨headers, hheaders, h⟩ := bind_eq_ok h
    obtain ⟨url, hurl, h⟩ := bind_eq_ok h
    obtain ⟨t, htarget, rfl⟩ := map_eq_ok hurl
    exact ⟨hcheck, headers, t, hheaders, target_eq_ok_iff.mp htarget, (Except.ok.inj h).symm⟩
  · rintro ⟨hcheck, headers, t, hheaders, htarget, rfl⟩
    rw [hcheck, hheaders, resolveUrl, target_eq_ok_iff.mpr htarget]
    rfl

theorem kind_of_ofConfig {err : Error} (h : ofConfig env c b = .error err) :
    err.kind = .config := by
  unfold ofConfig at h
  cases hcheck : c.checkModelKwargs with
  | error err' =>
    rw [hcheck] at h
    cases h
    exact kind_of_checkModelKwargs hcheck
  | ok _ =>
    cases hheaders : c.serverHeaders with
    | error err' =>
      rw [hcheck, hheaders] at h
      cases h
      exact kind_of_serverHeaders hheaders
    | ok headers =>
      cases hurl : c.resolveUrl (env.get? "HF_INFERENCE_ENDPOINT") with
      | error err' =>
        rw [hcheck, hheaders, hurl] at h
        cases h
        exact kind_of_target (map_eq_error_iff.mp hurl)
      | ok url =>
        rw [hcheck, hheaders, hurl] at h
        cases h

/-- **Which settings make an endpoint, and where it is reached.**  It takes valid extra settings and
one target; all that can go wrong is an error of the settings.  The address is the one at which the
target is found.  A target that is an address itself is not changed by any provider or router, and
the environment has a say in one variable only, and none if a target is given in the settings. -/
theorem ofConfig_accepts (env : Environment) (c : EndpointConfig) (b : Backend σ) :
    let fallback := env.get? "HF_INFERENCE_ENDPOINT"
    ((∃ e, ofConfig env c b = .ok e) ↔ c.Valid ∧ ∃ t, c.Targets fallback t) ∧
    (∀ err, ofConfig env c b = .error err → err.kind = .config) ∧
    ∀ e t, ofConfig env c b = .ok e → c.Targets fallback t →
      (∀ url, c.Locates t url ↔ url = e.url) ∧
      (IsAddress t → ∀ provider router, ∃ e',
        ofConfig env { c with provider := provider, routerUrl := router } b = .ok e' ∧
          e'.url = e.url) ∧
      ∀ env', Given c.model ∨ Given c.endpointUrl ∨ Given c.repoId ∨
          env'.get? "HF_INFERENCE_ENDPOINT" = fallback →
        ∃ e', ofConfig env' c b = .ok e' ∧ e'.url = e.url := by
  intro fallback
  refine ⟨?_, fun err => kind_of_ofConfig, ?_⟩
  · rw [valid_iff]
    constructor
    · rintro ⟨e, he⟩
      obtain ⟨hcheck, headers, t, hheaders, htarget, -⟩ := ofConfig_eq_ok_iff.mp he
      exact ⟨⟨hcheck, headers, hheaders⟩, t, htarget⟩
    · rintro ⟨⟨hcheck, headers, hheaders⟩, t, htarget⟩
      exact ⟨_, ofConfig_eq_ok_iff.mpr ⟨hcheck, headers, t, hheaders, htarget, rfl⟩⟩
  · intro e t he htarget
    obtain ⟨hcheck, headers, t', hheaders, htarget', rfl⟩ := ofConfig_eq_ok_iff.mp he
    have hok : c.target fallback = .ok t := target_eq_ok_iff.mpr htarget
    obtain rfl : t' = t := Except.ok.inj ((target_eq_ok_iff.mpr htarget').symm.trans hok)
    refine ⟨fun url => locates_iff, fun haddress provider router => ?_, fun env' hsame => ?_⟩
    · have htarget'' : Targets { c with provider := provider, routerUrl := router } fallback t' :=
        target_eq_ok_iff.mp hok
      refine ⟨_, ofConfig_eq_ok_iff.mpr ⟨hcheck, headers, t', hheaders, htarget'', rfl⟩, ?_⟩
      show addressOf _ t' = c.addressOf t'
      rw [addressOf, addressOf, if_pos (isAddress_iff.mpr haddress),
        if_pos (isAddress_iff.mpr haddress)]
    · have htarget'' : c.Targets (env'.get? "HF_INFERENCE_ENDPOINT") t' := by
        rcases hsame with hgiven | hgiven | hgiven | hsame
        · exact htarget.of_given (.inl hgiven) _
        · exact htarget.of_given (.inr (.inl hgiven)) _
        · exact htarget.of_given (.inr (.inr hgiven)) _
        · rwa [hsame]
      exact ⟨_, ofConfig_eq_ok_iff.mpr ⟨hcheck, headers, t', hheaders, htarget'', rfl⟩, rfl⟩

/-- A name below a router that is written with slashes at its end; an empty provider and an empty
address are as good as none.  Where the environment has a name the settings count, and a reserved
name among the extra parameters is refused. -/
theorem ofConfig_accepts_name :
    let env : Environment := ⟨[("HF_INFERENCE_ENDPOINT", "org/other")]⟩
    let c : EndpointConfig :=
      { EndpointConfig.standard with
        repoId := some "org/m", endpointUrl := some "", provider := some "",
        routerUrl := "http://router//" }
    (∃ e, ofConfig env c (Bench.backend 0) = .ok e ∧
      e.url = "http://router/hf-inference/models/org/m") ∧
    ∃ err, ofConfig env (c.withModelKwarg "seed" .null) (Bench.backend 0) = .error err ∧
      err.kind = .config := by
  intro env c
  obtain ⟨haccepts, -, hlocates⟩ := ofConfig_accepts env c (Bench.backend 0)
  have htarget : c.Targets (env.get? "HF_INFERENCE_ENDPOINT") "org/m" :=
    .repoId (by decide) rfl (by decide) (by decide)
  obtain ⟨e, he⟩ := haccepts.mpr ⟨⟨nofun, nofun, nofun⟩, _, htarget⟩
  have hfound : c.Locates "org/m"
      ("http://router" ++ "/" ++ "hf-inference" ++ "/models/" ++ "org/m") :=
    .name (by decide) (isTrimmed_iff.mpr (by decide)) (.inr (by decide))
  obtain ⟨-, hkind, -⟩ := ofConfig_accepts env (c.withModelKwarg "seed" .null) (Bench.backend 0)
  exact ⟨⟨e, he, ((hlocates e "org/m" he htarget).1 _).mp hfound ▸ rfl⟩, _, rfl, hkind _ rfl⟩

end Endpoint

end HuggingFace

end RetrievalKit
