import TxGateway.Http.Services
import TxGateway.Proofs.Gateway.Eligibility
import TxGateway.Proofs.Gateway.Soundness

namespace TxGateway.Http

/-! # The network of an explorer

An explorer serves each network under a path of its own. The services that a gateway is connected to
are made of the settings that it is built from, and an update does not reach them. So an update with
another network changes what the gateway says of itself and which families take part, but explorers
are asked under the path of the first network for as long as the gateway lives.

* `Explorer.Under` says that an address lies under the path of a network, and
  `Explorer.Under.unique` that there is no other network for which it does.
* `Services.exchange?_under` tells the address of every exchange with an explorer.
* `explorers_keep_first_network` is about all calls of a gateway in use.
-/

/-! ## Addresses -/

namespace Explorer

/-- The address lies under the path of a network, behind the base of the explorer. This is the address
that a draft names, and a request is made of it by `Url.parse?`: an id with dots in it, or a base with
a query, may still lead the request elsewhere. -/
def Under (e : Endpoint) (n : Network) (address : String) : Prop :=
  ∃ rest, address = Text.trimEndOf (· == '/') e.url ++ "/" ++ n.name ++ "/" ++ rest

/-- The name of a network stands between two slashes as it is. -/
theorem join_name (base : String) (n : Network) :
    Url.join base n.name = Text.trimEndOf (· == '/') base ++ "/" ++ n.name := by
  cases n <;> rfl

theorem trimEndOf_append_name (s : String) (n : Network) :
    Text.trimEndOf (· == '/') (s ++ n.name) = s ++ n.name := by
  cases n <;> simp [Text.trimEndOf, Network.name]

theorem address_eq (e : Endpoint) (n : Network) (path : String) :
    address e n path = Text.trimEndOf (· == '/') e.url ++ "/" ++ n.name ++ "/" ++
      Text.trimStartOf (· == '/') path := by
  rw [address, join_name, Url.join, trimEndOf_append_name]

theorem under_address (e : Endpoint) (n : Network) (path : String) :
    Under e n (address e n path) :=
  ⟨_, address_eq e n path⟩

theorem Under.unique {e : Endpoint} {n n' : Network} {address : String} (h : Under e n address)
    (h' : Under e n' address) : n' = n := by
  rcases h with ⟨rest, rfl⟩
  rcases h' with ⟨rest', h'⟩
  -- behind the same base there are two names, each followed by a slash
  have hnames : n.name.toList ++ '/' :: rest.toList = n'.name.toList ++ '/' :: rest'.toList := by
    have hchars := congrArg String.toList h'
    simpa [String.toList_append] using hchars
  cases n <;> cases n' <;> simp [Network.name] at hnames ⊢

theorem under_iff {e : Endpoint} {n n' : Network} {address : String} (h : Under e n address) :
    Under e n' address ↔ n' = n := by
  constructor
  · intro h'
    exact h.unique h'
  · rintro rfl
    exact h

end Explorer

/-! ## Exchanges -/

namespace Services

/-- The explorer behind an outlet. -/
def explorerAt? (s : Services) : Outlet → Option Endpoint
  | .explorer => some s.explorer
  | .secondaryExplorer => s.secondaryExplorer
  | .nodeProxy => none

theorem address_withHeader? (d : Draft) (name : String) (value : Option String) :
    (d.withHeader? name value).address = d.address := by
  cases value <;> rfl

/-- Neither a key nor the name of a sender changes where a request goes. -/
theorem address_publish (s : Services) (e : Endpoint) (hex : String) :
    (s.signed (Explorer.publish e s.network hex)).draft.address =
      Explorer.address e s.network "tx/raw" :=
  (address_withHeader? _ _ _).trans (address_withHeader? _ _ _)

theorem address_find (s : Services) (e : Endpoint) (id : String) :
    (s.signed (Explorer.find e s.network id)).draft.address =
      Explorer.address e s.network ("tx/hash/" ++ id) :=
  (address_withHeader? _ _ _).trans (address_withHeader? _ _ _)

section

variable {s : Services} {outlet : Outlet} {e : Endpoint} (he : s.explorerAt? outlet = some e)
include he

theorem explorerAt?_eq_some : (outlet = .explorer ∧ s.explorer = e) ∨
    (outlet = .secondaryExplorer ∧ s.secondaryExplorer = some e) := by
  cases outlet with
  | explorer => exact .inl ⟨rfl, Option.some.inj he⟩
  | secondaryExplorer => exact .inr ⟨rfl, he⟩
  | nodeProxy => cases he

theorem exchange?_publish (hex : String) :
    s.exchange? (.publish outlet hex) = some (s.signed (Explorer.publish e s.network hex)) := by
  rcases explorerAt?_eq_some he with ⟨rfl, rfl⟩ | ⟨rfl, hsecond⟩
  · rfl
  · rw [exchange?, hsecond, Option.map_some]

theorem exchange?_find (id : String) :
    s.exchange? (.find outlet id) = some (s.signed (Explorer.find e s.network id)) := by
  rcases explorerAt?_eq_some he with ⟨rfl, rfl⟩ | ⟨rfl, hsecond⟩
  · rfl
  · rw [exchange?, hsecond, Option.map_some]

/-- An exchange with an explorer goes to an address under the network of the services. -/
theorem exchange?_under {c : Call} (hcall : c.addressee = .outlet outlet) :
    ∃ x, s.exchange? c = some x ∧ Explorer.Under e s.network x.draft.address := by
  cases c with
  | publish o hex =>
    cases hcall
    refine ⟨_, exchange?_publish he hex, ?_⟩
    rw [s.address_publish e hex]
    exact Explorer.under_address e s.network _
  | find o id =>
    cases hcall
    refine ⟨_, exchange?_find he id, ?_⟩
    rw [s.address_find e id]
    exact Explorer.under_address e s.network _
  | submit m hex => cases hcall
  | status m id => cases hcall
  | quote dialect m => cases hcall
  | verify position roots => cases hcall

end

/-- A request goes to the address of its exchange. -/
theorem url_of_request {s : Services} {c : Call} {x : Exchange c.Answer} {r : Request}
    (hx : s.exchange? c = some x) (hr : s.request? c = some r) :
    Url.parse? x.draft.address = some r.url := by
  rw [request?, hx, Option.bind_some, Draft.request?] at hr
  rcases Option.bind_eq_some_iff.mp hr with ⟨url, hurl, hr⟩
  split at hr
  · cases hr
    exact hurl
  · cases hr

/-- An explorer that a gateway is connected to is there. -/
theorem exists_explorerAt {s : Services} {outlet : Outlet} (h : s.connections.Has outlet.family)
    (hne : outlet ≠ .nodeProxy) : ∃ e, s.explorerAt? outlet = some e := by
  cases outlet with
  | explorer => exact ⟨s.explorer, rfl⟩
  | secondaryExplorer =>
    rcases h with ⟨name, hname⟩
    rcases Option.map_eq_some_iff.mp hname with ⟨e, he, _⟩
    exact ⟨e, he⟩
  | nodeProxy => exact absurd rfl hne

end Services

/-! ## Gateways in use -/

/-- A call to an outlet is made only if its family is admitted. -/
theorem admitted_of_eligible {o : Origin} {s : Settings} {c : Call} {outlet : Outlet}
    (h : Eligible o s c) (hcall : c.addressee = .outlet outlet) :
    Admitted s o.connections outlet.family := by
  cases c with
  | publish x hex =>
    cases hcall
    exact h.2
  | find x id =>
    cases hcall
    exact h
  | submit m hex => cases hcall
  | status m id => cases hcall
  | quote dialect m => cases hcall
  | verify position roots => cases hcall

/-- **Explorers stay with the network that the gateway was built for.** Whatever updates have been
accepted, every exchange with an explorer is addressed to the path of the network in the first
settings. It is addressed to the path of the network that the gateway reports if and only if that one
is the same. The addresses are those that are handed on to be read; what a request makes of them is
told for plain bases and ids by `Explorer.targets_under_network`. -/
theorem explorers_keep_first_network (o : Origin) (agent : Option String)
    (hconnections : o.connections = (Services.ofSettings o.settings agent).connections)
    (g : Gateway) (hbuild : o.build.result = .ok g) (before : List Use) (w : World)
    (now : Instant) (u : Use) :
    let services := Services.ofSettings o.settings agent
    let g := g.afterAll before
    let reported := g.settings.network
    reported = (lastAccepted o.settings before).network ∧
    ∀ t ∈ g.calls w now u, ∀ outlet, t.call.addressee = .outlet outlet → outlet ≠ .nodeProxy →
      ∃ e x, services.explorerAt? outlet = some e ∧ services.exchange? t.call = some x ∧
        (∀ r, services.request? t.call = some r → Url.parse? x.draft.address = some r.url) ∧
        Explorer.Under e o.settings.network x.draft.address ∧
        (Explorer.Under e reported x.draft.address ↔ reported = o.settings.network) := by
  intro services g reported
  have hreported : reported = (lastAccepted o.settings before).network := by
    simp only [reported, g, Gateway.afterAll_settings, Origin.settings_of_build hbuild]
  refine ⟨hreported, ?_⟩
  intro t ht outlet hcall hne
  have heligible := ((descends_of_build hbuild).afterAll before).eligible_of_mem_calls ht
  have hconnected := (admitted_of_eligible heligible hcall).connected
  rw [hconnections] at hconnected
  rcases Services.exists_explorerAt hconnected hne with ⟨e, he⟩
  rcases Services.exchange?_under he hcall with ⟨x, hx, hunder⟩
  exact ⟨e, x, he, hx, fun r hr => Services.url_of_request hx hr, hunder,
    Explorer.under_iff hunder⟩

/-- Settings with an explorer, and no other provider. -/
def oneExplorer (n : Network) : Settings where
  network := n
  excluded := [.miner]
  explorer := ⟨"http://explorer.example/v1/", none⟩

/-- An origin with the services that settings name, when nobody answers. -/
def unanswered (s : Settings) : Origin where
  world := fun _ _ => .silence
  start := 0
  clock := ⟨⟨2025, 1, 1⟩, 12, 0, 0, 0⟩
  settings := s
  connections := (Services.ofSettings s none).connections

/-- After an update to another network and one back again, the explorer is asked under the network
that the gateway reports. -/
theorem explorer_asked_under_restored_network :
    let o := unanswered (oneExplorer .main)
    let services := Services.ofSettings o.settings none
    let g := Gateway.withoutMiners o.settings o.connections
    let before := [.update (oneExplorer .test), .update (oneExplorer .main)]
    let later := g.afterAll before
    o.build.result = .ok g ∧ later.settings.network = .main ∧
      ∃ t ∈ later.calls o.world 0 (.search Search.trialId .mempool 10),
        t.call = .find .explorer Search.trialId ∧
        ∃ e x, services.explorerAt? .explorer = some e ∧ services.exchange? t.call = some x ∧
          Explorer.Under e later.settings.network x.draft.address := by
  intro o services g before later
  have hbuild : o.build.result = .ok g := by decide
  have hcalls : (later.calls o.world 0 (.search Search.trialId .mempool 10)).map CallTrace.call =
      [.find .explorer Search.trialId] := by decide
  rcases List.mem_map.mp (hcalls ▸ List.mem_singleton.mpr rfl) with ⟨t, ht, hcall⟩
  rcases explorers_keep_first_network o none rfl g hbuild before o.world 0
    (.search Search.trialId .mempool 10) with ⟨hreported, hunder⟩
  rcases hunder t ht .explorer (by rw [hcall]; rfl) nofun with ⟨e, x, he, hx, _, _, hiff⟩
  have hmain : later.settings.network = .main := hreported.trans (by decide)
  exact ⟨hbuild, hmain, t, ht, hcall, e, x, he, hx, hiff.mpr hmain⟩

/-- After an update to the test network, the gateway reports this network, and hands a transaction
to its explorer for the main network. -/
theorem explorer_asked_under_other_network :
    let o := unanswered (oneExplorer .main)
    let services := Services.ofSettings (oneExplorer .main) none
    let g := Gateway.withoutMiners o.settings o.connections
    let later := g.afterAll [.update (oneExplorer .test)]
    let u := Use.broadcast Search.trialId "00" 10 {}
    o.connections = services.connections ∧ o.build.result = .ok g ∧
      later.settings.network = .test ∧
      (later.calls o.world 0 u).map CallTrace.call = [.publish .explorer "00"] ∧
      (services.request? (.publish .explorer "00")).map (fun r => r.url.target) =
        some "/v1/main/tx/raw" ∧
      ∀ x, services.exchange? (.publish .explorer "00") = some x →
        ¬ Explorer.Under services.explorer later.settings.network x.draft.address := by
  intro o services g later u
  have htarget : (services.request? (.publish .explorer "00")).map (fun r => r.url.target) =
      some "/v1/main/tx/raw" := by
    decide +kernel
  have htest : later.settings.network = .test := by decide
  refine ⟨rfl, by decide, htest, by decide, htarget, ?_⟩
  intro x hx hunder
  have hmain : Explorer.Under services.explorer .main x.draft.address := by
    cases hx
    rw [Services.address_publish]
    exact Explorer.under_address _ _ _
  rw [htest] at hunder
  cases hmain.unique hunder

end TxGateway.Http
