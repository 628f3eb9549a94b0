import TxGateway.Proofs.Redaction
import TxGateway.Roster
import TxGateway.Settings.Validation

namespace TxGateway

/-! # Settings that differ in secrets

The gateway hands secrets on and does not look at them, with one exception: a node proxy takes part
only if its key is not blank. A mask replaces every secret as it would be written, and of the key of
the node proxy it leaves whether it is blank. Whatever else settings decide, the mask decides too.

* `Settings.Alike` says that settings differ in nothing but secrets.
* `Settings.masked` is the mask, and `Settings.alike_iff` says that it is the same for settings that
  are alike.
* `Settings.validate_masked`, `Settings.miners_masked` and `Roster.providers_masked` are what the
  mask decides.
-/

/-! ## Secrets that are left out -/

theorem Secret.redacted_comp_redacted : Secret.redacted ∘ Secret.redacted = Secret.redacted := rfl

theorem Miner.redacted_redacted (m : Miner) : m.redacted.redacted = m.redacted := by
  simp only [redacted, Option.map_map, Secret.redacted_comp_redacted]

theorem Endpoint.redacted_redacted (e : Endpoint) : e.redacted.redacted = e.redacted := by
  simp only [redacted, Option.map_map, Secret.redacted_comp_redacted]

/-! ## The mask -/

namespace Secret

/-- A secret of which nothing is left but whether it is blank. -/
def masked (s : Secret) : Secret := if s.isBlank then ⟨""⟩ else ⟨redaction⟩

theorem redacted_comp_masked : redacted ∘ masked = redacted := rfl

theorem isBlank_masked (s : Secret) : s.masked.isBlank = s.isBlank := by
  unfold masked
  by_cases h : s.isBlank
  · simp only [h, if_true]
    decide
  · simp only [h, if_false, Bool.false_eq_true]
    decide

theorem masked_congr {s t : Secret} (h : s.isBlank = t.isBlank) : s.masked = t.masked := by
  unfold masked
  rw [h]

theorem isSome_usable?_map_masked (s : Option Secret) :
    (usable? (s.map masked)).isSome = (usable? s).isSome := by
  cases s with
  | none => rfl
  | some s => simp [usable?, Option.filter, isBlank_masked, apply_ite Option.isSome]

end Secret

namespace Endpoint

def masked (e : Endpoint) : Endpoint := { e with apiKey := e.apiKey.map Secret.masked }

theorem redacted_masked (e : Endpoint) : e.masked.redacted = e.redacted := by
  simp only [masked, redacted, Option.map_map, Secret.redacted_comp_masked]

/-- There is a key, and nothing in it. -/
def hasBlankKey (e : Endpoint) : Bool := e.apiKey.any Secret.isBlank

theorem hasBlankKey_masked (e : Endpoint) : e.masked.hasBlankKey = e.hasBlankKey := by
  simp only [hasBlankKey, masked, Option.any_map, Secret.isBlank_masked]

theorem masked_congr {e f : Endpoint} (h : e.redacted = f.redacted)
    (hkey : e.hasBlankKey = f.hasBlankKey) : e.masked = f.masked := by
  obtain ⟨url, key⟩ := e
  obtain ⟨url', key'⟩ := f
  obtain ⟨rfl, hsame⟩ := Endpoint.mk.inj h
  match key, key' with
  | none, none => rfl
  | some s, some t => simp only [masked, Option.map_some, Secret.masked_congr hkey]
  | none, some _ | some _, none => simp at hsame

theorem isSome_credential?_masked (e : Endpoint) :
    e.masked.credential?.isSome = e.credential?.isSome :=
  Secret.isSome_usable?_map_masked e.apiKey

end Endpoint

namespace Settings

/-- Settings with every secret redacted, but of the node proxy's key whether it is blank. -/
def masked (s : Settings) : Settings :=
  { s.redacted with nodeProxy := s.nodeProxy.map Endpoint.masked }

/-- The node proxy has a key, and there is nothing in it. -/
def hasBlankNodeKey (s : Settings) : Bool := s.nodeProxy.any Endpoint.hasBlankKey

/-- Settings differ in nothing but what their secrets are. The same ones are there, and the key of
the node proxy is blank in both or in neither. -/
structure Alike (a b : Settings) : Prop where
  redacted : a.redacted = b.redacted
  nodeKey : a.hasBlankNodeKey = b.hasBlankNodeKey

theorem redacted_masked (s : Settings) : s.masked.redacted = s.redacted := by
  simp only [masked, redacted, Option.map_map, List.map_map, Function.comp_def,
    Miner.redacted_redacted, Endpoint.redacted_redacted, Endpoint.redacted_masked]
  rfl

theorem hasBlankNodeKey_masked (s : Settings) : s.masked.hasBlankNodeKey = s.hasBlankNodeKey := by
  simp only [hasBlankNodeKey, masked, Option.any_map, Endpoint.hasBlankKey_masked]

/-- To be alike is to have the same mask. -/
theorem alike_iff {a b : Settings} : a.Alike b ↔ a.masked = b.masked := by
  constructor
  · rintro ⟨hredacted, hkey⟩
    have hproxy : a.nodeProxy.map Endpoint.redacted = b.nodeProxy.map Endpoint.redacted :=
      congrArg Settings.nodeProxy hredacted
    have hmasked : a.nodeProxy.map Endpoint.masked = b.nodeProxy.map Endpoint.masked := by
      unfold hasBlankNodeKey at hkey
      match a.nodeProxy, b.nodeProxy, hproxy, hkey with
      | none, none, _, _ => rfl
      | some e, some f, hproxy, hkey =>
        rw [Option.map_some, Option.map_some, Endpoint.masked_congr (Option.some.inj hproxy) hkey]
    unfold masked
    rw [hredacted, hmasked]
  · intro h
    refine ⟨?_, ?_⟩
    · rw [← a.redacted_masked, h, b.redacted_masked]
    · rw [← a.hasBlankNodeKey_masked, h, b.hasBlankNodeKey_masked]

end Settings

/-! ## What the mask decides -/

namespace Violation

theorem inMiners_redacted (list : Purpose) (before : List String) (ms : List Miner) :
    inMiners list before (ms.map Miner.redacted) = inMiners list before ms := by
  induction ms generalizing before with
  | nil => rfl
  | cons m rest ih =>
    simp only [List.map_cons, inMiners, ih]
    rfl

theorem inVerifiers_redacted (position : Nat) (vs : List Verifier) :
    inVerifiers position (vs.map Verifier.redacted) = inVerifiers position vs := by
  induction vs generalizing position with
  | nil => rfl
  | cons v rest ih =>
    simp only [List.map_cons, inVerifiers, ih]
    rfl

end Violation

namespace Settings

theorem miners_masked (s : Settings) (p : Purpose) :
    s.masked.miners p = (s.miners p).map Miner.redacted := by
  have hnamed : s.masked.namedMiners p = (s.namedMiners p).map (List.map Miner.redacted) := by
    cases p <;> rfl
  unfold miners
  rw [hnamed]
  -- the built-in miners have no tokens
  cases s.namedMiners p <;> rfl

theorem isSome_nodeProxyCredential?_masked (s : Settings) :
    s.masked.nodeProxyCredential?.isSome = s.nodeProxyCredential?.isSome := by
  unfold nodeProxyCredential?
  show ((s.nodeProxy.map Endpoint.masked).bind Endpoint.credential?).isSome = _
  cases s.nodeProxy with
  | none => rfl
  | some e => exact e.isSome_credential?_masked

theorem violations_masked (s : Settings) : s.masked.violations = s.violations := by
  have hminers : ∀ list (ms : Option (List Miner)),
      Violation.inMiners list [] ((ms.map (List.map Miner.redacted)).getD []) =
        Violation.inMiners list [] (ms.getD []) := by
    intro list ms
    cases ms with
    | none => rfl
    | some ms => exact Violation.inMiners_redacted list [] ms
  unfold violations
  simp only [masked, redacted, hminers, Violation.inVerifiers_redacted, Option.any_map]
  rfl

theorem validate_masked (s : Settings) : s.masked.validate = s.validate := by
  unfold validate
  rw [violations_masked]

/-! ## Settings that are alike -/

variable {a b : Settings}

theorem Alike.validate_eq (h : a.Alike b) : a.validate = b.validate := by
  rw [← a.validate_masked, alike_iff.mp h, b.validate_masked]

theorem Alike.toDocument_eq (h : a.Alike b) : a.toDocument = b.toDocument := by
  rw [← a.toDocument_redacted, h.redacted, b.toDocument_redacted]

theorem Alike.minersDocument_eq (h : a.Alike b) (p : Purpose) :
    minersDocument (a.miners p) = minersDocument (b.miners p) := by
  rw [← minersDocument_redacted, ← a.miners_masked, alike_iff.mp h, b.miners_masked,
    minersDocument_redacted]

theorem Alike.isSome_nodeProxyCredential?_eq (h : a.Alike b) :
    a.nodeProxyCredential?.isSome = b.nodeProxyCredential?.isSome := by
  rw [← a.isSome_nodeProxyCredential?_masked, alike_iff.mp h,
    b.isSome_nodeProxyCredential?_masked]

end Settings

/-! ## Who takes part -/

/-- The provider, a miner without its token. -/
def Provider.redacted : Provider → Provider
  | .miner m => .miner m.redacted
  | .outlet o name => .outlet o name

def MinerLists.redacted (m : MinerLists) : MinerLists :=
  { m with broadcast := m.broadcast.map Miner.redacted, query := m.query.map Miner.redacted }

theorem MinerLists.list_redacted (m : MinerLists) (p : Purpose) :
    m.redacted.list p = (m.list p).map Miner.redacted := by
  cases p <;> rfl

namespace Roster

theorem admits_masked (s : Settings) (p : Purpose) (o : Outlet) :
    admits s.masked p o = admits s p o := by
  cases o with
  | nodeProxy =>
    unfold admits
    simp only [Settings.isSome_nodeProxyCredential?_masked]
    rfl
  | _ => rfl

/-- The same providers take part, the miners without their tokens. -/
theorem providers_masked (s : Settings) (m : MinerLists) (c : Connections) (p : Purpose) :
    providers s.masked m.redacted c p = (providers s m c p).map Provider.redacted := by
  have hminers : miners s.masked m.redacted c p = (miners s m c p).map Provider.redacted := by
    unfold miners
    show (if admitsMiners s c && m.probed then _ else _) = _
    split
    · rw [MinerLists.list_redacted, List.map_map, List.map_map]
      rfl
    · rfl
  have houtlet : ∀ o, outlet s.masked c p o = (outlet s c p o).map Provider.redacted := by
    intro o
    unfold outlet
    rw [admits_masked]
    split
    · cases c.outlet o <;> rfl
    · rfl
  simp only [providers, hminers, houtlet, List.map_append]

end Roster

end TxGateway
