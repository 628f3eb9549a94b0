import TxGateway.Settings.Validation

namespace TxGateway

/-! # Faults of settings

Validation looks at settings one spot after the other: at the time limits, at each miner of the two
lists, and at the other addresses. It stops at the first spot that is at fault.

* `Settings.WellFormed` says what settings have to be like, with no order in it.
* `Settings.Fault` tells which spot is at fault and what is wrong there, and `Spot.Before` which of
  two spots is looked at first. Both are about the settings alone, not about how they are checked.
* `tells_violations` says that what validation lists are the faults in their order. It is put
  together from lists of miners, each by induction, and from single spots.
* `Settings.validate_tells_first_fault` is what this comes to for settings as a whole.
-/

/-- The text has a character that is no white space. -/
def Text.IsSolid (t : String) : Prop := ∃ c ∈ t.toList, Text.isBlank c = false

theorem Text.isBlankText_iff {t : String} : Text.isBlankText t = true ↔ ¬ Text.IsSolid t := by
  simp [Text.isBlankText, Text.IsSolid]

/-- Settings that can be worked with. A list of miners counts only if the settings have one. -/
structure Settings.WellFormed (s : Settings) : Prop where
  limits : ∀ l, 0 < s.seconds l
  miners : ∀ list ms, s.namedMiners list = some ms →
    (∀ m ∈ ms, Text.IsSolid m.id ∧ Text.IsSolid m.url) ∧ (ms.map Miner.id).Nodup
  explorer : Text.IsSolid s.explorer.url
  secondaryExplorer : ∀ e ∈ s.secondaryExplorer, Text.IsSolid e.url
  nodeProxy : ∀ e ∈ s.nodeProxy, Text.IsSolid e.url
  verifiers : ∀ v ∈ s.verifiers, Text.IsSolid v.url

/-! ## Spots -/

/-- What is looked at in a miner. -/
inductive MinerAspect where
  | id
  | url
  /-- Whether a miner in front has the same id. -/
  | repetition
deriving DecidableEq

/-- What a message calls a miner by. -/
def MinerAspect.label (m : Miner) : MinerAspect → String
  | .id | .url => m.name
  | .repetition => m.id

/-- The number of an aspect in the order in which they are looked at. -/
def MinerAspect.number : MinerAspect → Nat
  | .id => 0
  | .url => 1
  | .repetition => 2

/-- What is looked at in settings. -/
inductive Spot where
  | limit (l : Limit)
  | miner (list : Purpose) (position : Nat) (aspect : MinerAspect)
  | explorer
  | secondaryExplorer
  | nodeProxy
  | verifier (position : Nat)
deriving DecidableEq

namespace Spot

/-- The name of the setting. -/
def field : Spot → String
  | .limit l => l.memberName
  | .miner list _ _ => Violation.listName list
  | .explorer => "explorer.url"
  | .secondaryExplorer => "secondary_explorer.url"
  | .nodeProxy => "node_proxy.url"
  | .verifier position => s!"merkle_verifiers[{position}].url"

/-- The number of a list of miners among the parts of the settings. -/
def listPart : Purpose → Nat
  | .broadcast => 4
  | .query => 5

/-- The number of the part of the settings that the spot belongs to. -/
def part : Spot → Nat
  | .limit .query => 0
  | .limit .broadcast => 1
  | .limit .merkle => 2
  | .limit .feeProbe => 3
  | .miner list _ _ => listPart list
  | .explorer => 6
  | .secondaryExplorer => 7
  | .nodeProxy => 8
  | .verifier _ => 9

/-- Where the spot stands in a list, zero outside lists. -/
def position : Spot → Nat
  | .miner _ position _ | .verifier position => position
  | _ => 0

/-- The number of the aspect, zero outside lists of miners. -/
def aspect : Spot → Nat
  | .miner _ _ aspect => aspect.number
  | _ => 0

/-- The spot stands in a list. -/
def isListed : Spot → Bool
  | .miner .. | .verifier _ => true
  | _ => false

/-- The one spot is looked at before the other: part by part, in a list by position, and in a miner
by aspect. -/
def Before (a b : Spot) : Prop :=
  a.part < b.part ∨ a.part = b.part ∧
    (a.position < b.position ∨ a.position = b.position ∧ a.aspect < b.aspect)

theorem Before.asymm {a b : Spot} (h : a.Before b) : ¬ b.Before a := by
  unfold Before at h ⊢
  omega

theorem before_of_part {a b : Spot} (h : a.part < b.part) : a.Before b := .inl h

theorem before_of_position {a b : Spot} (hpart : a.part = b.part)
    (h : a.position < b.position) : a.Before b := .inr ⟨hpart, .inl h⟩

theorem before_of_aspect {list : Purpose} {n : Nat} {a b : MinerAspect}
    (h : a.number < b.number) : (Spot.miner list n a).Before (.miner list n b) :=
  .inr ⟨rfl, .inr ⟨rfl, h⟩⟩

theorem listPart_inj {a b : Purpose} : listPart a = listPart b ↔ a = b := by
  cases a <;> cases b <;> decide

/-- The spot that is a part by itself. -/
def single? : Nat → Option Spot
  | 0 => some (.limit .query)
  | 1 => some (.limit .broadcast)
  | 2 => some (.limit .merkle)
  | 3 => some (.limit .feeProbe)
  | 6 => some .explorer
  | 7 => some .secondaryExplorer
  | 8 => some .nodeProxy
  | _ => none

theorem single?_part (a : Spot) : single? a.part = if a.isListed then none else some a := by
  rcases a with (_ | _ | _ | _) | ⟨_ | _, _, _⟩ | _ | _ | _ | _ <;> rfl

/-- A spot outside lists is a part by itself. -/
theorem part_eq_iff {a b : Spot} (hb : b.isListed = false) : a.part = b.part ↔ a = b := by
  constructor
  · intro h
    have ha := single?_part a
    rw [h, single?_part, hb] at ha
    cases hlisted : a.isListed with
    | false => simpa [hlisted, eq_comm] using ha
    | true => simp [hlisted] at ha
  · rintro rfl
    rfl

/-- The last part is the list of verifiers. -/
theorem part_eq_nine_iff {a : Spot} : a.part = 9 ↔ ∃ i, a = .verifier i := by
  rcases a with (_ | _ | _ | _) | ⟨_ | _, _, _⟩ | _ | _ | _ | _ <;> simp [part, listPart]

theorem part_lt_ten (a : Spot) : a.part < 10 := by
  rcases a with (_ | _ | _ | _) | ⟨_ | _, _, _⟩ | _ | _ | _ | _ <;> simp [part, listPart]

end Spot

/-! ## Faults -/

/-- A spot of a list of miners is at fault, with what is wrong there. -/
inductive MinerFault (list : Purpose) (ms : List Miner) : Spot → Violation → Prop
  | id {i : Nat} {m : Miner} (hm : ms[i]? = some m) (h : ¬ Text.IsSolid m.id) :
    MinerFault list ms (.miner list i .id) (.minerWithoutId list m.name)
  | url {i : Nat} {m : Miner} (hm : ms[i]? = some m) (h : ¬ Text.IsSolid m.url) :
    MinerFault list ms (.miner list i .url) (.minerWithoutUrl list m.name)
  | repetition {i j : Nat} {m other : Miner} (hm : ms[i]? = some m) (hj : j < i)
    (hother : ms[j]? = some other) (h : other.id = m.id) :
    MinerFault list ms (.miner list i .repetition) (.repeatedMiner list m.id)

namespace Settings

/-- A spot of settings is at fault, with what is wrong there. -/
inductive Fault (s : Settings) : Spot → Violation → Prop
  | limit {l : Limit} (h : s.seconds l = 0) : Fault s (.limit l) (.zeroLimit l)
  | miner {list : Purpose} {ms : List Miner} {spot : Spot} {v : Violation}
    (hlist : s.namedMiners list = some ms) (h : MinerFault list ms spot v) : Fault s spot v
  | explorer (h : ¬ Text.IsSolid s.explorer.url) : Fault s .explorer .explorerWithoutUrl
  | secondaryExplorer {e : Endpoint} (he : s.secondaryExplorer = some e)
    (h : ¬ Text.IsSolid e.url) : Fault s .secondaryExplorer .secondaryExplorerWithoutUrl
  | nodeProxy {e : Endpoint} (he : s.nodeProxy = some e) (h : ¬ Text.IsSolid e.url) :
    Fault s .nodeProxy .nodeProxyWithoutUrl
  | verifier {i : Nat} {v : Verifier} (hv : s.verifiers[i]? = some v)
    (h : ¬ Text.IsSolid v.url) : Fault s (.verifier i) (.verifierWithoutUrl i)

/-- A fault that is met before all others. -/
structure FirstFault (s : Settings) (spot : Spot) (v : Violation) : Prop where
  fault : s.Fault spot v
  first : ∀ other w, s.Fault other w → other = spot ∨ spot.Before other

/-- The message says which spot is meant: it begins with the name of the setting, and it names the
miner. -/
structure Names (s : Settings) (spot : Spot) (message : String) : Prop where
  field : spot.field.toList <+: message.toList
  miner : ∀ list i aspect ms m, spot = .miner list i aspect → s.namedMiners list = some ms →
    ms[i]? = some m → (MinerAspect.label m aspect).toList <:+: message.toList

end Settings

/-! ## Lists of faults -/

section

variable {fault other : Spot → Violation → Prop} {region A B : Spot → Prop}
  {vs ws rest : List Violation}

/-- The violations are those of the faults in a region, in the order in which the spots are looked
at. -/
def Tells (fault : Spot → Violation → Prop) (region : Spot → Prop) (vs : List Violation) : Prop :=
  ∃ found : List (Spot × Violation), found.map Prod.snd = vs ∧
    found.Pairwise (fun a b => a.1.Before b.1) ∧
    ∀ spot v, (spot, v) ∈ found ↔ fault spot v ∧ region spot

namespace Tells

theorem congr (h : Tells fault region vs)
    (hsame : ∀ spot v, fault spot v ∧ region spot ↔ other spot v ∧ A spot) : Tells other A vs := by
  rcases h with ⟨found, hvs, hsorted, hmem⟩
  refine ⟨found, hvs, hsorted, ?_⟩
  intro spot v
  rw [hmem, hsame]

theorem nothing (h : ∀ spot v, fault spot v → ¬ region spot) : Tells fault region [] := by
  refine ⟨[], rfl, .nil, ?_⟩
  intro spot v
  constructor
  · intro hmem
    cases hmem
  · rintro ⟨hfault, hregion⟩
    exact absurd hregion (h spot v hfault)

/-- A spot by itself. -/
theorem on {condition : Bool} {spot : Spot} {v : Violation}
    (h : ∀ w, fault spot w ↔ condition = true ∧ w = v) :
    Tells fault (· = spot) (Violation.on condition v) := by
  cases condition with
  | false =>
    apply nothing
    rintro x w hfault rfl
    exact absurd ((h w).mp hfault).1 Bool.false_ne_true
  | true =>
    refine ⟨[(spot, v)], rfl, List.pairwise_singleton _ _, ?_⟩
    intro x w
    rw [List.mem_singleton, Prod.mk.injEq]
    constructor
    · rintro ⟨rfl, rfl⟩
      exact ⟨(h w).mpr ⟨rfl, rfl⟩, rfl⟩
    · rintro ⟨hfault, rfl⟩
      exact ⟨rfl, ((h w).mp hfault).2⟩

/-- Two regions, of which one is looked at before the other. -/
theorem append (hA : Tells fault A vs) (hB : Tells fault B ws)
    (hbefore : ∀ a v b w, fault a v ∧ A a → fault b w ∧ B b → a.Before b)
    (hor : ∀ spot v, fault spot v → (region spot ↔ A spot ∨ B spot)) :
    Tells fault region (vs ++ ws) := by
  rcases hA with ⟨foundA, rfl, hsortedA, hmemA⟩
  rcases hB with ⟨foundB, rfl, hsortedB, hmemB⟩
  refine ⟨foundA ++ foundB, List.map_append, ?_, ?_⟩
  · apply List.pairwise_append.mpr
    refine ⟨hsortedA, hsortedB, ?_⟩
    rintro ⟨a, v⟩ ha ⟨b, w⟩ hb
    exact hbefore a v b w ((hmemA a v).mp ha) ((hmemB b w).mp hb)
  · intro spot v
    rw [List.mem_append, hmemA, hmemB, ← and_or_left]
    exact and_congr_right fun hfault => (hor spot v hfault).symm

theorem eq_nil_iff (h : Tells fault region vs) :
    vs = [] ↔ ∀ spot v, fault spot v → ¬ region spot := by
  rcases h with ⟨found, rfl, -, hmem⟩
  rw [List.map_eq_nil_iff, List.eq_nil_iff_forall_not_mem]
  constructor
  · intro hnone spot v hfault hregion
    exact hnone (spot, v) ((hmem spot v).mpr ⟨hfault, hregion⟩)
  · rintro hnone ⟨spot, v⟩ hin
    rcases (hmem spot v).mp hin with ⟨hfault, hregion⟩
    exact hnone spot v hfault hregion

/-- The violation in front belongs to the fault that is met before all others. -/
theorem exists_first {v : Violation} (h : Tells fault region (v :: rest)) :
    ∃ spot, fault spot v ∧
      ∀ other w, fault other w → region other → other = spot ∨ spot.Before other := by
  rcases h with ⟨found, hfound, hsorted, hmem⟩
  cases found with
  | nil => cases hfound
  | cons head found =>
    rcases head with ⟨spot, v'⟩
    have hv : v' = v := List.head_eq_of_cons_eq hfound
    subst hv
    refine ⟨spot, ((hmem spot v').mp List.mem_cons_self).1, ?_⟩
    intro other w hfault hregion
    rcases List.mem_cons.mp ((hmem other w).mpr ⟨hfault, hregion⟩) with heq | hlater
    · exact .inl (congrArg Prod.fst heq)
    · exact .inr (List.rel_of_pairwise_cons hsorted hlater)

end Tells

end

/-! ## Miners -/

section

variable {list : Purpose} {ms front later : List Miner} {m : Miner} {n : Nat} {spot : Spot}
  {v : Violation}

namespace MinerFault

theorem exists_eq (h : MinerFault list ms spot v) :
    ∃ i aspect, spot = .miner list i aspect ∧ i < ms.length := by
  cases h with
  | id hm h | url hm h | repetition hm hj hother h =>
    exact ⟨_, _, rfl, (List.getElem?_eq_some_iff.mp hm).1⟩

theorem part_eq (h : MinerFault list ms spot v) : spot.part = Spot.listPart list := by
  rcases h.exists_eq with ⟨i, aspect, rfl, -⟩
  rfl

theorem id_iff (hat : ms[n]? = some m) : MinerFault list ms (.miner list n .id) v ↔
    ¬ Text.IsSolid m.id ∧ v = .minerWithoutId list m.name := by
  constructor
  · rintro (⟨hm, h⟩ | _ | _)
    rw [hat, Option.some.injEq] at hm
    subst hm
    exact ⟨h, rfl⟩
  · rintro ⟨h, rfl⟩
    exact .id hat h

theorem url_iff (hat : ms[n]? = some m) : MinerFault list ms (.miner list n .url) v ↔
    ¬ Text.IsSolid m.url ∧ v = .minerWithoutUrl list m.name := by
  constructor
  · rintro (_ | ⟨hm, h⟩ | _)
    rw [hat, Option.some.injEq] at hm
    subst hm
    exact ⟨h, rfl⟩
  · rintro ⟨h, rfl⟩
    exact .url hat h

theorem repetition_iff (hat : ms[n]? = some m) :
    MinerFault list ms (.miner list n .repetition) v ↔
      (∃ j < n, ∃ other, ms[j]? = some other ∧ other.id = m.id) ∧ v = .repeatedMiner list m.id := by
  constructor
  · rintro (_ | _ | ⟨hm, hj, hother, h⟩)
    rw [hat, Option.some.injEq] at hm
    subst hm
    exact ⟨⟨_, hj, _, hother, h⟩, rfl⟩
  · rintro ⟨⟨j, hj, other, hother, h⟩, rfl⟩
    exact .repetition hat hj hother h

end MinerFault

/-- What stands in front of a position, as a list. -/
theorem exists_front_iff {P : Miner → Prop} :
    (∃ j < front.length, ∃ other, (front ++ later)[j]? = some other ∧ P other) ↔
      ∃ other ∈ front, P other := by
  constructor
  · rintro ⟨j, hj, other, hother, h⟩
    rw [List.getElem?_append_left hj] at hother
    exact ⟨other, List.mem_of_getElem? hother, h⟩
  · rintro ⟨other, hother, h⟩
    rcases List.getElem?_of_mem hother with ⟨j, hother⟩
    have hj : j < front.length := (List.getElem?_eq_some_iff.mp hother).1
    exact ⟨j, hj, other, (List.getElem?_append_left hj).trans hother, h⟩

/-- What is looked at in a miner, when the ids of the miners in front of it are known. -/
theorem tells_miner {before : List String}
    (hbefore : ∀ id, id ∈ before ↔ ∃ other ∈ front, other.id = id) :
    Tells (MinerFault list (front ++ m :: later)) (fun spot => spot.position = front.length)
      (Violation.on (Text.isBlankText m.id) (.minerWithoutId list m.name) ++
        Violation.on (Text.isBlankText m.url) (.minerWithoutUrl list m.name) ++
        Violation.on (before.contains m.id) (.repeatedMiner list m.id)) := by
  have hat : (front ++ m :: later)[front.length]? = some m := by simp
  have hid : Tells (MinerFault list (front ++ m :: later)) (· = .miner list front.length .id)
      (Violation.on (Text.isBlankText m.id) (.minerWithoutId list m.name)) := by
    apply Tells.on
    intro w
    rw [Text.isBlankText_iff, MinerFault.id_iff hat]
  have hurl : Tells (MinerFault list (front ++ m :: later)) (· = .miner list front.length .url)
      (Violation.on (Text.isBlankText m.url) (.minerWithoutUrl list m.name)) := by
    apply Tells.on
    intro w
    rw [Text.isBlankText_iff, MinerFault.url_iff hat]
  have hrepeated : Tells (MinerFault list (front ++ m :: later))
      (· = .miner list front.length .repetition)
      (Violation.on (before.contains m.id) (.repeatedMiner list m.id)) := by
    apply Tells.on
    intro w
    rw [List.contains_iff_mem, hbefore, MinerFault.repetition_iff hat, exists_front_iff]
  have haddressed : Tells (MinerFault list (front ++ m :: later))
      (fun spot => spot = .miner list front.length .id ∨ spot = .miner list front.length .url)
      (Violation.on (Text.isBlankText m.id) (.minerWithoutId list m.name) ++
        Violation.on (Text.isBlankText m.url) (.minerWithoutUrl list m.name)) := by
    apply hid.append hurl
    · rintro a v b w ⟨-, rfl⟩ ⟨-, rfl⟩
      exact Spot.before_of_aspect (by decide)
    · intro spot v _
      exact Iff.rfl
  apply haddressed.append hrepeated
  · rintro a v b w ⟨-, rfl | rfl⟩ ⟨-, rfl⟩
    · exact Spot.before_of_aspect (by decide)
    · exact Spot.before_of_aspect (by decide)
  · intro spot v h
    rcases h.exists_eq with ⟨i, aspect, rfl, -⟩
    cases aspect <;> simp [Spot.position]

/-- All miners from one on, when the ids of the miners in front of it are known. -/
theorem tells_inMiners {before : List String}
    (hbefore : ∀ id, id ∈ before ↔ ∃ other ∈ front, other.id = id) :
    Tells (MinerFault list (front ++ later)) (fun spot => front.length ≤ spot.position)
      (Violation.inMiners list before later) := by
  -- along the miners that are still to come; a miner that has been looked at goes to the front
  induction later generalizing front before with
  | nil =>
    apply Tells.nothing
    intro spot v h hposition
    rcases h.exists_eq with ⟨i, aspect, rfl, hi⟩
    rw [List.append_nil] at hi
    exact absurd hi (Nat.not_lt.mpr hposition)
  | cons m later ih =>
    have hbefore' : ∀ id, id ∈ m.id :: before ↔ ∃ other ∈ front ++ [m], other.id = id := by
      intro id
      simp only [List.mem_cons, hbefore, List.mem_append, List.not_mem_nil, or_false, or_and_right,
        exists_or, exists_eq_left]
      rw [or_comm, eq_comm]
    have hrest := ih hbefore'
    rw [List.append_assoc, List.singleton_append, List.length_append, List.length_singleton]
      at hrest
    apply (tells_miner hbefore).append hrest
    · rintro a v b w ⟨ha, hposition⟩ ⟨hb, hlater⟩
      apply Spot.before_of_position (ha.part_eq.trans hb.part_eq.symm)
      omega
    · intro spot v _
      omega

end

/-! ## Settings -/

namespace Settings

variable {s : Settings} {spot : Spot} {v : Violation} {n : Nat} {vs ws : List Violation}

namespace Fault

theorem limit_iff {l : Limit} :
    s.Fault (.limit l) v ↔ s.seconds l = 0 ∧ v = .zeroLimit l := by
  constructor
  · rintro (h | ⟨-, ⟨⟩⟩)
    exact ⟨h, rfl⟩
  · rintro ⟨h, rfl⟩
    exact .limit h

theorem explorer_iff :
    s.Fault .explorer v ↔ ¬ Text.IsSolid s.explorer.url ∧ v = .explorerWithoutUrl := by
  constructor
  · rintro (_ | ⟨-, ⟨⟩⟩ | h)
    exact ⟨h, rfl⟩
  · rintro ⟨h, rfl⟩
    exact .explorer h

theorem secondaryExplorer_iff : s.Fault .secondaryExplorer v ↔
    (∃ e, s.secondaryExplorer = some e ∧ ¬ Text.IsSolid e.url) ∧
      v = .secondaryExplorerWithoutUrl := by
  constructor
  · rintro (_ | ⟨-, ⟨⟩⟩ | _ | ⟨he, h⟩)
    exact ⟨⟨_, he, h⟩, rfl⟩
  · rintro ⟨⟨e, he, h⟩, rfl⟩
    exact .secondaryExplorer he h

theorem nodeProxy_iff : s.Fault .nodeProxy v ↔
    (∃ e, s.nodeProxy = some e ∧ ¬ Text.IsSolid e.url) ∧ v = .nodeProxyWithoutUrl := by
  constructor
  · rintro (_ | ⟨-, ⟨⟩⟩ | _ | _ | ⟨he, h⟩)
    exact ⟨⟨_, he, h⟩, rfl⟩
  · rintro ⟨⟨e, he, h⟩, rfl⟩
    exact .nodeProxy he h

theorem verifier_iff {x : Verifier} (hat : s.verifiers[n]? = some x) :
    s.Fault (.verifier n) v ↔ ¬ Text.IsSolid x.url ∧ v = .verifierWithoutUrl n := by
  constructor
  · rintro (_ | ⟨-, ⟨⟩⟩ | _ | _ | _ | ⟨hv, h⟩)
    rw [hat, Option.some.injEq] at hv
    subst hv
    exact ⟨h, rfl⟩
  · rintro ⟨h, rfl⟩
    exact .verifier hat h

theorem listPart_iff {list : Purpose} : s.Fault spot v ∧ spot.part = Spot.listPart list ↔
    ∃ ms, s.namedMiners list = some ms ∧ MinerFault list ms spot v := by
  constructor
  · rintro ⟨h, hpart⟩
    cases h with
    | @miner list' ms _ _ hlist h =>
      have hsame : list' = list := Spot.listPart_inj.mp (h.part_eq.symm.trans hpart)
      subst hsame
      exact ⟨ms, hlist, h⟩
    | @limit l h => cases list <;> cases l <;> cases hpart
    | explorer | secondaryExplorer | nodeProxy | verifier => cases list <;> cases hpart
  · rintro ⟨ms, hlist, h⟩
    exact ⟨.miner hlist h, h.part_eq⟩

end Fault

/-- A part of its own. -/
theorem tells_part {condition : Bool} (hsingle : spot.isListed = false) (hpart : spot.part = n)
    (h : ∀ w, s.Fault spot w ↔ condition = true ∧ w = v) :
    Tells s.Fault (fun x => x.part = n) (Violation.on condition v) := by
  subst hpart
  apply (Tells.on h).congr
  intro x w
  rw [Spot.part_eq_iff hsingle]

theorem tells_limit (l : Limit) (hpart : (Spot.limit l).part = n) :
    Tells s.Fault (fun x => x.part = n) (Violation.on (s.seconds l == 0) (.zeroLimit l)) := by
  apply tells_part rfl hpart
  intro w
  rw [beq_iff_eq, Fault.limit_iff]

theorem tells_list (list : Purpose) :
    Tells s.Fault (fun x => x.part = Spot.listPart list)
      (Violation.inMiners list [] ((s.namedMiners list).getD [])) := by
  cases hlist : s.namedMiners list with
  | none =>
    apply Tells.nothing
    intro x w h hpart
    rcases Fault.listPart_iff.mp ⟨h, hpart⟩ with ⟨ms, hms, -⟩
    rw [hlist] at hms
    cases hms
  | some ms =>
    have hminers : Tells (MinerFault list ([] ++ ms)) (fun x => 0 ≤ x.position)
        (Violation.inMiners list [] ms) := tells_inMiners (by simp)
    apply hminers.congr
    intro x w
    rw [Fault.listPart_iff, hlist]
    simp

theorem tells_verifiers_behind {front later : List Verifier} (h : s.verifiers = front ++ later) :
    Tells s.Fault (fun x => ∃ i, front.length ≤ i ∧ x = .verifier i)
      (Violation.inVerifiers front.length later) := by
  -- along the verifiers that are still to come; one that has been looked at goes to the front
  induction later generalizing front with
  | nil =>
    apply Tells.nothing
    rintro x w hfault ⟨i, hi, rfl⟩
    rw [List.append_nil] at h
    rcases hfault with _ | ⟨-, ⟨⟩⟩ | _ | _ | _ | ⟨hv, -⟩
    rw [h] at hv
    exact absurd (List.getElem?_eq_some_iff.mp hv).1 (Nat.not_lt.mpr hi)
  | cons v later ih =>
    have hat : s.verifiers[front.length]? = some v := by simp [h]
    have hfirst : Tells s.Fault (· = .verifier front.length)
        (Violation.on (Text.isBlankText v.url) (.verifierWithoutUrl front.length)) := by
      apply Tells.on
      intro w
      rw [Text.isBlankText_iff, Fault.verifier_iff hat]
    have hmoved : s.verifiers = (front ++ [v]) ++ later := by
      rw [h, List.append_assoc, List.singleton_append]
    have hrest := ih hmoved
    rw [List.length_append, List.length_singleton] at hrest
    apply hfirst.append hrest
    · rintro a _ b _ ⟨-, rfl⟩ ⟨-, i, hi, rfl⟩
      exact Spot.before_of_position rfl hi
    · intro x w _
      constructor
      · rintro ⟨i, hi, rfl⟩
        rcases Nat.eq_or_lt_of_le hi with rfl | hlt
        · exact .inl rfl
        · exact .inr ⟨i, hlt, rfl⟩
      · rintro (rfl | ⟨i, hi, rfl⟩)
        · exact ⟨_, Nat.le_refl _, rfl⟩
        · exact ⟨i, Nat.le_of_succ_le hi, rfl⟩

theorem tells_verifiers (s : Settings) :
    Tells s.Fault (fun x => x.part = 9) (Violation.inVerifiers 0 s.verifiers) := by
  have hall : Tells s.Fault (fun x => ∃ i, 0 ≤ i ∧ x = .verifier i)
      (Violation.inVerifiers 0 s.verifiers) := tells_verifiers_behind (List.nil_append _).symm
  apply hall.congr
  intro x w
  rw [Spot.part_eq_nine_iff]
  simp

/-- A part that is looked at after all those before it. -/
theorem tells_next (hbefore : Tells s.Fault (fun x => x.part < n) vs)
    (hpart : Tells s.Fault (fun x => x.part = n) ws) :
    Tells s.Fault (fun x => x.part < n + 1) (vs ++ ws) := by
  apply hbefore.append hpart
  · rintro a v b w ⟨-, ha⟩ ⟨-, rfl⟩
    exact Spot.before_of_part ha
  · intro x w _
    exact Nat.lt_succ_iff_lt_or_eq

/-- What validation lists are the faults of the settings, in the order of the spots. -/
theorem tells_violations (s : Settings) :
    Tells s.Fault (fun x => x.part < 10) s.violations := by
  have hexplorer : Tells s.Fault (fun x => x.part = 6)
      (Violation.on (Text.isBlankText s.explorer.url) .explorerWithoutUrl) := by
    refine tells_part rfl (show Spot.explorer.part = 6 from rfl) ?_
    intro w
    rw [Text.isBlankText_iff, Fault.explorer_iff]
  have hsecondary : Tells s.Fault (fun x => x.part = 7)
      (Violation.on (s.secondaryExplorer.any fun e => Text.isBlankText e.url)
        .secondaryExplorerWithoutUrl) := by
    refine tells_part rfl (show Spot.secondaryExplorer.part = 7 from rfl) ?_
    intro w
    simp only [Option.any_eq_true, Text.isBlankText_iff, Fault.secondaryExplorer_iff]
  have hnode : Tells s.Fault (fun x => x.part = 8)
      (Violation.on (s.nodeProxy.any fun e => Text.isBlankText e.url) .nodeProxyWithoutUrl) := by
    refine tells_part rfl (show Spot.nodeProxy.part = 8 from rfl) ?_
    intro w
    simp only [Option.any_eq_true, Text.isBlankText_iff, Fault.nodeProxy_iff]
  have hnothing : Tells s.Fault (fun x => x.part < 0) [] :=
    Tells.nothing fun x _ _ => Nat.not_lt_zero x.part
  have hlimits := tells_next (tells_next (tells_next (tells_next hnothing
    (tells_limit .query rfl)) (tells_limit .broadcast rfl)) (tells_limit .merkle rfl))
    (tells_limit .feeProbe rfl)
  have hminers := tells_next (tells_next hlimits (tells_list .broadcast)) (tells_list .query)
  have hall := tells_next (tells_next (tells_next (tells_next hminers hexplorer) hsecondary) hnode)
    (tells_verifiers s)
  simpa [violations, Limit.all, namedMiners] using hall

/-! ## The first fault -/

theorem nodup_ids_iff {ms : List Miner} : (ms.map Miner.id).Nodup ↔
    ∀ (i j : Nat) (m other : Miner),
      j < i → ms[i]? = some m → ms[j]? = some other → other.id ≠ m.id := by
  rw [List.Nodup, List.pairwise_map, List.pairwise_iff_getElem]
  constructor
  · intro h i j m other hlt hm hother
    rcases List.getElem?_eq_some_iff.mp hm with ⟨hi, rfl⟩
    rcases List.getElem?_eq_some_iff.mp hother with ⟨hj, rfl⟩
    exact h j i hj hi hlt
  · intro h j i hj hi hlt
    exact h i j _ _ hlt (List.getElem?_eq_getElem hi) (List.getElem?_eq_getElem hj)

/-- Settings are well-formed if and only if no spot is at fault. -/
theorem wellFormed_iff : s.WellFormed ↔ ∀ spot v, ¬ s.Fault spot v := by
  constructor
  · rintro h spot v (hl | ⟨hlist, hminer⟩ | hurl | ⟨he, hurl⟩ | ⟨he, hurl⟩ | ⟨hv, hurl⟩)
    · exact absurd hl (UInt64.pos_iff_ne_zero.mp (h.limits _))
    · rcases h.miners _ _ hlist with ⟨hsolid, hnodup⟩
      rcases hminer with ⟨hm, hid⟩ | ⟨hm, hurl⟩ | ⟨hm, hj, hother, hsame⟩
      · exact hid (hsolid _ (List.mem_of_getElem? hm)).1
      · exact hurl (hsolid _ (List.mem_of_getElem? hm)).2
      · exact nodup_ids_iff.mp hnodup _ _ _ _ hj hm hother hsame
    · exact hurl h.explorer
    · exact hurl (h.secondaryExplorer _ he)
    · exact hurl (h.nodeProxy _ he)
    · exact hurl (h.verifiers _ (List.mem_of_getElem? hv))
  · intro hnone
    constructor
    case limits =>
      intro l
      exact UInt64.pos_iff_ne_zero.mpr fun hl => hnone _ _ (.limit hl)
    case miners =>
      intro list ms hlist
      have hminer : ∀ spot v, ¬ MinerFault list ms spot v :=
        fun spot v h => hnone spot v (.miner hlist h)
      refine ⟨?_, nodup_ids_iff.mpr ?_⟩
      · intro m hm
        rcases List.getElem?_of_mem hm with ⟨i, hi⟩
        exact ⟨Classical.byContradiction fun h => hminer _ _ (.id hi h),
          Classical.byContradiction fun h => hminer _ _ (.url hi h)⟩
      · intro i j m other hlt hm hother hsame
        exact hminer _ _ (.repetition hm hlt hother hsame)
    case explorer => exact Classical.byContradiction fun h => hnone _ _ (.explorer h)
    case secondaryExplorer =>
      intro e he
      exact Classical.byContradiction fun h => hnone _ _ (.secondaryExplorer he h)
    case nodeProxy =>
      intro e he
      exact Classical.byContradiction fun h => hnone _ _ (.nodeProxy he h)
    case verifiers =>
      intro x hx
      rcases List.getElem?_of_mem hx with ⟨i, hi⟩
      exact Classical.byContradiction fun h => hnone _ _ (.verifier hi h)

/-! ## Messages -/

theorem toList_prefix_append (front rest : String) : front.toList <+: (front ++ rest).toList := by
  rw [String.toList_append]
  exact List.prefix_append _ _

/-- The form of a message about a miner. -/
theorem minerMessage_names (list words label rest : String) :
    list.toList <+: (list ++ words ++ label ++ rest).toList ∧
      label.toList <:+: (list ++ words ++ label ++ rest).toList := by
  constructor
  · rw [String.append_assoc, String.append_assoc]
    exact toList_prefix_append _ _
  · rw [String.toList_append, String.toList_append]
    exact ⟨_, _, rfl⟩

namespace Fault

/-- What is wrong at a spot is told under the name of the setting. -/
theorem begins_with_field (h : s.Fault spot v) : spot.field.toList <+: v.message.toList := by
  rcases h with _ | ⟨-, _ | _ | _⟩ | _ | _ | _ | _
  · exact toList_prefix_append _ " must be greater than 0"
  · exact (minerMessage_names _ ": miner '" _ "' has an empty miner_id").1
  · exact (minerMessage_names _ ": miner '" _ "' has an empty url").1
  · exact (minerMessage_names _ ": duplicate miner_id '" _ "'").1
  · exact toList_prefix_append "explorer.url" " cannot be empty"
  · exact toList_prefix_append "secondary_explorer.url" " cannot be empty"
  · exact toList_prefix_append "node_proxy.url" " cannot be empty"
  · next i _ _ _ =>
    have hmessage : (Violation.verifierWithoutUrl i).message =
        (Spot.verifier i).field ++ " cannot be empty" := by
      show "merkle_verifiers[" ++ toString i ++ ("].url" ++ " cannot be empty") = _
      rw [← String.append_assoc]
      rfl
    rw [hmessage]
    exact toList_prefix_append _ _

/-- What is wrong at a spot of a miner is told with the miner's name, or with the id that stands
twice. -/
theorem names (h : s.Fault spot v) : s.Names spot v.message := by
  refine ⟨h.begins_with_field, ?_⟩
  rintro list i aspect ms m rfl hlist hm
  rcases listPart_iff.mp ⟨h, rfl⟩ with ⟨ms', hlist', hminer⟩
  rw [hlist, Option.some.injEq] at hlist'
  subst hlist'
  cases aspect with
  | id =>
    rcases (MinerFault.id_iff hm).mp hminer with ⟨-, rfl⟩
    exact (minerMessage_names _ ": miner '" _ "' has an empty miner_id").2
  | url =>
    rcases (MinerFault.url_iff hm).mp hminer with ⟨-, rfl⟩
    exact (minerMessage_names _ ": miner '" _ "' has an empty url").2
  | repetition =>
    rcases (MinerFault.repetition_iff hm).mp hminer with ⟨-, rfl⟩
    exact (minerMessage_names _ ": duplicate miner_id '" _ "'").2

end Fault

/-! ## Validation -/

/-- At one spot there is one thing that can be wrong. -/
theorem Fault.unique {w : Violation} (hv : s.Fault spot v) (hw : s.Fault spot w) : v = w := by
  cases hv with
  | limit => exact (limit_iff.mp hw).2.symm
  | explorer => exact (explorer_iff.mp hw).2.symm
  | secondaryExplorer => exact (secondaryExplorer_iff.mp hw).2.symm
  | nodeProxy => exact (nodeProxy_iff.mp hw).2.symm
  | verifier hat => exact ((verifier_iff hat).mp hw).2.symm
  | miner hlist h =>
    rcases listPart_iff.mp ⟨hw, h.part_eq⟩ with ⟨ms', hlist', hminer⟩
    rw [hlist, Option.some.injEq] at hlist'
    subst hlist'
    cases h with
    | id hm => exact ((MinerFault.id_iff hm).mp hminer).2.symm
    | url hm => exact ((MinerFault.url_iff hm).mp hminer).2.symm
    | repetition hm => exact ((MinerFault.repetition_iff hm).mp hminer).2.symm

/-- Only one fault is met first. -/
theorem FirstFault.unique {a b : Spot} {w : Violation} (ha : s.FirstFault a v)
    (hb : s.FirstFault b w) : v = w := by
  have hsame : a = b := by
    rcases ha.first b w hb.fault with heq | hafter
    · exact heq.symm
    · rcases hb.first a v ha.fault with heq | hbefore
      · exact heq
      · exact absurd hbefore hafter.asymm
  subst hsame
  exact ha.fault.unique hb.fault

/-- Validation accepts settings if and only if they are well-formed. Otherwise it tells the fault
that is met first, by a message that names the setting, and the miner if it is one. -/
theorem validate_tells_first_fault (s : Settings) :
    (s.validate = .ok () ↔ s.WellFormed) ∧
    ∀ v, s.validate = .error v ↔ ∃ spot, s.FirstFault spot v ∧ s.Names spot v.message := by
  have htells := tells_violations s
  have hnone : s.violations = [] ↔ s.WellFormed := by
    rw [wellFormed_iff, htells.eq_nil_iff]
    exact forall₂_congr fun spot v => by simp [Spot.part_lt_ten]
  unfold validate
  cases hviolations : s.violations with
  | nil =>
    rw [hviolations] at hnone
    have hformed : s.WellFormed := hnone.mp rfl
    refine ⟨iff_of_true rfl hformed, ?_⟩
    intro v
    constructor
    · intro h
      cases h
    · rintro ⟨spot, hfirst, -⟩
      exact absurd hfirst.fault (wellFormed_iff.mp hformed spot v)
  | cons v rest =>
    rw [hviolations] at hnone htells
    rcases htells.exists_first with ⟨spot, hfault, hall⟩
    have hfirst : s.FirstFault spot v := ⟨hfault, fun other w h => hall other w h other.part_lt_ten⟩
    constructor
    · constructor
      · intro h
        cases h
      · intro hformed
        exact absurd hfault (wellFormed_iff.mp hformed spot v)
    · intro w
      rw [Except.error.injEq]
      constructor
      · rintro rfl
        exact ⟨spot, hfirst, hfault.names⟩
      · rintro ⟨other, hother, -⟩
        exact hfirst.unique hother

/-- A repeated miner is told before one without an id that stands behind it. -/
example :
    let again : Miner := { id := "a", name := "Again", url := "u" }
    let nameless : Miner := { id := " ", name := "Nameless", url := "u" }
    ({ queryMiners := some [again, again, nameless] } : Settings).validate =
      .error (.repeatedMiner .query "a") := rfl

end Settings

end TxGateway
