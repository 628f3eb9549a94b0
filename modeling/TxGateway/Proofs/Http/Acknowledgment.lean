import TxGateway.Proofs.Gateway.Identity
import TxGateway.Proofs.Http.Refusal

namespace TxGateway

/-! # A miner's acknowledgment

A miner that knows a transaction has it in its mempool, or has mined it. Whether its account of the
transaction counts so is decided in three steps: the account is read from a document, where members
may be absent or `null`; it is turned into a record; and the record is held against the mempool.

* `Http.Mining.accounts_of_sightingIn?` is the first step, for both interfaces.
* `Provider.shows_mempool_iff` is about the other two.
* `Http.Mining.acknowledgment_counts_iff` puts them together. What counts is a report of the right
  transaction, except from a miner that signs it with an empty name.
-/

/-! ## Members with texts -/

namespace Document.Members

variable {ms : Members} {name text : String}

/-- The member is there and is a text. -/
def Says (ms : Members) (name text : String) : Prop := ms.found.lookup name = some (.text text)

theorem text?_eq_some_iff {d : Document} : text? d = some text ↔ d = .text text := by
  cases d <;> simp [text?]

theorem required_text_iff : ms.required name text? = some text ↔ ms.Says name text := by
  unfold required Says
  cases ms.found.lookup name with
  | none => simp
  | some d => simp [text?_eq_some_iff]

/-- A default that is empty does not hide which other text a member has. -/
theorem withDefault_text_iff {t : String} (h : ms.withDefault name text? "" = some t)
    (hne : text ≠ "") : t = text ↔ ms.Says name text := by
  unfold withDefault at h
  unfold Says
  cases hd : ms.found.lookup name with
  | none =>
    rw [hd] at h
    cases h
    simp [hne.symm]
  | some d =>
    rw [hd] at h
    rw [text?_eq_some_iff.mp h]
    simp

theorem optional_text_iff {t : Option String} (h : ms.optional name text? = some t) :
    t = some text ↔ ms.Says name text := by
  unfold optional withDefault at h
  unfold Says
  cases hd : ms.found.lookup name with
  | none =>
    rw [hd] at h
    cases h
    simp
  | some d =>
    rw [hd] at h
    cases d with
    | null =>
      cases h
      simp
    | text u =>
      cases h
      simp
    | _ => cases h

end Document.Members

/-! ## Accounts -/

namespace Http.Mining

open Document Document.Members

variable {m : Miner} {id body : String} {d : Document} {s : MinerSighting}

/-- The members that a miner's account is read from. -/
def accountNames : MinerDialect → List String
  | .merchant => sightingNames
  | .arc => ["txid", "txStatus", "blockHash", "blockHeight", "extraInfo", "merklePath"]

/-- The account that a body holds. The merchant interface has it as a text in another document. -/
def account? : MinerDialect → String → Option Document
  | .merchant, body => ((Json.read? body).bind payload?).bind Json.read?
  | .arc, body => Json.read? body

/-- What an account of the miner comes to. -/
def sightingIn? (m : Miner) (d : Document) : Option MinerSighting :=
  match m.dialect with
  | .merchant => sightingOf? m d
  | .arc => (ArcStatus.ofDocument? d).map (ArcStatus.sighting m)

theorem status_read_eq_ok_iff : (status m id).read (.ok body) = .ok s ↔
    ∃ d, account? m.dialect body = some d ∧ sightingIn? m d = some s := by
  unfold status sightingIn? account?
  cases m.dialect with
  | merchant =>
    show (readJson payload? body).bind (readJson (sightingOf? m)) = .ok s ↔ _
    simp only [bind_eq_ok_iff, NodeProxy.readJson_eq_ok_iff, Option.bind_eq_some_iff]
    constructor
    · rintro ⟨text, htext, d, hd, hs⟩
      exact ⟨d, ⟨text, htext, hd⟩, hs⟩
    · rintro ⟨d, ⟨text, htext, hd⟩, hs⟩
      exact ⟨text, htext, d, hd, hs⟩
  | arc =>
    show readJson _ body = .ok s ↔ _
    rw [NodeProxy.readJson_eq_ok_iff, Option.bind_eq_some_iff]

/-- A member of an account has the text. -/
def Says (dialect : MinerDialect) (d : Document) (name text : String) : Prop :=
  ∃ ms, members? (accountNames dialect) d = some ms ∧ ms.Says name text

/-- The account tells that the miner knows the transaction. -/
def TellsKnown : MinerDialect → Document → Prop
  | .merchant, d => Says .merchant d "returnResult" "success"
  | .arc, d => Says .arc d "txStatus" "SEEN_ON_NETWORK" ∨ Says .arc d "txStatus" "MINED"

/-- What an account comes to, by its members. -/
structure Accounts (m : Miner) (d : Document) (s : MinerSighting) : Prop where
  found : s.found = true ↔ TellsKnown m.dialect d
  id : ∀ {text}, text ≠ "" → (s.id = text ↔ Says m.dialect d "txid" text)
  blockHash : ∀ {text}, text ≠ "" → (s.blockHash = text ↔ Says m.dialect d "blockHash" text)
  /-- Only the merchant interface lets a miner name itself. -/
  minerId : m.id ≠ "" → (s.minerId = "" ↔ m.dialect = .merchant ∧ Says m.dialect d "minerId" "")

theorem says_iff {dialect : MinerDialect} {ms : Members} {name text : String}
    (hms : members? (accountNames dialect) d = some ms) :
    Says dialect d name text ↔ ms.Says name text := by
  unfold Says
  constructor
  · rintro ⟨ms', hms', h⟩
    rw [hms] at hms'
    cases hms'
    exact h
  · intro h
    exact ⟨ms, hms, h⟩

theorem getD_eq_iff_of_ne {o : Option String} {absent text : String} (hne : absent ≠ text) :
    o.getD absent = text ↔ o = some text := by
  cases o with
  | none => simp [hne]
  | some t => simp

theorem accounts_of_merchant (hdialect : m.dialect = .merchant) (h : sightingOf? m d = some s) :
    Accounts m d s := by
  simp only [sightingOf?, Option.bind_eq_bind, Option.bind_eq_some_iff] at h
  obtain ⟨ms, hms, txid, hid, result, hresult, _, _, blockHash, hhash, _, _, _, _, minerId, hminer,
    _, _, hs⟩ := h
  cases hs
  have hms : members? (accountNames .merchant) d = some ms := hms
  have hmember : ∀ {name text}, Says m.dialect d name text ↔ ms.Says name text := by
    intro name text
    rw [hdialect]
    exact says_iff hms
  constructor
  · rw [hdialect, beq_iff_eq, TellsKnown, says_iff hms, ← required_text_iff, hresult,
      Option.some_inj, success]
  · intro text hne
    rw [hmember]
    exact withDefault_text_iff hid hne
  · intro text hne
    rw [hmember, getD_eq_iff_of_ne hne.symm]
    exact optional_text_iff hhash
  · intro hm
    rw [hmember, getD_eq_iff_of_ne hm, optional_text_iff hminer]
    exact (and_iff_right hdialect).symm

theorem accounts_of_arc (hdialect : m.dialect = .arc) {status : ArcStatus}
    (h : ArcStatus.ofDocument? d = some status) : Accounts m d (status.sighting m) := by
  simp only [ArcStatus.ofDocument?, Option.bind_eq_bind, Option.bind_eq_some_iff] at h
  rcases h with ⟨ms, hms, txid, hid, stage, hstage, blockHash, hhash, _, _, _, _, _, _, hs⟩
  cases hs
  have hms : members? (accountNames .arc) d = some ms := hms
  have hmember : ∀ {name text}, Says m.dialect d name text ↔ ms.Says name text := by
    intro name text
    rw [hdialect]
    exact says_iff hms
  constructor
  · have hseen := withDefault_text_iff hstage (show "SEEN_ON_NETWORK" ≠ "" by decide)
    have hmined := withDefault_text_iff hstage (show "MINED" ≠ "" by decide)
    rw [hdialect, TellsKnown, says_iff hms, says_iff hms, ← hseen, ← hmined]
    simp [ArcStatus.sighting, ArcStatus.isKnown, ArcStatus.knownStages]
  · intro text hne
    rw [hmember]
    exact withDefault_text_iff hid hne
  · intro text hne
    rw [hmember]
    show blockHash.getD "" = text ↔ _
    rw [getD_eq_iff_of_ne hne.symm]
    exact optional_text_iff hhash
  · intro hm
    constructor
    · intro hnone
      exact absurd hnone hm
    · rintro ⟨hmerchant, -⟩
      rw [hdialect] at hmerchant
      cases hmerchant

theorem accounts_of_sightingIn? (h : sightingIn? m d = some s) : Accounts m d s := by
  unfold sightingIn? at h
  split at h
  · next hdialect => exact accounts_of_merchant hdialect h
  · next hdialect =>
    rcases Option.map_eq_some_iff.mp h with ⟨status, hstatus, rfl⟩
    exact accounts_of_arc hdialect hstatus

end Http.Mining

/-! ## Records -/

/-- A miner's answer shows the mempool if it has found the transaction and names it, and names a
miner or a block. -/
theorem Provider.shows_mempool_iff {m : Miner} {id : String} {w : World} {now : Instant}
    {delay : Nat} {s : MinerSighting} (hw : w now (.status m id) = .answer delay (.ok s)) :
    (∃ r, ((Provider.miner m).sighting id w now).Shows id .mempool r) ↔
      s.found = true ∧ s.id = id ∧ (s.minerId ≠ "" ∨ s.blockHash ≠ "") := by
  have hsighting : (Provider.miner m).sighting id w now =
      .answer delay ((recordOfMiner m.name s).bind (about id)) := by
    show (w now (.status m id)).map _ = _
    rw [hw]
    rfl
  rw [hsighting]
  constructor
  · rintro ⟨r, d, hr, hmet⟩
    injection hr with _ hr
    rcases bind_about_eq_ok.mp hr with ⟨hrecord, -⟩
    unfold recordOfMiner at hrecord
    split at hrecord
    · next hfound =>
      cases hrecord
      exact ⟨hfound, Inclusion.metBy_mempool_iff.mp hmet⟩
    · cases hrecord
  · rintro ⟨hfound, hid, hvouched⟩
    refine ⟨_, delay, congrArg _ (bind_about_eq_ok.mpr ⟨if_pos hfound, ?_⟩), ?_⟩
    · exact TxId.agrees_iff.mpr (.inl hid)
    · exact Inclusion.metBy_mempool_iff.mpr ⟨hid, hvouched⟩

namespace Http.Mining

variable {m : Miner} {id body : String} {d : Document} {s : MinerSighting}

/-- The account tells that the miner knows the transaction, and names it. -/
structure Reports (dialect : MinerDialect) (d : Document) (id : String) : Prop where
  known : TellsKnown dialect d
  named : Says dialect d "txid" id

/-- The account gives the miner an empty name, and no block. Only the merchant interface lets a
miner name itself. -/
structure Nameless (dialect : MinerDialect) (d : Document) : Prop where
  merchant : dialect = .merchant
  unnamed : Says dialect d "minerId" ""
  unplaced : ∀ hash, Says dialect d "blockHash" hash → hash = ""

theorem Accounts.nameless_iff (h : Accounts m d s) (hm : m.id ≠ "") :
    Nameless m.dialect d ↔ s.minerId = "" ∧ s.blockHash = "" := by
  constructor
  · rintro ⟨hmerchant, hunnamed, hunplaced⟩
    refine ⟨(h.minerId hm).mpr ⟨hmerchant, hunnamed⟩, ?_⟩
    by_contra hne
    exact hne (hunplaced _ ((h.blockHash hne).mp rfl))
  · rintro ⟨hminer, hblock⟩
    rcases (h.minerId hm).mp hminer with ⟨hmerchant, hunnamed⟩
    refine ⟨hmerchant, hunnamed, ?_⟩
    intro hash hhash
    by_contra hne
    rw [(h.blockHash hne).mpr hhash] at hblock
    exact hne hblock

/-- An answer of a miner that can be read counts for the mempool if and only if it reports the
transaction that was asked for, unless the miner gives itself an empty name in it and tells of no
block. Such a name is taken as it stands, where one that is absent or `null` is replaced by that of
the settings, and a record with neither miner nor block counts for nothing. -/
theorem acknowledgment_counts_iff (m : Miner) (id body : String) (s : MinerSighting)
    (hm : Text.isBlankText m.id = false) (hid : TxId.isLongEnough id = true)
    (hs : (status m id).read (.ok body) = .ok s) :
    ∃ d, account? m.dialect body = some d ∧
      ∀ (w : World) (now : Instant) (delay : Nat),
        w now (.status m id) = .answer delay ((status m id).read (.ok body)) →
        ((∃ r, ((Provider.miner m).sighting id w now).Shows id .mempool r) ↔
          Reports m.dialect d id ∧ ¬ Nameless m.dialect d) := by
  -- the name in the settings is not empty, so only one in the answer can be
  have hm : m.id ≠ "" := by
    intro hblank
    rw [hblank] at hm
    cases hm
  have hne : id ≠ "" := by
    rintro rfl
    cases hid
  rcases status_read_eq_ok_iff.mp hs with ⟨d, hd, hsighting⟩
  have haccounts := accounts_of_sightingIn? hsighting
  refine ⟨d, hd, fun w now delay hw => ?_⟩
  rw [hs] at hw
  rw [Provider.shows_mempool_iff hw, haccounts.nameless_iff hm, haccounts.found, haccounts.id hne,
    ← and_assoc, not_and_or]
  constructor
  · rintro ⟨⟨hknown, hnamed⟩, hvouched⟩
    exact ⟨⟨hknown, hnamed⟩, hvouched⟩
  · rintro ⟨⟨hknown, hnamed⟩, hvouched⟩
    exact ⟨⟨hknown, hnamed⟩, hvouched⟩

/-! ## Three answers -/

/-- An outside in which miners answer look-ups at once, and nobody else answers. -/
def statusWorld (reply : Reply MinerSighting) : World
  | _, .status _ _ => .answer 0 reply
  | _, _ => .silence

def arcMiner : Miner := { id := "a", name := "Arc", url := "http://arc.example", dialect := .arc }

def minedBody : String :=
  "\x7b\"txid\":\"3b7f1a1c2e5d9f0a4b6c8d7e1f2a3b4c5d6e7f8091a2b3c4d5e6f708192a3b4c\",\"txStatus\":\"MINED\"\x7d"

def storedBody : String :=
  "\x7b\"txid\":\"3b7f1a1c2e5d9f0a4b6c8d7e1f2a3b4c5d6e7f8091a2b3c4d5e6f708192a3b4c\",\"txStatus\":\"STORED\",\"blockHash\":\"b\"\x7d"

/-- A miner that has mined the transaction counts. One that only stores it does not, though it tells
of a block. -/
theorem mined_counts_and_stored_does_not :
    let mined := (status arcMiner Search.trialId).read (.ok minedBody)
    let stored := (status arcMiner Search.trialId).read (.ok storedBody)
    (∃ r, ((Provider.miner arcMiner).sighting Search.trialId (statusWorld mined) 0).Shows
      Search.trialId .mempool r) ∧
    ¬ ∃ r, ((Provider.miner arcMiner).sighting Search.trialId (statusWorld stored) 0).Shows
      Search.trialId .mempool r := by
  intro mined stored
  let minedAccount : Document :=
    .record [("txid", .text Search.trialId), ("txStatus", .text "MINED")]
  let storedAccount : Document := .record [("txid", .text Search.trialId),
    ("txStatus", .text "STORED"), ("blockHash", .text "b")]
  have hmined : account? .arc minedBody = some minedAccount := rfl
  have hstored : account? .arc storedBody = some storedAccount := rfl
  have hid : TxId.isLongEnough Search.trialId = true := by decide
  constructor
  · obtain ⟨d, hd, hcounts⟩ := acknowledgment_counts_iff arcMiner Search.trialId minedBody _
      (by decide) hid (status_read_eq_ok_iff.mpr ⟨minedAccount, hmined, rfl⟩)
    obtain rfl : minedAccount = d := Option.some.inj (hmined.symm.trans hd)
    refine (hcounts (statusWorld mined) 0 0 rfl).mpr ⟨⟨?_, ?_⟩, ?_⟩
    · exact .inr ⟨_, rfl, rfl⟩
    · exact ⟨_, rfl, rfl⟩
    · rintro ⟨hmerchant, -, -⟩
      cases hmerchant
  · obtain ⟨d, hd, hcounts⟩ := acknowledgment_counts_iff arcMiner Search.trialId storedBody _
      (by decide) hid (status_read_eq_ok_iff.mpr ⟨storedAccount, hstored, rfl⟩)
    obtain rfl : storedAccount = d := Option.some.inj (hstored.symm.trans hd)
    intro hshows
    rcases (hcounts (statusWorld stored) 0 0 rfl).mp hshows with ⟨⟨hknown, -⟩, -⟩
    have hstage : ∀ text, Says .arc storedAccount "txStatus" text → "STORED" = text := by
      rintro text ⟨ms, hms, htext⟩
      cases hms
      exact Document.text.inj (Option.some.inj htext)
    rcases hknown with hseen | hmined
    · exact absurd (hstage _ hseen) (by decide)
    · exact absurd (hstage _ hmined) (by decide)

def merchantMiner : Miner := { id := "t", name := "Taal", url := "http://taal.example" }

/-- An account that the miner signs with an empty name. -/
def namelessAccount : Document :=
  .record [("txid", .text Search.trialId), ("returnResult", .text "success"), ("minerId", .text "")]

/-- The text of the account. -/
def namelessPayload : String :=
  "\x7b\"txid\":\"3b7f1a1c2e5d9f0a4b6c8d7e1f2a3b4c5d6e7f8091a2b3c4d5e6f708192a3b4c\",\"returnResult\":\"success\",\"minerId\":\"\"\x7d"

/-- The answer that wraps it. -/
def namelessBody : String :=
  "\x7b\"payload\":\"\x7b\\\"txid\\\":\\\"3b7f1a1c2e5d9f0a4b6c8d7e1f2a3b4c5d6e7f8091a2b3c4d5e6f708192a3b4c\\\",\\\"returnResult\\\":\\\"success\\\",\\\"minerId\\\":\\\"\\\"\x7d\"\x7d"

set_option maxRecDepth 2048 in
theorem account_nameless : account? .merchant namelessBody = some namelessAccount := by
  have hpayload : (Document.Json.read? namelessBody).bind payload? = some namelessPayload := rfl
  rw [account?, hpayload]
  rfl

/-- A miner that knows the transaction, by a readable answer about it, and yet does not count. -/
theorem nameless_acknowledgment_does_not_count :
    let reply := (status merchantMiner Search.trialId).read (.ok namelessBody)
    Text.isBlankText merchantMiner.id = false ∧ TxId.isLongEnough Search.trialId = true ∧
      account? merchantMiner.dialect namelessBody = some namelessAccount ∧
      Reports merchantMiner.dialect namelessAccount Search.trialId ∧ (∃ s, reply = .ok s) ∧
      ¬ ∃ r, ((Provider.miner merchantMiner).sighting Search.trialId (statusWorld reply) 0).Shows
        Search.trialId .mempool r := by
  intro reply
  have hreply : reply = .ok ⟨Search.trialId, "", "", 0, 0, true, "", none⟩ :=
    status_read_eq_ok_iff.mpr ⟨namelessAccount, account_nameless, rfl⟩
  refine ⟨by decide, by decide, account_nameless, ⟨⟨_, rfl, rfl⟩, ⟨_, rfl, rfl⟩⟩, ⟨_, hreply⟩, ?_⟩
  have hworld : statusWorld reply 0 (.status merchantMiner Search.trialId) = .answer 0
      (.ok ⟨Search.trialId, "", "", 0, 0, true, "", none⟩) := congrArg (Response.answer 0) hreply
  rw [Provider.shows_mempool_iff hworld]
  rintro ⟨-, -, hvouched⟩
  rcases hvouched with hminer | hblock
  · exact hminer rfl
  · exact hblock rfl

end Http.Mining

end TxGateway
