import TxGateway.Merkle
import TxGateway.Proofs.Document.Table
import TxGateway.Proofs.Redaction
import TxGateway.Proofs.Timestamp
import TxGateway.Provider.Answer
import TxGateway.Transaction

namespace TxGateway

/-! # Writing and reading again

Every record that is written as a document is read back from it, with a mark in place of each
secret. When a member is left out, and what its absence means to a reader, differs from member to
member; a table tells what is written for each, and the proofs read it row by row in the order of
declaration.

* `Document.RoundTrips` is the property, with the values that it is about.
* `documents_round_trip` states it for every record that is both read and written.
-/

open Document Document.Table

/-! ## Single values -/

namespace Document

variable {α β : Type}

/-- What is written for a value that can be kept is read as what is left of it, and nothing else is
ever read. So a document that has been read, written and read again gives what is left as well. -/
structure RoundTrips (read? : Document → Option α) (write : α → Document) (left : α → α)
    (Kept : α → Prop) : Prop where
  written : ∀ v, Kept v → read? (write v) = some (left v)
  kept : ∀ d v, read? d = some v → Kept v
  again : ∀ d v, read? d = some v → read? (write v) = some (left v) :=
    fun d v h => written v (kept d v h)

/-- One step of reading. -/
theorem bind_of_eq_some {x : Option α} {f : α → Option β} {a : α} {b : β} (hx : x = some a)
    (hf : f a = some b) : (x >>= f) = some b := by
  rw [hx]
  exact hf

theorem word?_ofWord (n : UInt64) : word? (ofWord n) = some n := by
  have hlt : n.toNat < Word.bound := by
    rw [Word.bound_eq_size]
    exact n.toNat_lt
  have hword : Word.isUnsigned n.toNat = true := by
    simp [Word.isUnsigned, hlt]
  simp [word?, ofWord, hword]

/-- Only `null` is kept as `null`. -/
theorem ne_null_of_free? {d v : Document} (hd : d ≠ .null) (h : d.free? = some v) : v ≠ .null := by
  have hfinite : ∀ {x : Decimal}, finite? x = some v → v ≠ .null := by
    intro x hx
    unfold finite? at hx
    split at hx
    · cases hx
      simp
    · cases hx
  cases d with
  | null => exact absurd rfl hd
  | integer n =>
    simp only [free?, freeInteger?] at h
    split at h
    · cases h
      simp
    · exact hfinite h
  | decimal x => exact hfinite h
  | list items =>
    obtain ⟨_, -, rfl⟩ := Option.map_eq_some_iff.mp h
    simp
  | record members =>
    obtain ⟨_, -, rfl⟩ := Option.map_eq_some_iff.mp h
    simp
  | bool _ | text _ =>
    cases h
    simp
  | token _ => cases h

end Document

/-- A value of any shape that is not left out. -/
def FreeValue.IsSome (x : Option FreeValue) : Prop := ∀ p ∈ x, p.document ≠ .null

theorem FreeValue.ne_null_of_ofDocument? {d : Document} {p : FreeValue} (hd : d ≠ .null)
    (h : ofDocument? d = some p) : p.document ≠ .null := by
  unfold ofDocument? at h
  split at h
  · next v hv =>
    cases h
    exact ne_null_of_free? hd hv
  · cases h

theorem MinerDialect.ofDocument?_toDocument (d : MinerDialect) :
    ofDocument? d.toDocument = some d := by
  cases d <;> rfl

theorem Verdict.ofDocument?_toDocument (v : Verdict) : ofDocument? v.toDocument = some v := by
  cases v <;> rfl

theorem Stragglers.ofDocument?_toDocument (s : Stragglers) : ofDocument? s.toDocument = some s := by
  cases s <;> rfl

theorem Timestamp.ofDocument?_toDocument {t : Timestamp} (h : read? t.text = some t) :
    ofDocument? t.toDocument = some t := by
  rw [ofDocument?, toDocument, text?, Option.bind_some, h]

theorem Timestamp.read?_text_of_ofDocument? {d : Document} {t : Timestamp}
    (h : ofDocument? d = some t) : read? t.text = some t := by
  obtain ⟨text, -, htext⟩ := Option.bind_eq_some_iff.mp h
  exact read?_text (sound_of_read? htext)

theorem Secret.readsSome (x : Option Secret) :
    ReadsSome Secret.ofDocument? Secret.toDocument Secret.redacted x := fun _ _ => ⟨nofun, rfl⟩

/-! ## Fees and miners -/

namespace Fee

def table (f : Fee) : Table ["satoshis", "bytes"] where
  rows := [("satoshis", some (.ofWord f.satoshis)), ("bytes", some (.ofWord f.bytes))]
  names := rfl
  distinct := by decide

theorem ofDocument?_toDocument (f : Fee) : ofDocument? f.toDocument = some f := by
  refine bind_of_eq_some f.table.members?_document ?_
  refine bind_of_eq_some (required_of_row rfl (word?_ofWord f.satoshis)) ?_
  refine bind_of_eq_some (required_of_row rfl (word?_ofWord f.bytes)) ?_
  rfl

end Fee

namespace Miner

/-- The time of the probe can be read as it is written. -/
def Kept (m : Miner) : Prop := ∀ t ∈ m.probedAt, Timestamp.read? t.text = some t

def table (m : Miner) : Table memberNames where
  rows := [("miner_id", some (.text m.id)), ("name", some (.text m.name)),
    ("url", some (.text m.url)), ("token", m.token.map Secret.toDocument),
    ("api", some m.dialect.toDocument), ("fee_unit", m.fee.map Fee.toDocument),
    ("fee_last_checked", m.probedAt.map Timestamp.toDocument)]
  names := rfl
  distinct := by decide

theorem toDocument_eq (m : Miner) : m.toDocument = m.table.document := by
  rw [toDocument, Table.document, table]
  cases m.token <;> cases m.fee <;> cases m.probedAt <;> rfl

theorem roundTrips : RoundTrips ofDocument? toDocument redacted Kept where
  written m hclock := by
    rw [toDocument_eq]
    refine bind_of_eq_some m.table.members?_document ?_
    refine bind_of_eq_some (required_of_row rfl rfl) ?_
    refine bind_of_eq_some (required_of_row rfl rfl) ?_
    refine bind_of_eq_some (required_of_row rfl rfl) ?_
    refine bind_of_eq_some (optional_of_row rfl (Secret.readsSome m.token)) ?_
    refine bind_of_eq_some (withDefault_of_written rfl m.dialect.ofDocument?_toDocument) ?_
    refine bind_of_eq_some
      (optional_same_of_row rfl fun f _ => ⟨nofun, f.ofDocument?_toDocument⟩) ?_
    refine bind_of_eq_some (optional_same_of_row rfl fun t ht =>
      ⟨nofun, Timestamp.ofDocument?_toDocument (hclock t ht)⟩) ?_
    rfl
  kept d m h := by
    simp only [ofDocument?, Option.bind_eq_bind, Option.bind_eq_some_iff] at h
    obtain ⟨ms, -, _, -, _, -, _, -, _, -, _, -, _, -, probedAt, hprobed, h⟩ := h
    cases h
    rintro t rfl
    obtain ⟨e, -, he⟩ := exists_of_optional hprobed
    exact Timestamp.read?_text_of_ofDocument? he

theorem list?_toDocument {ms : List Miner} (h : ∀ m ∈ ms, m.Kept) :
    list? ofDocument? (Settings.minersDocument ms) = some (ms.map redacted) :=
  list?_of_forall fun m hm => roundTrips.written m (h m hm)

end Miner

/-! ## Records of transactions -/

namespace TxRecord

def Kept (r : TxRecord) : Prop := FreeValue.IsSome r.merkleProof

def table (r : TxRecord) : Table memberNames where
  rows := [("block_hash", if r.blockHash == "" then none else some (.text r.blockHash)),
    ("block_height", some (.ofWord r.blockHeight)),
    ("confirmations", if r.confirmations == 0 then none else some (.ofWord r.confirmations)),
    ("id", some (.text r.id)),
    ("miner_id", if r.minerId == "" then none else some (.text r.minerId)),
    ("provider", if r.provider == "" then none else some (.text r.provider)),
    ("merkle_proof", r.merkleProof.map FreeValue.document)]
  names := rfl
  distinct := by decide

theorem toDocument_eq (r : TxRecord) : r.toDocument = r.table.document := by
  rw [toDocument, Table.document, table]
  cases r.blockHash == "" <;> cases r.confirmations == 0 <;> cases r.minerId == "" <;>
    cases r.provider == "" <;> cases r.merkleProof <;> rfl

theorem roundTrips : RoundTrips ofDocument? toDocument (fun r => r) Kept where
  written r hproof := by
    rw [toDocument_eq]
    refine bind_of_eq_some r.table.members?_document ?_
    refine bind_of_eq_some (withDefault_of_row rfl eq_of_beq rfl) ?_
    refine bind_of_eq_some (withDefault_of_written rfl (word?_ofWord r.blockHeight)) ?_
    refine bind_of_eq_some (withDefault_of_row rfl eq_of_beq (word?_ofWord r.confirmations)) ?_
    refine bind_of_eq_some (required_of_row rfl rfl) ?_
    refine bind_of_eq_some (withDefault_of_row rfl eq_of_beq rfl) ?_
    refine bind_of_eq_some (withDefault_of_row rfl eq_of_beq rfl) ?_
    refine bind_of_eq_some
      (optional_same_of_row rfl fun p hp => ⟨hproof p hp, p.ofDocument?_document⟩) ?_
    rfl
  kept d r h := by
    simp only [ofDocument?, Option.bind_eq_bind, Option.bind_eq_some_iff] at h
    obtain ⟨ms, -, _, -, _, -, _, -, _, -, _, -, _, -, proof, hproof, h⟩ := h
    cases h
    rintro p rfl
    obtain ⟨e, he, hread⟩ := exists_of_optional hproof
    exact FreeValue.ne_null_of_ofDocument? he hread

end TxRecord

namespace Submission

def table (s : Submission) : Table ["tx_id", "miner_id", "accepted", "description"] where
  rows := [("tx_id", some (.text s.id)), ("miner_id", some (.text s.minerId)),
    ("accepted", some (.bool s.accepted)), ("description", some (.text s.description))]
  names := rfl
  distinct := by decide

theorem ofDocument?_toDocument (s : Submission) : ofDocument? s.toDocument = some s := by
  refine bind_of_eq_some s.table.members?_document ?_
  refine bind_of_eq_some (required_of_row rfl rfl) ?_
  refine bind_of_eq_some (required_of_row rfl rfl) ?_
  refine bind_of_eq_some (required_of_row rfl rfl) ?_
  refine bind_of_eq_some (required_of_row rfl rfl) ?_
  rfl

end Submission

namespace MinerSighting

def Kept (s : MinerSighting) : Prop := FreeValue.IsSome s.merkleProof

def table (s : MinerSighting) : Table memberNames where
  rows := [("tx_id", some (.text s.id)), ("miner_id", some (.text s.minerId)),
    ("block_hash", some (.text s.blockHash)), ("block_height", some (.ofWord s.blockHeight)),
    ("confirmations", some (.ofWord s.confirmations)), ("found", some (.bool s.found)),
    ("description", some (.text s.description)),
    ("merkle_proof", some (.ofOption FreeValue.document s.merkleProof))]
  names := rfl
  distinct := by decide

theorem roundTrips : RoundTrips ofDocument? toDocument (fun s => s) Kept where
  written s hproof := by
    refine bind_of_eq_some s.table.members?_document ?_
    refine bind_of_eq_some (required_of_row rfl rfl) ?_
    refine bind_of_eq_some (required_of_row rfl rfl) ?_
    refine bind_of_eq_some (required_of_row rfl rfl) ?_
    refine bind_of_eq_some (required_of_row rfl (word?_ofWord s.blockHeight)) ?_
    refine bind_of_eq_some (required_of_row rfl (word?_ofWord s.confirmations)) ?_
    refine bind_of_eq_some (required_of_row rfl rfl) ?_
    refine bind_of_eq_some (required_of_row rfl rfl) ?_
    refine bind_of_eq_some
      (nullable_same_of_written rfl fun p hp => ⟨hproof p hp, p.ofDocument?_document⟩) ?_
    rfl
  kept d s h := by
    simp only [ofDocument?, Option.bind_eq_bind, Option.bind_eq_some_iff] at h
    obtain ⟨ms, -, _, -, _, -, _, -, _, -, _, -, _, -, _, -, proof, hproof, h⟩ := h
    cases h
    rintro p rfl
    obtain ⟨e, he, hread⟩ := exists_of_nullable hproof
    exact FreeValue.ne_null_of_ofDocument? he hread

end MinerSighting

namespace ChainSighting

def table (s : ChainSighting) :
    Table ["tx_id", "block_hash", "block_height", "confirmations"] where
  rows := [("tx_id", some (.text s.id)), ("block_hash", some (.text s.blockHash)),
    ("block_height", some (.ofWord s.blockHeight)),
    ("confirmations", some (.ofWord s.confirmations))]
  names := rfl
  distinct := by decide

theorem ofDocument?_toDocument (s : ChainSighting) : ofDocument? s.toDocument = some s := by
  refine bind_of_eq_some s.table.members?_document ?_
  refine bind_of_eq_some (required_of_row rfl rfl) ?_
  refine bind_of_eq_some (required_of_row rfl rfl) ?_
  refine bind_of_eq_some (required_of_row rfl (word?_ofWord s.blockHeight)) ?_
  refine bind_of_eq_some (required_of_row rfl (word?_ofWord s.confirmations)) ?_
  rfl

end ChainSighting

/-! ## Merkle roots -/

namespace RootClaim

def table (c : RootClaim) : Table ["merkleRoot", "blockHeight"] where
  rows := [("merkleRoot", some (.text c.root)), ("blockHeight", some (.ofWord c.height))]
  names := rfl
  distinct := by decide

theorem ofDocument?_toDocument (c : RootClaim) : ofDocument? c.toDocument = some c := by
  refine bind_of_eq_some c.table.members?_document ?_
  refine bind_of_eq_some (required_of_row rfl rfl) ?_
  refine bind_of_eq_some (required_of_row rfl (word?_ofWord c.height)) ?_
  rfl

end RootClaim

namespace RootVerdict

def table (v : RootVerdict) : Table ["merkleRoot", "blockHeight", "hash", "confirmation"] where
  rows := [("merkleRoot", some (.text v.root)), ("blockHeight", some (.ofWord v.height)),
    ("hash", v.hash.map .text), ("confirmation", some v.verdict.toDocument)]
  names := rfl
  distinct := by decide

theorem toDocument_eq (v : RootVerdict) : v.toDocument = v.table.document := by
  rw [toDocument, Table.document, table]
  cases v.hash <;> rfl

theorem ofDocument?_toDocument (v : RootVerdict) : ofDocument? v.toDocument = some v := by
  rw [toDocument_eq]
  refine bind_of_eq_some v.table.members?_document ?_
  refine bind_of_eq_some (required_of_row rfl rfl) ?_
  refine bind_of_eq_some (required_of_row rfl (word?_ofWord v.height)) ?_
  refine bind_of_eq_some (optional_same_of_row rfl fun _ _ => ⟨nofun, rfl⟩) ?_
  refine bind_of_eq_some (required_of_row rfl v.verdict.ofDocument?_toDocument) ?_
  rfl

end RootVerdict

namespace BatchVerdict

def table (v : BatchVerdict) : Table ["confirmationState", "confirmations"] where
  rows := [("confirmationState", some v.overall.toDocument),
    ("confirmations", some (.list (v.roots.map RootVerdict.toDocument)))]
  names := rfl
  distinct := by decide

theorem ofDocument?_toDocument (v : BatchVerdict) : ofDocument? v.toDocument = some v := by
  have hroots : list? RootVerdict.ofDocument? (.list (v.roots.map RootVerdict.toDocument)) =
      some v.roots := by
    rw [list?_of_forall fun r _ => r.ofDocument?_toDocument, List.map_id']
  refine bind_of_eq_some v.table.members?_document ?_
  refine bind_of_eq_some (required_of_row rfl v.overall.ofDocument?_toDocument) ?_
  refine bind_of_eq_some (withDefault_of_written rfl hroots) ?_
  rfl

end BatchVerdict

/-! ## Settings -/

theorem Network.ofDocument?_toDocument (n : Network) : ofDocument? n.toDocument = some n :=
  ofName?_name n

theorem Family.ofDocument?_toDocument (f : Family) : ofDocument? f.toDocument = some f :=
  ofName?_name f

namespace Endpoint

def table (e : Endpoint) : Table ["url", "api_key"] where
  rows := [("url", some (.text e.url)), ("api_key", e.apiKey.map Secret.toDocument)]
  names := rfl
  distinct := by decide

theorem toDocument_eq (e : Endpoint) : e.toDocument = e.table.document := by
  rw [toDocument, Table.document, table]
  cases e.apiKey <;> rfl

theorem ofDocument?_toDocument (e : Endpoint) : ofDocument? e.toDocument = some e.redacted := by
  rw [toDocument_eq]
  refine bind_of_eq_some e.table.members?_document ?_
  refine bind_of_eq_some (required_of_row rfl rfl) ?_
  refine bind_of_eq_some (optional_of_row rfl (Secret.readsSome e.apiKey)) ?_
  rfl

theorem readsSome (x : Option Endpoint) : ReadsSome ofDocument? toDocument redacted x :=
  fun e _ => ⟨nofun, e.ofDocument?_toDocument⟩

end Endpoint

namespace Verifier

def table (v : Verifier) : Table ["url", "token"] where
  rows := [("url", some (.text v.url)), ("token", some v.token.toDocument)]
  names := rfl
  distinct := by decide

theorem ofDocument?_toDocument (v : Verifier) : ofDocument? v.toDocument = some v.redacted := by
  refine bind_of_eq_some v.table.members?_document ?_
  refine bind_of_eq_some (required_of_row rfl rfl) ?_
  refine bind_of_eq_some (required_of_row rfl rfl) ?_
  rfl

end Verifier

namespace Settings

/-- Every miner of the settings can be read as it is written. -/
def Kept (s : Settings) : Prop := ∀ p, ∀ ms ∈ s.namedMiners p, ∀ m ∈ ms, m.Kept

def minersTable (s : Settings) : Table ["broadcast", "query"] where
  rows := [("broadcast", some (.ofOption minersDocument s.broadcastMiners)),
    ("query", some (.ofOption minersDocument s.queryMiners))]
  names := rfl
  distinct := by decide

def table (s : Settings) : Table memberNames where
  rows := [("network", some s.network.toDocument),
    ("excluded_providers", some (.list (s.excluded.map Family.toDocument))),
    ("query_timeout_seconds", some (.ofWord s.querySeconds)),
    ("broadcast_timeout_seconds", some (.ofWord s.broadcastSeconds)),
    ("merkle_timeout_seconds", some (.ofWord s.merkleSeconds)),
    ("fee_probe_timeout_seconds", some (.ofWord s.feeProbeSeconds)),
    ("validate_fee_quotes", some (.bool s.useQuotedFees)),
    ("race_stragglers", some s.raceStragglers.toDocument),
    ("merkle_stragglers", some s.merkleStragglers.toDocument),
    ("miners", some s.minersTable.document), ("explorer", some s.explorer.toDocument),
    ("secondary_explorer", some (.ofOption Endpoint.toDocument s.secondaryExplorer)),
    ("node_proxy", some (.ofOption Endpoint.toDocument s.nodeProxy)),
    ("merkle_verifiers", some (.list (s.verifiers.map Verifier.toDocument)))]
  names := rfl
  distinct := by decide

theorem minerLists?_minersTable {s : Settings} (h : s.Kept) :
    minerLists? s.minersTable.document =
      some (s.redacted.broadcastMiners, s.redacted.queryMiners) := by
  have hminers : ∀ p, ReadsSome (list? Miner.ofDocument?) minersDocument (List.map Miner.redacted)
      (s.namedMiners p) := fun p ms hms => ⟨nofun, Miner.list?_toDocument (h p ms hms)⟩
  refine bind_of_eq_some s.minersTable.members?_document ?_
  refine bind_of_eq_some (nullable_of_written rfl (hminers .broadcast)) ?_
  refine bind_of_eq_some (nullable_of_written rfl (hminers .query)) ?_
  rfl

theorem kept_of_nullable {ms : Members} {name : String} {miners : Option (List Miner)}
    (h : ms.nullable name (list? Miner.ofDocument?) = some miners) :
    ∀ list ∈ miners, ∀ m ∈ list, m.Kept := by
  rintro list rfl m hm
  obtain ⟨d, -, hlist⟩ := exists_of_nullable h
  obtain ⟨item, hitem⟩ := exists_of_mem_list? hlist hm
  exact Miner.roundTrips.kept item m hitem

theorem kept_of_minerLists? {ms : Members} {lists : Option (List Miner) × Option (List Miner)}
    (h : ms.withDefault "miners" minerLists? (none, none) = some lists) :
    (∀ list ∈ lists.1, ∀ m ∈ list, m.Kept) ∧ ∀ list ∈ lists.2, ∀ m ∈ list, m.Kept := by
  unfold Members.withDefault at h
  split at h
  · simp only [minerLists?, Option.bind_eq_bind, Option.bind_eq_some_iff] at h
    obtain ⟨members, -, broadcast, hbroadcast, query, hquery, hlists⟩ := h
    cases hlists
    exact ⟨kept_of_nullable hbroadcast, kept_of_nullable hquery⟩
  · cases h
    exact ⟨nofun, nofun⟩

theorem roundTrips : RoundTrips ofDocument? toDocument redacted Kept where
  written s hminers := by
    have hfamilies : list? Family.ofDocument? (.list (s.excluded.map Family.toDocument)) =
        some s.excluded := by
      rw [list?_of_forall fun f _ => f.ofDocument?_toDocument, List.map_id']
    have hverifiers : list? Verifier.ofDocument? (.list (s.verifiers.map Verifier.toDocument)) =
        some (s.verifiers.map Verifier.redacted) :=
      list?_of_forall fun v _ => v.ofDocument?_toDocument
    refine bind_of_eq_some s.table.members?_document ?_
    refine bind_of_eq_some (withDefault_of_written rfl s.network.ofDocument?_toDocument) ?_
    refine bind_of_eq_some (withDefault_of_written rfl hfamilies) ?_
    refine bind_of_eq_some (withDefault_of_written rfl (word?_ofWord s.querySeconds)) ?_
    refine bind_of_eq_some (withDefault_of_written rfl (word?_ofWord s.broadcastSeconds)) ?_
    refine bind_of_eq_some (withDefault_of_written rfl (word?_ofWord s.merkleSeconds)) ?_
    refine bind_of_eq_some (withDefault_of_written rfl (word?_ofWord s.feeProbeSeconds)) ?_
    refine bind_of_eq_some (withDefault_of_written rfl rfl) ?_
    refine bind_of_eq_some
      (withDefault_of_written rfl s.raceStragglers.ofDocument?_toDocument) ?_
    refine bind_of_eq_some
      (withDefault_of_written rfl s.merkleStragglers.ofDocument?_toDocument) ?_
    refine bind_of_eq_some (withDefault_of_written rfl (minerLists?_minersTable hminers)) ?_
    refine bind_of_eq_some (withDefault_of_written rfl s.explorer.ofDocument?_toDocument) ?_
    refine bind_of_eq_some (optional_of_written rfl (Endpoint.readsSome s.secondaryExplorer)) ?_
    refine bind_of_eq_some (optional_of_written rfl (Endpoint.readsSome s.nodeProxy)) ?_
    refine bind_of_eq_some (withDefault_of_written rfl hverifiers) ?_
    rfl
  kept d s h := by
    unfold ofDocument? at h
    -- the lists of miners stand behind nine other members, and in front of four
    iterate 10 obtain ⟨_, -, h⟩ := Option.bind_eq_some_iff.mp h
    obtain ⟨lists, hlists, h⟩ := Option.bind_eq_some_iff.mp h
    iterate 4 obtain ⟨_, -, h⟩ := Option.bind_eq_some_iff.mp h
    cases h
    obtain ⟨hbroadcast, hquery⟩ := kept_of_minerLists? hlists
    intro p
    cases p with
    | broadcast => exact hbroadcast
    | query => exact hquery

end Settings

/-- Every record that is both read and written comes back from its document, with a mark in place of
each secret and nothing else changed: settings and miners if the times of probes can be read as they
are written, and records with a proof if that is no `null`. Reading a document, in whatever shape,
gives such records only. -/
theorem documents_round_trip :
    RoundTrips TxRecord.ofDocument? TxRecord.toDocument (fun r => r) TxRecord.Kept ∧
    RoundTrips Fee.ofDocument? Fee.toDocument (fun f => f) (fun _ => True) ∧
    RoundTrips Miner.ofDocument? Miner.toDocument Miner.redacted Miner.Kept ∧
    RoundTrips RootClaim.ofDocument? RootClaim.toDocument (fun c => c) (fun _ => True) ∧
    RoundTrips RootVerdict.ofDocument? RootVerdict.toDocument (fun v => v) (fun _ => True) ∧
    RoundTrips BatchVerdict.ofDocument? BatchVerdict.toDocument (fun v => v) (fun _ => True) ∧
    RoundTrips Submission.ofDocument? Submission.toDocument (fun s => s) (fun _ => True) ∧
    RoundTrips MinerSighting.ofDocument? MinerSighting.toDocument (fun s => s)
      MinerSighting.Kept ∧
    RoundTrips ChainSighting.ofDocument? ChainSighting.toDocument (fun s => s) (fun _ => True) ∧
    RoundTrips Settings.ofDocument? Settings.toDocument Settings.redacted Settings.Kept := by
  have hwhole : ∀ {α : Type} {read? : Document → Option α} {write : α → Document},
      (∀ v, read? (write v) = some v) → RoundTrips read? write (fun v => v) (fun _ => True) :=
    fun h => ⟨fun v _ => h v, fun _ _ _ => trivial, fun _ v _ => h v⟩
  exact ⟨TxRecord.roundTrips, hwhole Fee.ofDocument?_toDocument, Miner.roundTrips,
    hwhole RootClaim.ofDocument?_toDocument, hwhole RootVerdict.ofDocument?_toDocument,
    hwhole BatchVerdict.ofDocument?_toDocument, hwhole Submission.ofDocument?_toDocument,
    MinerSighting.roundTrips, hwhole ChainSighting.ofDocument?_toDocument, Settings.roundTrips⟩

end TxGateway
