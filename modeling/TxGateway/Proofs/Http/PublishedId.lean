import TxGateway.Proofs.Http.Acknowledgment
import TxGateway.Proofs.Http.RefusalWords

namespace TxGateway

/-! # The id in an explorer's answer

An explorer answers a submission with the id of the transaction, as a JSON string or as bare text.
The answer is read as JSON first, and if that gives no string, blanks and quotes are taken off its
ends. Which of the two ways is taken depends on the quotes, and an id of decimal digits alone is
JSON of another kind.

* `Document.Json.eq_of_read?_text`: the first way gives the id or nothing.
* `Http.Explorer.publishedId_wrapped`: so the id is read between any quotes and any blanks.
* `Http.wrapped_id_settles_submission` follows it to the end of the submission.
-/

/-! ## Trimming -/

namespace Text

variable {p : Char → Bool} {front s back : List Char}

theorem dropWhile_of_none (hne : s ≠ []) (hs : ∀ c ∈ s, p c = false) (rest : List Char) :
    (s ++ rest).dropWhile p = s ++ rest := by
  cases s with
  | nil => exact absurd rfl hne
  | cons c s => exact List.dropWhile_cons_of_neg (by simp [hs c List.mem_cons_self])

/-- Trimming leaves what lies between two runs of characters of the class. -/
theorem trimOf_between (hfront : ∀ c ∈ front, p c = true) (hback : ∀ c ∈ back, p c = true)
    (hne : s ≠ []) (hs : ∀ c ∈ s, p c = false) :
    trimOf p (String.ofList (front ++ (s ++ back))) = String.ofList s := by
  have hback' : ∀ c ∈ back.reverse, p c = true := fun c hc => hback c (List.mem_reverse.mp hc)
  have hs' : ∀ c ∈ s.reverse, p c = false := fun c hc => hs c (List.mem_reverse.mp hc)
  have hend : s.reverse.dropWhile p = s.reverse := by
    simpa using dropWhile_of_none (List.reverse_ne_nil_iff.mpr hne) hs' []
  rw [trimOf, String.toList_ofList, List.dropWhile_append_of_pos hfront,
    dropWhile_of_none hne hs, List.reverse_append, List.dropWhile_append_of_pos hback', hend,
    List.reverse_reverse]

end Text

/-! ## JSON strings -/

namespace Document.Json

variable {c : Char} {s rest : List Char} {x : String}

theorem readUnsigned?_ne_text {negative : Bool} :
    readUnsigned? negative s ≠ some (.text x, rest) := by
  intro h
  obtain ⟨⟨whole, t⟩, -, h⟩ := Option.bind_eq_some_iff.mp h
  obtain ⟨⟨fraction, t⟩, -, h⟩ := Option.bind_eq_some_iff.mp h
  obtain ⟨⟨exponent, t⟩, -, h⟩ := Option.bind_eq_some_iff.mp h
  -- whatever the parts of the number are, they are put together to an integer or a decimal
  simp only at h
  split at h
  · have hvalue := congrArg Prod.fst (Option.some.inj h)
    simp only at hvalue
    split at hvalue
    · split at hvalue <;> cases hvalue
    · cases hvalue
  · cases h

theorem readNumber?_ne_text : readNumber? s ≠ some (.text x, rest) := by
  unfold readNumber?
  split <;> exact readUnsigned?_ne_text

/-- A string begins with a quote. -/
theorem readScalar?_eq_text (h : readScalar? s = some (.text x, rest)) :
    ∃ t, s = '"' :: t ∧ readString none true [] t = some (some x, rest) := by
  unfold readScalar? at h
  split at h
  · cases h
  · cases h
  · cases h
  · next t =>
    refine ⟨t, rfl, ?_⟩
    split at h
    · next hs =>
      cases h
      exact hs
    · cases h
    · cases h
  · exact absurd h readNumber?_ne_text

/-- A value that is no array and no object, without a blank before it. -/
theorem readValue?_of_scalar (hspace : isSpace c = false) (hlist : c ≠ '[')
    (hrecord : c ≠ '\x7b') (depth : Nat) (rest : List Char) :
    readValue? depth (c :: rest) = readScalar? (c :: rest) := by
  have hskip : skipSpace (c :: rest) = c :: rest :=
    List.dropWhile_cons_of_neg (by simp [hspace])
  cases depth with
  | zero => rw [readValue?, hskip]
  | succ depth =>
    rw [readValue?, hskip]
    split
    · next heq => exact absurd (List.cons.inj heq).1 hlist
    · next heq => exact absurd (List.cons.inj heq).1 hrecord
    · rfl

theorem exists_readValue? {s : String} {d : Document} (h : read? s = some d) :
    ∃ rest, readValue? maxDepth s.toList = some (d, rest) ∧ ∀ c ∈ rest, isSpace c = true := by
  unfold read? at h
  split at h
  · next d' rest hvalue =>
    split at h
    · next hrest =>
      cases h
      exact ⟨rest, hvalue, List.dropWhile_eq_nil_iff.mp (List.isEmpty_iff.mp hrest)⟩
    · cases h
  · cases h

/-- A character that stands for itself between quotes. -/
def IsPlain (c : Char) : Prop := c ≠ '"' ∧ c ≠ '\\' ∧ 0x20 ≤ c.toNat

theorem IsPlain.readString_cons (h : IsPlain c) (acc rest : List Char) :
    readString none true acc (c :: rest) = readString none true (c :: acc) rest := by
  obtain ⟨hquote, hescape, hcontrol⟩ := h
  -- all arms before the last are for quotes and escapes
  rw [readString.eq_def]
  split
  · next heq => cases heq
  · next heq => exact absurd (List.cons.inj heq).1 hquote
  · next heq => exact absurd (List.cons.inj heq).1 hescape
  · next heq => exact absurd (List.cons.inj heq).1 hescape
  · next heq =>
    cases heq
    rw [if_neg (not_or.mpr ⟨hescape, Nat.not_lt.mpr hcontrol⟩)]
    rfl

theorem readString_append (hs : ∀ c ∈ s, IsPlain c) (acc rest : List Char) :
    readString none true acc (s ++ rest) = readString none true (s.reverse ++ acc) rest := by
  induction s generalizing acc with
  | nil => rfl
  | cons c s ih =>
    rw [List.forall_mem_cons] at hs
    rw [List.cons_append, hs.1.readString_cons, ih hs.2, List.reverse_cons, List.append_assoc,
      List.singleton_append]

theorem isPlain_of_hexChar {c : Char} (h : c ∈ Text.hexChars) : IsPlain c := by
  have hall : Text.hexChars.all
      (fun d => d != '"' && d != '\\' && decide (0x20 ≤ d.toNat)) = true := by decide
  simpa [IsPlain, and_assoc] using List.all_eq_true.mp hall c h

theorem starts_scalar {c : Char} (h : c ∈ '"' :: Text.hexChars) :
    isSpace c = false ∧ c ≠ '[' ∧ c ≠ '\x7b' := by
  have hall : ('"' :: Text.hexChars).all
      (fun d => !isSpace d && d != '[' && d != '\x7b') = true := by decide
  simpa [and_assoc] using List.all_eq_true.mp hall c h

theorem readScalar?_of_read? {s : String} {d : Document} (hne : s.toList ≠ [])
    (hs : ∀ c ∈ s.toList, c ∈ '"' :: Text.hexChars) (h : read? s = some d) :
    ∃ rest, readScalar? s.toList = some (d, rest) ∧ ∀ c ∈ rest, isSpace c = true := by
  obtain ⟨rest, hvalue, hrest⟩ := exists_readValue? h
  obtain ⟨c, t, hct⟩ := List.exists_cons_of_ne_nil hne
  rw [hct] at hvalue hs ⊢
  obtain ⟨hspace, hlist, hrecord⟩ := starts_scalar (hs c List.mem_cons_self)
  rw [readValue?_of_scalar hspace hlist hrecord] at hvalue
  exact ⟨rest, hvalue, hrest⟩

theorem mem_of_quoted {id : List Char} (hid : ∀ c ∈ id, c ∈ Text.hexChars) {k m : Nat} :
    ∀ c ∈ List.replicate k '"' ++ (id ++ List.replicate m '"'), c ∈ '"' :: Text.hexChars := by
  have hquotes : ∀ n, ∀ c ∈ List.replicate n '"', c ∈ '"' :: Text.hexChars := by
    intro n c hc
    rw [List.eq_of_mem_replicate hc]
    exact List.mem_cons_self
  intro c hc
  rw [List.mem_append, List.mem_append] at hc
  rcases hc with hc | hc | hc
  · exact hquotes k c hc
  · exact List.mem_cons_of_mem _ (hid c hc)
  · exact hquotes m c hc

/-- If digits between quotes are read as a string at all, the string is made of the digits. -/
theorem eq_of_read?_text {id : List Char} (hne : id ≠ []) (hid : ∀ c ∈ id, c ∈ Text.hexChars)
    {k m : Nat} (h : read? (String.ofList (List.replicate k '"' ++
      (id ++ List.replicate m '"'))) = some (.text x)) : x = String.ofList id := by
  obtain ⟨rest, hscalar, hrest⟩ := readScalar?_of_read? (by simp [hne])
    (by rw [String.toList_ofList]; exact mem_of_quoted hid) h
  rw [String.toList_ofList] at hscalar
  obtain ⟨t, ht, hstring⟩ := readScalar?_eq_text hscalar
  obtain ⟨d, id', rfl⟩ := List.exists_cons_of_ne_nil hne
  have hd := hid d List.mem_cons_self
  match k with
  | 0 =>
    -- the text begins with a digit
    exact absurd (List.cons.inj ht).1 (isPlain_of_hexChar hd).1
  | 1 =>
    have ht' : d :: id' ++ List.replicate m '"' = t := (List.cons.inj ht).2
    rw [← ht', readString_append fun c hc => isPlain_of_hexChar (hid c hc)] at hstring
    cases m with
    | zero => cases hstring
    | succ m =>
      -- the string ends at the first quote behind the digits
      cases hstring
      rw [List.append_nil, List.reverse_reverse]
  | k + 2 =>
    -- the string ends at the second quote, and nothing but blanks may follow
    have ht' : '"' :: (List.replicate k '"' ++ (d :: id' ++ List.replicate m '"')) = t :=
      (List.cons.inj ht).2
    subst ht'
    cases hstring
    have hspace := hrest d (by simp)
    rw [(starts_scalar (List.mem_cons_of_mem _ hd)).1] at hspace
    cases hspace

end Document.Json

namespace Http

/-! ## Both forms of the answer -/

namespace Explorer

/-- Any number of quotes. -/
def quotes (k : Nat) : String := String.ofList (List.replicate k '"')

/-- A text between quotes, and other texts around that. -/
def wrapped (front : String) (k : Nat) (id : String) (m : Nat) (back : String) : String :=
  front ++ (quotes k ++ id ++ quotes m) ++ back

variable {front back id : String} {k m : Nat}

theorem isBlank_of_quoted {c : Char} (h : c ∈ '"' :: Text.hexChars) : Text.isBlank c = false := by
  have hall : ('"' :: Text.hexChars).all (fun d => !Text.isBlank d) = true := by decide
  simpa using List.all_eq_true.mp hall c h

theorem toList_wrapped : (wrapped front k id m back).toList = front.toList ++
    ((List.replicate k '"' ++ (id.toList ++ List.replicate m '"')) ++ back.toList) := by
  simp [wrapped, quotes]

theorem trim_wrapped (hid : Text.isHex id = true) (hfront : Text.isBlankText front = true)
    (hback : Text.isBlankText back = true) : Text.trim (wrapped front k id m back) =
      String.ofList (List.replicate k '"' ++ (id.toList ++ List.replicate m '"')) := by
  obtain ⟨hne, hhex⟩ := Text.isHex_iff.mp hid
  rw [← String.ofList_toList (s := wrapped front k id m back), toList_wrapped]
  exact Text.trimOf_between (List.all_eq_true.mp hfront) (List.all_eq_true.mp hback)
    (by simp [hne]) fun c hc => isBlank_of_quoted (Document.Json.mem_of_quoted hhex c hc)

/-- The id is read, whatever number of quotes and blanks there is around it. -/
theorem publishedId_wrapped (hid : Text.isHex id = true) (hfront : Text.isBlankText front = true)
    (hback : Text.isBlankText back = true) : publishedId (wrapped front k id m back) = id := by
  obtain ⟨hne, hhex⟩ := Text.isHex_iff.mp hid
  have hquote : ∀ n, ∀ c ∈ List.replicate n '"', (c == '"') = true := by
    intro n c hc
    rw [List.eq_of_mem_replicate hc]
    rfl
  rw [publishedId, trim_wrapped hid hfront hback]
  split
  · -- one quote in front, one behind
    next x hx =>
    obtain ⟨d, hread, htext⟩ := Option.bind_eq_some_iff.mp hx
    rw [Document.Members.text?_eq_some_iff.mp htext] at hread
    rw [Document.Json.eq_of_read?_text hne hhex hread, String.ofList_toList]
  · rw [Text.trimOf_between (hquote k) (hquote m) hne, String.ofList_toList]
    intro c hc
    simpa using (Document.Json.isPlain_of_hexChar (hhex c hc)).1

/-- No text of this form begins with a byte-order mark. -/
theorem head?_wrapped (hid : Text.isHex id = true) (hfront : Text.isBlankText front = true)
    (hback : Text.isBlankText back = true) :
    (wrapped front k id m back).toList.head? ≠ some '\uFEFF' := by
  intro hhead
  have hmem : '\uFEFF' ∈ (wrapped front k id m back).toList := List.mem_of_mem_head? hhead
  rw [toList_wrapped, List.mem_append, List.mem_append] at hmem
  rcases hmem with hmem | hmem | hmem
  · exact absurd (List.all_eq_true.mp hfront _ hmem) (by decide)
  · exact absurd (Document.Json.mem_of_quoted (Text.isHex_iff.mp hid).2 _ hmem) (by decide)
  · exact absurd (List.all_eq_true.mp hback _ hmem) (by decide)

theorem read_publish {s : Services} {o : Outlet} {hex : String} {x : Exchange String}
    (ho : o ≠ .nodeProxy) (hx : s.exchange? (.publish o hex) = some x) (reply : Reply String) :
    x.read reply = reply.map publishedId := by
  match o, hx with
  | .explorer, rfl => rfl
  | .secondaryExplorer, hx =>
    obtain ⟨endpoint, -, rfl⟩ := Option.map_eq_some_iff.mp hx
    rfl
  | .nodeProxy, _ => exact absurd rfl ho

end Explorer

/-! ## The end of a submission -/

theorem read_of_success_text {status : Nat} (h : isSuccess status = true) (body : List UInt8) :
    (Delivery.response status body true).read = .ok (bodyText status body) := by
  have hbounds : 200 ≤ status ∧ status < 300 := by simpa [isSuccess] using h
  have hfinal : isInterim status = false := by simp [isInterim, Nat.not_lt.mpr hbounds.1]
  have hfound : status ≠ 404 := fun heq => by omega
  rw [Delivery.read, hfinal, bodyText]
  cases hasNoBody status with
  | true => simp [readBody, hfound, h]
  | false => simp [readBody, hfound, h]

theorem checkId_eq {id named : String} (hne : named ≠ "") : Provider.checkId id named =
    if named = id then .ok () else .error (.wrongId id named) := by
  have hagrees : TxId.agrees id named = true ↔ named = id := by
    rw [TxId.agrees_iff, or_iff_left hne]
  simp only [Provider.checkId, hagrees]

/-- An outlet's answer that names a transaction accepts that one and no other. -/
theorem submission_of_named {o : Outlet} {name id named hex : String} {w : World} {now : Instant}
    {d : Nat} (hne : named ≠ "") (h : w now (.publish o hex) = .answer d (.ok named)) :
    (Provider.outlet o name).submission id hex w now =
      .answer d (if named = id then .ok () else .error (.wrongId id named)) :=
  Response.map_eq_answer.mpr ⟨_, h, checkId_eq hne⟩

/-- **Both forms of an explorer's answer name the same id.** A body of digits, with any number of
quotes on either side and blanks around them, is read as the digits under every status of success
that can carry it. The submission of that transaction is accepted, and the submission of another one
ends in an error with the id that was named. -/
theorem wrapped_id_settles_submission (named front back : String) (k m : Nat)
    (hnamed : Text.isHex named = true) (hfront : Text.isBlankText front = true)
    (hback : Text.isBlankText back = true) :
    let text := Explorer.wrapped front k named m back
    Explorer.publishedId text = named ∧
    (∀ status, hasNoBody status = false → bodyText status (Text.Utf8.encode text) = text) ∧
    ∀ (s : Services) (o : Outlet) (hex : String) (x : Exchange String) (status : Nat)
      (body : List UInt8), o ≠ .nodeProxy → s.exchange? (.publish o hex) = some x →
      isSuccess status = true → bodyText status body = text →
      let response := Delivery.response status body true
      x.read response.read = .ok named ∧
      (∀ server request, x.draft.request? = some request → server request = response →
        x.run server = .ok named) ∧
      ∀ (w : World) (now : Instant) (d : Nat) (name : String),
        w now (.publish o hex) = .answer d (x.read response.read) →
        (∀ id deadline, now + d ≤ deadline →
          ((Provider.outlet o name).submit id hex deadline w now).value =
            some (some (if named = id then .ok () else .error (.wrongId id named)))) ∧
        ∀ (g : Gateway) (limit : Nat) (latch : Latch), TxId.isLongEnough named = true →
          Text.isBlankText hex = false → .outlet o name ∈ g.providers .broadcast → d ≤ limit →
          (g.broadcast w now named hex limit latch).result.result = .ok () := by
  intro text
  have hread : Explorer.publishedId text = named :=
    Explorer.publishedId_wrapped hnamed hfront hback
  have hne : named ≠ "" := by
    rintro rfl
    exact absurd hnamed (by decide)
  refine ⟨hread, fun status hbody => ?_, ?_⟩
  · exact bodyText_encode hbody (Explorer.head?_wrapped hnamed hfront hback)
  intro s o hex x status body ho hx hsuccess hbody response
  have hreply : x.read response.read = .ok named := by
    rw [read_of_success_text hsuccess, hbody, Explorer.read_publish ho hx]
    exact congrArg Except.ok hread
  refine ⟨hreply, ?_, ?_⟩
  · intro server request hrequest hserver
    rw [Exchange.run_of_request hrequest, hserver]
    exact hreply
  · intro w now d name hanswer
    rw [hreply] at hanswer
    constructor
    · intro id deadline hd
      rw [Provider.submit_eq, submission_of_named hne hanswer, Response.course_value_eq_reply]
      exact ⟨d, Nat.le_sub_of_add_le' hd, rfl⟩
    · intro g limit latch hid hhex hp hd
      have haccepted : (Provider.outlet o name).submission named hex w now = .answer d (.ok ()) := by
        rw [submission_of_named hne hanswer, if_pos rfl]
      exact Broadcast.broadcast_of_taken latch hid hhex hp
        (.accepted haccepted (Nat.add_le_add_left hd now))

/-- An id of decimal digits alone. As JSON it is a number. -/
def decimalId : String := "31415926535897932384626433832795028841971693993751"

/-- An explorer answers with the bare id under a status of success, after a blank outside ASCII. -/
def bareAnswer : Delivery :=
  .response 200 (Text.Utf8.encode (Explorer.wrapped "\u3000" 0 decimalId 0 "\n")) true

/-- The transaction with the id is accepted, and another one is not. -/
theorem bare_decimal_id_accepted :
    Text.isHex decimalId = true ∧ TxId.isLongEnough decimalId = true ∧ isSuccess 200 = true ∧
      (let w := explorerAndNode.world fun _ => bareAnswer
      let g := Gateway.withoutMiners {} explorerAndNode.connections
      (g.broadcast w 0 decimalId "00" 10 {}).result.result = .ok () ∧
        ((Provider.outlet .explorer "explorer").submit Search.trialId "00" 10 w 0).value =
          some (some (.error (.wrongId Search.trialId decimalId)))) := by
  have hhex : Text.isHex decimalId = true := by decide
  have hid : TxId.isLongEnough decimalId = true := by decide
  refine ⟨hhex, hid, rfl, ?_⟩
  intro w g
  let x := explorerAndNode.signed (Explorer.publish explorerAndNode.explorer .main "00")
  obtain ⟨request, hrequest⟩ :=
    Option.isSome_iff_exists.mp (show x.draft.request?.isSome = true by decide +kernel)
  have hanswer : w 0 (.publish .explorer "00") = .answer 0 (x.read bareAnswer.read) :=
    congrArg (Response.answer 0) (Exchange.run_of_request hrequest)
  obtain ⟨-, hbody, hsettles⟩ := wrapped_id_settles_submission decimalId "\u3000" "\n" 0 0 hhex
    (by decide) (by decide)
  obtain ⟨-, -, hsubmission⟩ := hsettles explorerAndNode .explorer "00" x 200 _ (by decide) rfl rfl
    (hbody 200 rfl)
  obtain ⟨hsubmit, hbroadcast⟩ := hsubmission w 0 0 "explorer" hanswer
  exact ⟨hbroadcast g 10 {} hid (by decide) (by decide) (Nat.zero_le _),
    hsubmit Search.trialId 10 (Nat.zero_le _)⟩

end Http

end TxGateway
