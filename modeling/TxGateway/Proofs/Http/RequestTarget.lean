import TxGateway.Proofs.Http.NetworkPath
import TxGateway.Proofs.Http.PublishedId

namespace TxGateway.Http

/-! # The target of a request to an explorer

The network of an explorer is part of the address that an exchange names. The request names what is
left of that address when it has been read: dots are resolved, and the rest is encoded. Where base
and id are written plainly, the network is still there.

* `Url.IsPlainBase` and `Url.IsPlainPath` say what it is to be written plainly. A base may have dots,
  since these take away nothing that comes behind it.
* `Url.parse?_of_plain` reads a plain address, and `Url.path_behind` is about its path.
* `Url.IsFront` is what stands before a path in the target of a request.
* `Explorer.targets_under_network` is about all requests to an explorer.
-/

namespace Url

/-- A character that belongs to a path wherever it stands: neither blank nor a control, no slash in
another form, and nothing that ends a path. -/
def isPlain (c : Char) : Bool := 0x20 < c.toNat && c != '\\' && c != '?' && c != '#'

/-- The scheme `http` with two slashes, and behind them a host and whatever plain path. -/
def IsPlainBase (base : String) : Prop :=
  ∃ first rest, base.toList = "http://".toList ++ first :: rest ∧ first ≠ '/' ∧
    ∀ c ∈ first :: rest, isPlain c = true

/-- A segment that stays in its place: neither one dot nor two. -/
def isUndotted (segment : List Char) : Bool := !isDot segment && !isTwoDots segment

/-- A path of plain characters, in which no segment is a dot or two. -/
structure IsPlainPath (path : String) : Prop where
  chars : ∀ c ∈ path.toList, isPlain c = true
  undotted : ∀ segment ∈ segments path.toList, isUndotted segment = true

instance (path : String) : Decidable (IsPlainPath path) :=
  decidable_of_iff
    (path.toList.all isPlain = true ∧ (segments path.toList).all isUndotted = true)
    ⟨fun h => ⟨List.all_eq_true.mp h.1, List.all_eq_true.mp h.2⟩,
      fun h => ⟨List.all_eq_true.mpr h.chars, List.all_eq_true.mpr h.undotted⟩⟩

/-! ## Segments -/

theorem segments_cons {s first : List Char} {rest : List (List Char)} (c : Char)
    (h : segments s = first :: rest) :
    segments (c :: s) = if c == '/' then [] :: first :: rest else (c :: first) :: rest := by
  unfold segments at h ⊢
  rw [List.foldr_cons, h]

theorem exists_segments (s : List Char) : ∃ first rest, segments s = first :: rest := by
  induction s with
  | nil => exact ⟨[], [], rfl⟩
  | cons c s ih =>
    rcases ih with ⟨first, rest, h⟩
    rw [segments_cons c h]
    split <;> exact ⟨_, _, rfl⟩

theorem segments_ne_nil (s : List Char) : segments s ≠ [] := by
  rcases exists_segments s with ⟨first, rest, h⟩
  rw [h]
  exact List.cons_ne_nil _ _

theorem segments_append (a b : List Char) : segments (a ++ '/' :: b) = segments a ++ segments b := by
  induction a with
  | nil =>
    rcases exists_segments b with ⟨first, rest, h⟩
    rw [List.nil_append, segments_cons '/' h, h]
    rfl
  | cons c a ih =>
    rcases exists_segments a with ⟨first, rest, h⟩
    rw [h] at ih
    rw [List.cons_append, segments_cons c ih, segments_cons c h]
    split <;> rfl

theorem encodePath_cons (c : Char) (s : List Char) :
    encodePath (c :: s) = encodeChar pathReserved c ++ encodePath s :=
  List.flatMap_cons

/-- To encode the segments one by one is to encode the path. -/
theorem flatMap_segments (s : List Char) :
    ((segments s).flatMap fun segment => '/' :: encodePath segment) = '/' :: encodePath s := by
  induction s with
  | nil => rfl
  | cons c s ih =>
    rcases exists_segments s with ⟨first, rest, h⟩
    rw [h, List.flatMap_cons] at ih
    rw [segments_cons c h, encodePath_cons]
    by_cases hc : c = '/'
    · subst hc
      have hslash : encodeChar pathReserved '/' = ['/'] := by decide
      rw [if_pos (beq_self_eq_true _), hslash, List.flatMap_cons, List.flatMap_cons, ih]
      rfl
    · rw [if_neg (by simpa using hc), List.flatMap_cons, encodePath_cons]
      simp only [List.cons_append, List.cons.injEq, true_and] at ih ⊢
      rw [List.append_assoc, ih]

/-- Slashes between segments, with one in front, are slashes before segments. -/
theorem intercalate_segments {segments : List (List Char)} (hne : segments ≠ []) :
    '/' :: ['/'].intercalate (segments.map encodePath) =
      segments.flatMap fun segment => '/' :: encodePath segment := by
  induction segments with
  | nil => exact absurd rfl hne
  | cons first rest ih =>
    cases rest with
    | nil => simp [List.intercalate]
    | cons second rest =>
      rw [List.flatMap_cons, ← ih (List.cons_ne_nil _ _)]
      simp [List.intercalate]

/-! ## Dots -/

/-- The segments so far, the last first, after a segment that is not the last. -/
def pass (done : List (List Char)) (segment : List Char) : List (List Char) :=
  if isTwoDots segment then done.tail else if isDot segment then done else segment :: done

theorem resolveDots_append (done front : List (List Char)) {rest : List (List Char)}
    (hrest : rest ≠ []) :
    resolveDots done (front ++ rest) = resolveDots (front.foldl pass done) rest := by
  induction front generalizing done with
  | nil => rfl
  | cons segment front ih =>
    rcases List.exists_cons_of_ne_nil (List.append_ne_nil_of_right_ne_nil front hrest) with
      ⟨next, others, h⟩
    rw [List.foldl_cons, ← ih, List.cons_append, h, resolveDots, pass]
    · split
      · rfl
      · split <;> rfl
    · exact List.cons_ne_nil _ _

theorem resolveDots_of_undotted {rest : List (List Char)} (done : List (List Char))
    (h : ∀ segment ∈ rest, isUndotted segment = true) :
    resolveDots done rest = done.reverse ++ rest := by
  induction rest generalizing done with
  | nil => rw [resolveDots, List.append_nil]
  | cons segment rest ih =>
    have hsegment := h segment List.mem_cons_self
    simp only [isUndotted, Bool.and_eq_true, Bool.not_eq_true'] at hsegment
    rcases hsegment with ⟨hdot, htwo⟩
    cases rest with
    | nil => simp [resolveDots, hdot, htwo]
    | cons next others =>
      have hrest := ih (segment :: done) fun s hs => h s (List.mem_cons_of_mem _ hs)
      rw [resolveDots]
      · simp [hdot, htwo, hrest]
      · exact List.cons_ne_nil _ _

/-! ## Plain addresses -/

theorem isPlain_iff {c : Char} :
    isPlain c = true ↔ 0x20 < c.toNat ∧ c ≠ '\\' ∧ c ≠ '?' ∧ c ≠ '#' := by
  simp [isPlain, and_assoc]

/-- Nothing is left out of a plain text before it is read. -/
theorem readable_of_plain {s : String} (hne : s.toList ≠ [])
    (h : ∀ c ∈ s.toList, isPlain c = true) :
    (Text.trimOf isControlOrSpace s).toList.filter
      (fun c => c != '\t' && c != '\n' && c != '\r') = s.toList := by
  have hvisible : ∀ c ∈ s.toList, 0x20 < c.toNat := fun c hc => (isPlain_iff.mp (h c hc)).1
  have htrim : Text.trimOf isControlOrSpace (String.ofList ([] ++ (s.toList ++ []))) =
      String.ofList s.toList := by
    refine Text.trimOf_between nofun nofun hne fun c hc => ?_
    simpa [isControlOrSpace] using hvisible c hc
  rw [List.nil_append, List.append_nil, String.ofList_toList] at htrim
  rw [htrim]
  refine List.filter_eq_self.mpr fun c hc => ?_
  have hc := hvisible c hc
  simp only [Bool.and_eq_true, bne_iff_ne]
  refine ⟨⟨?_, ?_⟩, ?_⟩ <;> rintro rfl <;> revert hc <;> decide

/-- The host stands between the slashes of the scheme and that of the path. -/
theorem around_host {host : List Char} (rest : List Char) (hne : host ≠ [])
    (hhost : ∀ c ∈ host, isPlain c = true ∧ c ≠ '/') :
    let isInside (c : Char) : Bool := !(isSlash c || c == '?' || c == '#')
    ("//".toList ++ (host ++ '/' :: rest)).dropWhile isSlash = host ++ '/' :: rest ∧
      (host ++ '/' :: rest).takeWhile isInside = host ∧
      (host ++ '/' :: rest).dropWhile isInside = '/' :: rest := by
  intro isInside
  have hslash : ∀ c ∈ host, isSlash c = false := by
    intro c hc
    rcases hhost c hc with ⟨hplain, hslash⟩
    simp [isSlash, hslash, (isPlain_iff.mp hplain).2.1]
  have hinside : ∀ c ∈ host, isInside c = true := by
    intro c hc
    rcases isPlain_iff.mp (hhost c hc).1 with ⟨_, _, hquestion, hhash⟩
    simp [isInside, hslash c hc, hquestion, hhash]
  have hstop : ¬ isInside '/' = true := by decide
  refine ⟨?_, ?_, ?_⟩
  · have hslashes : ∀ c ∈ "//".toList, isSlash c = true := List.all_eq_true.mp (by decide)
    rw [List.dropWhile_append_of_pos hslashes, Text.dropWhile_of_none hne hslash]
  · rw [List.takeWhile_append_of_pos hinside, List.takeWhile_cons_of_neg hstop, List.append_nil]
  · rw [List.dropWhile_append_of_pos hinside, List.dropWhile_cons_of_neg hstop]

/-- A plain path is all that there is, without a query. -/
theorem whole_path {s : List Char} (h : ∀ c ∈ s, isPlain c = true) :
    s.takeWhile (· != '#') = s ∧ s.takeWhile (· != '?') = s ∧ s.dropWhile (· != '?') = [] ∧
      s.map (fun c => if isSlash c then '/' else c) = s := by
  have hhash : ∀ c ∈ s, (c != '#') = true := fun c hc => by
    simpa using (isPlain_iff.mp (h c hc)).2.2.2
  have hquestion : ∀ c ∈ s, (c != '?') = true := fun c hc => by
    simpa using (isPlain_iff.mp (h c hc)).2.2.1
  have hslash : ∀ c ∈ s, (if isSlash c then '/' else c) = c := by
    intro c hc
    by_cases hc' : c = '/'
    · rw [hc']
      rfl
    · simp [isSlash, hc', (isPlain_iff.mp (h c hc)).2.1]
  refine ⟨List.takeWhile_eq_self_iff.mpr hhash, List.takeWhile_eq_self_iff.mpr hquestion,
    List.dropWhile_eq_nil_iff.mpr hquestion, ?_⟩
  rw [List.map_congr_left hslash, List.map_id'']
  exact fun _ => rfl

/-- A plain address is read if its host is, and behind the host comes its path and nothing else. -/
theorem parse?_of_plain {s : String} {host rest : List Char}
    (hs : s.toList = "http://".toList ++ (host ++ '/' :: rest)) (hne : host ≠ [])
    (hhost : ∀ c ∈ host, isPlain c = true ∧ c ≠ '/') (hrest : ∀ c ∈ rest, isPlain c = true) :
    parse? s = (authority? host).map fun authority =>
      ⟨authority.1, authority.2, String.ofList (path ('/' :: rest))⟩ := by
  have hpath : ∀ c ∈ '/' :: rest, isPlain c = true :=
    List.forall_mem_cons.mpr ⟨by decide, hrest⟩
  have hscheme : ∀ c ∈ "http://".toList, isPlain c = true := List.all_eq_true.mp (by decide)
  have hplain : ∀ c ∈ s.toList, isPlain c = true := by
    rw [hs]
    refine List.forall_mem_append.mpr ⟨hscheme, List.forall_mem_append.mpr ⟨?_, hpath⟩⟩
    exact fun c hc => (hhost c hc).1
  have hnonempty : s.toList ≠ [] := by
    rw [hs]
    exact List.cons_ne_nil _ _
  have hafter : afterScheme? s.toList = some ("//".toList ++ (host ++ '/' :: rest)) := by
    rw [hs]
    rfl
  rcases around_host rest hne hhost with ⟨hslashes, hinside, hbehind⟩
  rcases whole_path hpath with ⟨hfragment, hpart, hquery, hslashed⟩
  unfold parse?
  simp only [readable_of_plain hnonempty hplain, hafter, Option.bind_some, Option.bind_eq_bind,
    hslashes, hinside, hbehind, hfragment, hpart, hquery, hslashed, List.append_nil]
  cases authority? host <;> rfl

/-- Segments in front keep to themselves what their dots take away. -/
theorem path_behind (front : List (List Char)) {s rest : List Char}
    (hs : segments s = front ++ segments rest)
    (hrest : ∀ segment ∈ segments rest, isUndotted segment = true) :
    path ('/' :: s) =
      ((front.foldl pass []).reverse.flatMap fun segment => '/' :: encodePath segment) ++
        '/' :: encodePath rest := by
  have hpath : path ('/' :: s) =
      '/' :: ['/'].intercalate ((resolveDots [] (segments s)).map encodePath) := rfl
  have hne : (front.foldl pass []).reverse ++ segments rest ≠ [] :=
    List.append_ne_nil_of_right_ne_nil _ (segments_ne_nil rest)
  rw [hpath, hs, resolveDots_append _ _ (segments_ne_nil rest), resolveDots_of_undotted _ hrest,
    intercalate_segments hne, List.flatMap_append, flatMap_segments]

/-! ## Plain bases -/

/-- Slashes at the end of a base are taken off, and its host stays. -/
theorem IsPlainBase.trimmed {base : String} (h : IsPlainBase base) :
    IsPlainBase (Text.trimEndOf (· == '/') base) := by
  rcases h with ⟨first, rest, hbase, hfirst, hplain⟩
  have hdrop : ∀ s : List Char, (rest.reverse ++ first :: s).dropWhile (· == '/') =
      rest.reverse.dropWhile (· == '/') ++ first :: s := by
    intro s
    have hstop : (first :: s).dropWhile (· == '/') = first :: s :=
      List.dropWhile_cons_of_neg (by simpa using hfirst)
    rw [List.dropWhile_append, hstop]
    split
    · next hnil => rw [List.isEmpty_iff.mp hnil, List.nil_append]
    · rfl
  refine ⟨first, (rest.reverse.dropWhile (· == '/')).reverse, ?_, hfirst, ?_⟩
  · rw [Text.trimEndOf, String.toList_ofList, hbase, List.reverse_append, List.reverse_cons,
      List.append_assoc, List.singleton_append, hdrop]
    simp
  · intro c hc
    rcases List.mem_cons.mp hc with rfl | hc
    · exact hplain _ List.mem_cons_self
    · have hmem := (List.dropWhile_sublist _).subset (List.mem_reverse.mp hc)
      exact hplain c (List.mem_cons_of_mem _ (List.mem_reverse.mp hmem))

/-- Behind the scheme there is a host, and behind the host nothing or a slash. -/
theorem IsPlainBase.exists_host {base : String} (h : IsPlainBase base) :
    ∃ host rest, base.toList = "http://".toList ++ (host ++ rest) ∧ host ≠ [] ∧
      (∀ c ∈ host, isPlain c = true ∧ c ≠ '/') ∧ (∀ c ∈ rest, isPlain c = true) ∧
      (rest = [] ∨ ∃ directories, rest = '/' :: directories) := by
  rcases h with ⟨first, rest, hbase, hfirst, hplain⟩
  rw [hbase]
  clear hbase
  induction rest generalizing first with
  | nil =>
    exact ⟨[first], [], rfl, List.cons_ne_nil _ _,
      List.forall_mem_singleton.mpr ⟨hplain _ List.mem_cons_self, hfirst⟩, nofun, .inl rfl⟩
  | cons second rest ih =>
    rcases List.forall_mem_cons.mp hplain with ⟨hone, hrest⟩
    by_cases hsecond : second = '/'
    · subst hsecond
      exact ⟨[first], '/' :: rest, rfl, List.cons_ne_nil _ _,
        List.forall_mem_singleton.mpr ⟨hone, hfirst⟩, hrest, .inr ⟨rest, rfl⟩⟩
    · rcases ih second hsecond hrest with ⟨host, behind, hsplit, _, hhost, hbehind, hcases⟩
      refine ⟨first :: host, behind, ?_, List.cons_ne_nil _ _,
        List.forall_mem_cons.mpr ⟨⟨hone, hfirst⟩, hhost⟩, hbehind, hcases⟩
      rw [List.append_cancel_left hsplit, List.cons_append]

/-- A path behind a base comes behind the directories of the base. -/
theorem IsPlainBase.exists_directories {base : String} (h : IsPlainBase base) :
    ∃ host directories, host ≠ [] ∧ (∀ c ∈ host, isPlain c = true ∧ c ≠ '/') ∧
      ∀ p : String, (∀ c ∈ p.toList, isPlain c = true) → ∃ s,
        (Text.trimEndOf (· == '/') base ++ "/" ++ p).toList =
          "http://".toList ++ (host ++ '/' :: s) ∧
        segments s = directories ++ segments p.toList ∧ ∀ c ∈ s, isPlain c = true := by
  rcases h.trimmed.exists_host with ⟨host, rest, hbase, hne, hhost, hrest, rfl | ⟨d, rfl⟩⟩
  · refine ⟨host, [], hne, hhost, fun p hp => ⟨p.toList, ?_, rfl, hp⟩⟩
    rw [String.toList_append, String.toList_append, hbase]
    simp
  · refine ⟨host, segments d, hne, hhost, fun p hp => ⟨d ++ '/' :: p.toList, ?_,
      segments_append d p.toList, ?_⟩⟩
    · rw [String.toList_append, String.toList_append, hbase]
      simp
    · exact List.forall_mem_append.mpr ⟨(List.forall_mem_cons.mp hrest).2,
        List.forall_mem_cons.mpr ⟨by decide, hp⟩⟩

/-- What stands before every plain path in the target of a request, when the path has been put behind
a base. -/
def IsFront (base front : String) : Prop :=
  ∀ p : String, IsPlainPath p → ∀ url,
    parse? (Text.trimEndOf (· == '/') base ++ "/" ++ p) = some url →
      url.target = front ++ "/" ++ String.ofList (encodePath p.toList)

theorem IsPlainBase.exists_front {base : String} (h : IsPlainBase base) :
    ∃ front, IsFront base front := by
  rcases h.exists_directories with ⟨host, directories, hne, hhost, haddress⟩
  refine ⟨String.ofList ((directories.foldl pass []).reverse.flatMap fun segment =>
    '/' :: encodePath segment), fun p hp url hurl => ?_⟩
  rcases haddress p hp.chars with ⟨s, hs, hsegments, hplain⟩
  rw [parse?_of_plain hs hne hhost hplain] at hurl
  rcases Option.map_eq_some_iff.mp hurl with ⟨authority, _, rfl⟩
  rw [path_behind directories hsegments hp.undotted]
  apply String.toList_injective
  simp

theorem IsPlainPath.append {p q : String} (hp : IsPlainPath p) (hq : IsPlainPath q) :
    IsPlainPath (p ++ "/" ++ q) := by
  have htoList : (p ++ "/" ++ q).toList = p.toList ++ '/' :: q.toList := by simp
  constructor
  · rw [htoList]
    exact List.forall_mem_append.mpr ⟨hp.chars, List.forall_mem_cons.mpr ⟨by decide, hq.chars⟩⟩
  · rw [htoList, segments_append]
    exact List.forall_mem_append.mpr ⟨hp.undotted, hq.undotted⟩

theorem encodePath_append (p q : String) :
    String.ofList (encodePath (p ++ "/" ++ q).toList) =
      String.ofList (encodePath p.toList) ++ "/" ++ String.ofList (encodePath q.toList) := by
  have hslash : encodeChar pathReserved '/' = ['/'] := by decide
  apply String.toList_injective
  simp [encodePath, hslash]

end Url

/-! ## Explorers -/

namespace Explorer

theorem isPlainPath_name (n : Network) : Url.IsPlainPath n.name := by
  cases n <;> decide

theorem encodePath_name (n : Network) : String.ofList (Url.encodePath n.name.toList) = n.name := by
  cases n <;> decide

theorem target_of_address {e : Endpoint} {front path : String} {n : Network} {url : Url}
    (hfront : Url.IsFront e.url front) (hpath : Url.IsPlainPath path)
    (hstart : Text.trimStartOf (· == '/') path = path)
    (hurl : Url.parse? (address e n path) = some url) :
    url.target = front ++ "/" ++ n.name ++ "/" ++ String.ofList (Url.encodePath path.toList) := by
  have hjoined : address e n path =
      Text.trimEndOf (· == '/') e.url ++ "/" ++ (n.name ++ "/" ++ path) := by
    rw [address_eq, hstart]
    simp only [String.append_assoc]
  rw [hjoined] at hurl
  rw [hfront _ ((isPlainPath_name _).append hpath) url hurl, Url.encodePath_append, encodePath_name]
  simp only [String.append_assoc]

/-- **The network is in the target of every request to an explorer.** What stands before it depends on
the base of the explorer alone, and not on the services that send the request. -/
theorem targets_under_network {e : Endpoint} (hbase : Url.IsPlainBase e.url) :
    ∃ front : String, ∀ (s : Services) (outlet : Outlet), s.explorerAt? outlet = some e →
      (∀ hex r, s.request? (.publish outlet hex) = some r →
        r.url.target = front ++ "/" ++ s.network.name ++ "/" ++ "tx/raw") ∧
      ∀ id r, Url.IsPlainPath id → s.request? (.find outlet id) = some r →
        r.url.target = front ++ "/" ++ s.network.name ++ "/" ++
          ("tx/hash" ++ "/" ++ String.ofList (Url.encodePath id.toList)) := by
  rcases hbase.exists_front with ⟨front, hfront⟩
  refine ⟨front, fun s outlet he => ⟨?_, ?_⟩⟩
  · intro hex r hr
    have hurl := Services.url_of_request (Services.exchange?_publish he hex) hr
    rw [Services.address_publish] at hurl
    have hraw : String.ofList (Url.encodePath "tx/raw".toList) = "tx/raw" := by decide
    rw [target_of_address hfront (by decide) (by decide) hurl, hraw]
  · intro id r hid hr
    have hurl := Services.url_of_request (Services.exchange?_find he id) hr
    rw [Services.address_find] at hurl
    have hpath : "tx/hash/" ++ id = "tx/hash" ++ "/" ++ id := by
      rw [show "tx/hash/" = "tx/hash" ++ "/" by rfl]
    have hhash : String.ofList (Url.encodePath "tx/hash".toList) = "tx/hash" := by decide
    have hstem : Url.IsPlainPath "tx/hash" := by decide
    have hplain : Url.IsPlainPath ("tx/hash" ++ "/" ++ id) := hstem.append hid
    have hstart : Text.trimStartOf (· == '/') ("tx/hash" ++ "/" ++ id) = "tx/hash" ++ "/" ++ id := by
      have hdrop : ("tx/hash" ++ "/" ++ id).toList.dropWhile (· == '/') =
          ("tx/hash" ++ "/" ++ id).toList := by
        rw [String.toList_append, String.toList_append]
        rfl
      rw [Text.trimStartOf, hdrop, String.ofList_toList]
    rw [hpath] at hurl
    rw [target_of_address hfront hplain hstart hurl, Url.encodePath_append, hhash]

/-- An id that is not plain may lead a request to another network. -/
example : ((Services.ofSettings (oneExplorer .main) none).request?
    (.find .explorer "../../../test/tx/hash/00")).map (fun r => r.url.target) =
      some "/v1/test/tx/hash/00" := by
  decide +kernel

end Explorer

end TxGateway.Http
