import TxGateway.Proofs.Search.Walk

namespace TxGateway.Search

/-! # The trail of a search

A search leaves its look-ups behind, one after the other in the order of the providers. From these
it can be told why it went no further. Nothing is assumed about the outside here, so responses may
change with time.

* `inOrder_cons_cases` goes through the ways in which the first look-up ends.
* `Trail` relates providers to the look-ups that are made at them and to what the search ends with.
* `trail_inOrder` says that a search leaves such a trail, by induction on the providers.
* `Trail.value_eq_none_iff` says that a search is lost only by a look-up that crashes.
-/

variable {id : String} {wanted : Inclusion} {deadline now : Instant} {w : World} {p : Provider}
  {ps rest : List Provider} {calls : List CallTrace} {value : Option (Option TxRecord)}

/-- The first look-up passes the limit, or crashes, or finds the transaction, or is answered in vain
and leads on to the next. -/
theorem inOrder_cons_cases (id : String) (wanted : Inclusion) (deadline : Instant) (p : Provider)
    (rest : List Provider) (w : World) (now : Instant) :
    (∃ t, inOrder id wanted deadline (p :: rest) w now =
      ⟨[⟨p.lookUpCall id, now, t, .late⟩], t, some none⟩) ∨
    (∃ t, inOrder id wanted deadline (p :: rest) w now =
      ⟨[⟨p.lookUpCall id, now, t, .crashed⟩], t, none⟩) ∨
    (∃ t r, wanted.metBy id r = true ∧ inOrder id wanted deadline (p :: rest) w now =
      ⟨[⟨p.lookUpCall id, now, t, .answered⟩], t, some (some r)⟩) ∨
    ∃ t, inOrder id wanted deadline (p :: rest) w now =
      ⟨⟨p.lookUpCall id, now, t, .answered⟩ :: (inOrder id wanted deadline rest w t).calls,
        (inOrder id wanted deadline rest w t).finish,
        (inOrder id wanted deadline rest w t).value⟩ := by
  by_cases hlate : ((deadline - now : Nat) : ℕ∞) < (p.sighting id w now).delay
  · exact .inl ⟨_, inOrder_cons_of_late hlate⟩
  · cases hresponse : p.sighting id w now with
    | silence =>
      rw [hresponse] at hlate
      exact absurd (ENat.natCast_lt_top _) hlate
    | crash d =>
      rw [hresponse] at hlate
      have hd : d ≤ deadline - now := Nat.le_of_not_lt fun hlt => hlate (Nat.cast_lt.mpr hlt)
      exact .inr (.inl ⟨_, inOrder_cons_of_crash hresponse hd⟩)
    | answer d reply =>
      rw [hresponse] at hlate
      have hd : d ≤ deadline - now := Nat.le_of_not_lt fun hlt => hlate (Nat.cast_lt.mpr hlt)
      right
      right
      rcases reaches_or_misses wanted id reply with ⟨r, rfl, hmet⟩ | hmiss
      · exact .inl ⟨_, r, hmet, inOrder_cons_of_hit hresponse hd hmet⟩
      · exact .inr ⟨_, inOrder_cons_of_miss hresponse hd hmiss⟩

/-- The look-ups of a search along providers, and what it ends with. -/
inductive Trail (id : String) (wanted : Inclusion) :
    List Provider → List CallTrace → Option (Option TxRecord) → Prop
  /-- Everybody has been asked. -/
  | exhausted : Trail id wanted [] [] (some none)
  /-- The limit passes during a look-up. -/
  | late {p : Provider} {rest : List Provider} {c : CallTrace} (hcall : c.call = p.lookUpCall id)
      (hfate : c.fate = .late) : Trail id wanted (p :: rest) [c] (some none)
  /-- A look-up crashes, and with it the search. -/
  | crashed {p : Provider} {rest : List Provider} {c : CallTrace} (hcall : c.call = p.lookUpCall id)
      (hfate : c.fate = .crashed) : Trail id wanted (p :: rest) [c] none
  /-- A look-up finds the transaction. -/
  | found {p : Provider} {rest : List Provider} {c : CallTrace} {r : TxRecord}
      (hcall : c.call = p.lookUpCall id) (hfate : c.fate = .answered)
      (hmet : wanted.metBy id r = true) : Trail id wanted (p :: rest) [c] (some (some r))
  /-- A look-up is answered in vain, and the next provider is asked. -/
  | next {p : Provider} {rest : List Provider} {c : CallTrace} {calls : List CallTrace}
      {value : Option (Option TxRecord)} (hcall : c.call = p.lookUpCall id)
      (hfate : c.fate = .answered) (hrest : Trail id wanted rest calls value) :
      Trail id wanted (p :: rest) (c :: calls) value

theorem trail_inOrder (id : String) (wanted : Inclusion) (deadline : Instant) (ps : List Provider)
    (w : World) (now : Instant) :
    Trail id wanted ps (inOrder id wanted deadline ps w now).calls
      (inOrder id wanted deadline ps w now).value := by
  -- along the providers; the instant at which the rest of the search begins stays open
  induction ps generalizing now with
  | nil => exact .exhausted
  | cons p rest ih =>
    rcases inOrder_cons_cases id wanted deadline p rest w now with
      ⟨t, h⟩ | ⟨t, h⟩ | ⟨t, r, hmet, h⟩ | ⟨t, h⟩
    · rw [h]
      exact .late rfl rfl
    · rw [h]
      exact .crashed rfl rfl
    · rw [h]
      exact .found rfl rfl hmet
    · rw [h]
      exact .next rfl rfl (ih t)

namespace Trail

/-- A search is lost if and only if one of its look-ups crashes. -/
theorem value_eq_none_iff (h : Trail id wanted ps calls value) :
    value = none ↔ ∃ c ∈ calls, c.fate = .crashed := by
  induction h with
  | exhausted => simp
  | late hcall hfate | crashed hcall hfate | found hcall hfate hmet => simp [hfate]
  | next hcall hfate hrest ih => simp [hfate, ih]

end Trail

end TxGateway.Search
